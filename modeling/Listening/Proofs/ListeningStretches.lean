import Listening.Proofs.SessionReports

/-!
# What happens to the stretches of a play

The operations on stretches can fail, but for a sound player they do not, and
then each is a plain function: `Player.shut` closes the open stretch,
`Range.held` is a stretch that goes on, and `Player.tracking` is a player
that has begun a play. What they do to the time listened can be said exactly,
in microseconds: closing a stretch changes nothing, since one that is dropped
covers no time, and a stretch that goes on gains the time since its end – or
none, if the clock has gone back behind it.
-/

namespace Listening

/-- The time that some stretches cover, in microseconds. -/
def Range.total (rs : List Range) : Int := rs.foldr (fun r sum => r.wallclock + sum) 0

/-- The seconds that some stretches cover, one after the other. -/
def Range.totalSeconds (rs : List Range) : Float :=
  rs.foldl (fun sum r => sum + Instant.seconds r.wallclock) 0

namespace Range

@[simp] theorem total_nil : total [] = 0 := rfl

@[simp] theorem total_singleton (r : Range) : total [r] = r.wallclock := Int.add_zero _

@[simp] theorem total_append (rs rs' : List Range) :
    total (rs ++ rs') = total rs + total rs' := by
  induction rs with
  | nil => exact (Int.zero_add _).symm
  | cons r rs ih =>
    show r.wallclock + total (rs ++ rs') = r.wallclock + total rs + total rs'
    rw [ih, Int.add_assoc]

/-- **A stretch that goes on** until now, or until its end if the clock has
gone back. -/
def held (r : Range) (position : Option Float) (now : Instant) : Range :=
  { r with stop := ⟨Player.heldTime r now, position, none⟩ }

/-- A stretch that goes on gains the time since its end, and never loses
any. -/
theorem wallclock_held (r : Range) (position : Option Float) (now : Instant) :
    (r.held position now).wallclock = r.wallclock + max 0 (now.micros - r.stop.time.micros) := by
  unfold wallclock held Player.heldTime Instant.minus
  dsimp only
  split <;> omega

end Range

namespace Player

variable {platform : String} {p : Player} {now : Instant}

/-! ## The time listened -/

/-- The time listened is that of the closed stretches and of the open one. -/
theorem listenedMicros_eq (p : Player) :
    p.listenedMicros = Range.total p.closed + Range.total p.opened.toList :=
  Range.total_append p.closed p.opened.toList

/-- The play tracked, as far as it was heard. -/
theorem played_eq {track : Play} {start : Instant} (hcurrent : p.current = some track)
    (hstart : p.firstSeen = some start) : p.played = some
      { track with
        playedAt := some start
        listenedFor := .seconds (Range.totalSeconds p.ranges)
        ranges := some p.ranges } := by
  unfold played
  rw [hcurrent, hstart]
  rfl

/-! ## Closing a stretch -/

/-- A stretch with its last position settled. -/
def settle (p : Player) (r : Range) : Range :=
  match p.settled? r with
  | .ok r => r
  | .error _ => r

/-- The last position of a stretch of a sound player is settled. -/
theorem Sound.settled?_eq (hs : p.Sound platform) (r : Range) :
    p.settled? r = .ok (p.settle r) := by
  obtain ⟨position, h⟩ := hs.exists_settled? r
  unfold settle
  rw [h]

/-- Nothing but its last position is settled of a stretch. -/
theorem Sound.exists_settle (hs : p.Sound platform) (r : Range) :
    ∃ position, p.settle r = r.finalize position := by
  obtain ⟨position, h⟩ := hs.exists_settled? r
  exact ⟨position, Except.ok.inj ((hs.settled?_eq r).symm.trans h)⟩

/-- **A player that has closed its open stretch**, if there was one. One that
covers no time is dropped. -/
def shut (p : Player) : Player :=
  match p.opened with
  | none => p
  | some r =>
    if 0 < r.wallclock then { p with closed := p.closed ++ [p.settle r], opened := none }
    else { p with opened := none }

/-- Closing the open stretch of a sound player. -/
theorem Sound.closeRange_eq (hs : p.Sound platform) : p.closeRange = .ok () p.shut := by
  unfold Player.closeRange Player.shut
  cases p.opened with
  | none => rfl
  | some r =>
    simp only [hs.settled?_eq r]
    split <;> rfl

/-- A player with its open stretch closed is still sound. -/
theorem Sound.shut (hs : p.Sound platform) : p.shut.Sound platform := by
  obtain ⟨p', hclosed, hs', -⟩ := hs.closeRange
  rw [hs.closeRange_eq] at hclosed
  obtain rfl : p.shut = p' := congrArg Step.state hclosed
  exact hs'

/-- A player with its open stretch closed tracks the same play. -/
theorem Sound.keeps_shut (hs : p.Sound platform) : p.Keeps p.shut := by
  obtain ⟨p', hclosed, -, hkeeps⟩ := hs.closeRange
  rw [hs.closeRange_eq] at hclosed
  obtain rfl : p.shut = p' := congrArg Step.state hclosed
  exact hkeeps

@[simp] theorem opened_shut (p : Player) : p.shut.opened = none := by
  unfold Player.shut
  cases h : p.opened with
  | none => exact h
  | some r =>
    dsimp only
    split <;> rfl

@[simp] theorem status_shut (p : Player) : p.shut.status = p.status := by
  unfold Player.shut
  cases h : p.opened with
  | none => rfl
  | some r =>
    dsimp only
    split <;> rfl

@[simp] theorem current_shut (p : Player) : p.shut.current = p.current := by
  unfold Player.shut
  cases h : p.opened with
  | none => rfl
  | some r =>
    dsimp only
    split <;> rfl

/-- **The stretches after the open one is closed**: one that covers no time
is gone, and any other has the same ends. -/
theorem Sound.ranges_shut (hs : p.Sound platform) :
    p.shut.ranges = p.closed ∧ (∀ r, p.opened = some r → r.wallclock ≤ 0)
      ∨ ∃ r position, p.opened = some r ∧ 0 < r.wallclock
        ∧ p.shut.ranges = p.closed ++ [r.finalize position] := by
  unfold Player.ranges
  rw [opened_shut, Option.toList_none, List.append_nil]
  unfold Player.shut
  cases hopened : p.opened with
  | none => exact Or.inl ⟨rfl, fun _ h => nomatch h⟩
  | some r =>
    by_cases hlong : 0 < r.wallclock
    · obtain ⟨position, hsettle⟩ := hs.exists_settle r
      refine Or.inr ⟨r, position, rfl, hlong, ?_⟩
      dsimp only
      rw [if_pos hlong, hsettle]
    · refine Or.inl ⟨?_, fun r' hr' => ?_⟩
      · dsimp only
        rw [if_neg hlong]
      · obtain rfl := Option.some.inj hr'
        exact Int.not_lt.mp hlong

/-- **Closing a stretch changes nothing in the time listened.** -/
theorem Sound.listenedMicros_shut (hs : p.Sound platform) :
    p.shut.listenedMicros = p.listenedMicros := by
  rw [listenedMicros_eq p]
  show Range.total p.shut.ranges = _
  rcases hs.ranges_shut with ⟨hranges, hshort⟩ | ⟨r, position, hopened, -, hranges⟩
  · rw [hranges]
    cases hopened : p.opened with
    | none => exact (Int.add_zero _).symm
    | some r =>
      have horder := (hs.opened r hopened).2
      have hle := hshort r hopened
      rw [Option.toList_some, Range.total_singleton]
      unfold Range.wallclock Instant.minus at hle ⊢
      omega
  · rw [hranges, hopened, Range.total_append, Range.total_singleton, Option.toList_some,
      Range.total_singleton, Range.wallclock_finalize]

/-! ## Opening and extending one -/

/-- Opening a stretch where none is open adds nothing to the time listened. -/
theorem listenedMicros_openRange (hopened : p.opened = none) (position : Option Float)
    (now : Instant) : (p.openRange position now).listenedMicros = p.listenedMicros := by
  rw [listenedMicros_eq, listenedMicros_eq p, hopened]
  show Range.total p.closed + Range.total [_] = _
  rw [Range.total_singleton, Range.wallclock_opened]
  rfl

/-- A player whose open stretch goes on until now. -/
def holding (r : Range) (position : Option Float) (now : Instant) (p : Player) : Player :=
  { p with opened := some (r.held position now) }

/-- Extending the open stretch of a sound player. -/
theorem Sound.extend_eq (hs : p.Sound platform) (hnow : now.offset.isSome = true) {r : Range}
    (hopened : p.opened = some r) (position : Option Float) :
    p.extend r position now = .ok () (p.holding r position now) := by
  obtain ⟨p', hextended, -, -⟩ := hs.extend hnow hopened position
  unfold Player.extend at hextended ⊢
  cases hset : r.setStop? ⟨heldTime r now, position, none⟩ with
  | error e =>
    rw [hset] at hextended
    exact absurd hextended Step.fail_ne_ok
  | ok r' =>
    unfold Range.setStop? at hset
    cases hbefore : (heldTime r now).before? r.start.time with
    | error e =>
      rw [hbefore] at hset
      exact nomatch hset
    | ok before =>
      rw [hbefore] at hset
      cases before with
      | true => exact nomatch hset
      | false =>
        obtain rfl := Except.ok.inj hset
        rfl

/-- A player whose open stretch was extended is still sound. -/
theorem Sound.holding (hs : p.Sound platform) (hnow : now.offset.isSome = true) {r : Range}
    (hopened : p.opened = some r) (position : Option Float) :
    (p.holding r position now).Sound platform := by
  obtain ⟨p', hextended, hs', -⟩ := hs.extend hnow hopened position
  rw [hs.extend_eq hnow hopened position] at hextended
  obtain rfl : p.holding r position now = p' := congrArg Step.state hextended
  exact hs'

/-- **A stretch that goes on adds the time since its end.** -/
theorem listenedMicros_holding {r : Range} (hopened : p.opened = some r)
    (position : Option Float) (now : Instant) :
    (p.holding r position now).listenedMicros
      = p.listenedMicros + max 0 (now.micros - r.stop.time.micros) := by
  rw [listenedMicros_eq, listenedMicros_eq p, hopened]
  show Range.total p.closed + Range.total [_] = Range.total p.closed + Range.total [_] + _
  rw [Range.total_singleton, Range.total_singleton, Range.wallclock_held, Int.add_assoc]

/-! ## Beginning a play -/

/-- **A player that has begun to track a play.** -/
def tracking (play : Play) (position : Option Float) (now : Instant) (p : Player) : Player :=
  if p.status = .playing then
    (p.beginning play now).openRange (position <|> play.position) now
  else p.beginning play now

/-- Beginning a typed play. -/
theorem begin_eq_tracking {play : Play} (hplay : play.Typed) (position : Option Float)
    (now : Instant) (p : Player) :
    p.begin play position now = .ok () (p.tracking play position now) := by
  rw [begin_eq hplay]
  unfold tracking
  show (if p.status = .playing then _ else _) = _
  split <;> rfl

theorem begins_tracking (play : Play) (position : Option Float) (now : Instant) (p : Player) :
    p.Begins now play (p.tracking play position now) := by
  unfold tracking
  split <;> exact ⟨rfl, rfl, rfl⟩

/-- A player that begins a play is sound, whatever it tracked before. -/
theorem sound_tracking {play : Play} (hplay : play.Typed) (position : Option Float)
    (hnow : now.offset.isSome = true) (p : Player) :
    (p.tracking play position now).Sound play.platform.name := by
  obtain ⟨p', hbegun, hs, -, -⟩ := Sound.begin ⟨hplay, rfl⟩ hnow position p
  rw [begin_eq_tracking hplay] at hbegun
  obtain rfl : p.tracking play position now = p' := congrArg Step.state hbegun
  exact hs

end Player

end Listening
