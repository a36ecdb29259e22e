import Listening.Proofs.PlayerCalls

/-!
# Whatever is asked of a player, at whatever time

The parts of which a player's calls are made can be asked for as well: to
begin a play, to go on with one, to close the open stretch, to stop, to
forget the play. `Player.Operation` is any of them, and they may come in any
order, at times that jump forwards and back, with plays of any data. An
operation may fail over such data, and then leaves what it had done by then;
but none is ever refused because a stretch would end before it starts. The
stretches of a player are well-formed at all times: closed ones have gone on
for some time, and the open one has not gone back.

`Step.Safe` says both of one operation, that what it leaves is well-formed and
that it was not refused for that reason, and it is carried from the parts of
an operation to the whole. Of the calls alone more is known: a stretch is
open only while a play is tracked that plays, and of which there is news.
-/

namespace Listening

/-! ## What does not fail for a reason -/

section Faults

variable {α β : Type} {e : Fault}

theorem bind_ne_error {x : Except Fault α} {f : α → Except Fault β} (hx : x ≠ .error e)
    (hf : ∀ a, f a ≠ .error e) : x.bind f ≠ .error e := by
  cases x with
  | ok a => exact hf a
  | error e' => exact fun h => hx (congrArg Except.error (Except.error.inj h))

theorem map_ne_error {x : Except Fault α} {f : α → β} (hx : x ≠ .error e) :
    x.map f ≠ .error e := by
  cases x with
  | ok a => exact fun h => nomatch h
  | error e' => exact fun h => hx (congrArg Except.error (Except.error.inj h))

theorem mapM_ne_error {f : α → Except Fault β} (hf : ∀ a, f a ≠ .error e) (as : List α) :
    as.mapM f ≠ .error e := by
  induction as with
  | nil => exact fun h => nomatch h
  | cons a as ih =>
    rw [List.mapM_cons]
    exact bind_ne_error (hf a) (fun b => bind_ne_error ih (fun bs h => nomatch h))

end Faults

theorem Label.text?_ne_endsBeforeStart (l : Label) : l.text? ≠ .error .endsBeforeStart := by
  unfold Label.text?
  split <;> exact fun h => nomatch h

theorem Label.normal?_ne_endsBeforeStart (l : Label) : l.normal? ≠ .error .endsBeforeStart := by
  cases l with
  | absent => exact fun h => nomatch h
  | text s => exact fun h => nomatch h
  | other v =>
    unfold Label.normal?
    dsimp only
    split <;> exact fun h => nomatch h

theorem Amount.number?_ne_endsBeforeStart (a : Amount) :
    a.number? ≠ .error .endsBeforeStart := by
  unfold Amount.number?
  split <;> exact fun h => nomatch h

theorem Amount.counted?_ne_endsBeforeStart (a : Amount) :
    a.counted? ≠ .error .endsBeforeStart := by
  unfold Amount.counted?
  split
  · exact a.number?_ne_endsBeforeStart
  · exact fun h => nomatch h

theorem Play.describe?_ne_endsBeforeStart (p : Play) :
    p.describe? ≠ .error .endsBeforeStart :=
  bind_ne_error (map_ne_error (mapM_ne_error Label.text?_ne_endsBeforeStart p.artists))
    (fun _ h => nomatch h)

theorem Match.content?_ne_endsBeforeStart (a b : Play) :
    Match.content? a b ≠ .error .endsBeforeStart := by
  have hartists : ∀ p, artistNames? p ≠ .error .endsBeforeStart := fun p =>
    map_ne_error (mapM_ne_error Label.normal?_ne_endsBeforeStart p.artists)
  have halbum : sameAlbum? a b ≠ .error .endsBeforeStart := by
    unfold sameAlbum?
    split
    · exact bind_ne_error a.album.normal?_ne_endsBeforeStart (fun _ =>
        bind_ne_error b.album.normal?_ne_endsBeforeStart (fun _ h => nomatch h))
    · exact fun h => nomatch h
  unfold content?
  split
  · exact fun h => nomatch h
  · refine bind_ne_error a.title.normal?_ne_endsBeforeStart (fun x =>
      bind_ne_error b.title.normal?_ne_endsBeforeStart (fun y => ?_))
    split
    · exact fun h => nomatch h
    · refine bind_ne_error halbum (fun same => ?_)
      split
      · exact fun h => nomatch h
      · exact bind_ne_error (hartists a) (fun _ =>
          bind_ne_error (hartists b) (fun _ h => nomatch h))

/-! ## Safe steps -/

/-- **A step that leaves what it should**, and was not refused because a
stretch would end before it starts. -/
structure Step.Safe {σ α : Type} (P : σ → Prop) (x : Step σ α) : Prop where
  /-- What it leaves is as it should be. -/
  state : P x.state
  /-- It may have failed, but not for that reason. -/
  result : x.result ≠ .error .endsBeforeStart

namespace Step

variable {σ α β : Type} {P : σ → Prop} {s : σ}

theorem safe_ok (h : P s) (a : α) : Safe P (ok a s) := ⟨h, fun he => nomatch he⟩

/-- One step after the other is safe. -/
theorem Safe.andThen {x : Step σ α} (hx : x.Safe P) {f : α → σ → Step σ β}
    (hf : ∀ a s, P s → (f a s).Safe P) : (x.andThen f).Safe P := by
  obtain ⟨result, s⟩ := x
  cases result with
  | ok a => exact hf a s hx.state
  | error e =>
    exact ⟨hx.state, fun he => hx.result (congrArg Except.error (Except.error.inj he))⟩

/-- A step after a value that may be missing is safe. -/
theorem safe_of_andThen {r : Except Fault α} (hr : r ≠ .error .endsBeforeStart) (hs : P s)
    {f : α → σ → Step σ β} (hf : ∀ a, (f a s).Safe P) : ((of r s).andThen f).Safe P := by
  cases r with
  | ok a => exact hf a
  | error e => exact ⟨hs, fun he => hr (congrArg Except.error (Except.error.inj he))⟩

end Step

namespace Player

open Step (Safe)

variable {p : Player} {now : Instant} {r : Range}

/-! ## Well-formed players -/

/-- **A player whose stretches do not go back.** -/
structure WellFormed (p : Player) : Prop where
  /-- A closed stretch ends after it starts. -/
  closed : ∀ r ∈ p.closed, r.isClocked = true ∧ r.start.time.micros < r.stop.time.micros
  /-- The open one ends no earlier than it starts. -/
  opened : ∀ r, p.opened = some r →
    r.isClocked = true ∧ r.start.time.micros ≤ r.stop.time.micros

/-- A player that has just closed all of its stretches is as well-formed. -/
theorem WellFormed.dropOpen (h : p.WellFormed) : WellFormed { p with opened := none } :=
  ⟨h.closed, fun _ hr => nomatch hr⟩

theorem WellFormed.openRange (h : p.WellFormed) (hnow : now.offset.isSome = true)
    (position : Option Float) : (p.openRange position now).WellFormed := by
  refine ⟨h.closed, fun r hr => ?_⟩
  obtain rfl := Option.some.inj hr
  exact ⟨Bool.and_eq_true_iff.mpr ⟨hnow, hnow⟩, Int.le_refl _⟩

theorem settled?_ne_endsBeforeStart (p : Player) (r : Range) :
    p.settled? r ≠ .error .endsBeforeStart := by
  unfold settled?
  split
  · refine bind_ne_error (Amount.number?_ne_endsBeforeStart _) (fun length => ?_)
    split <;> exact fun h => nomatch h
  · exact fun h => nomatch h

/-- Settling the last position of a stretch leaves its times. -/
theorem exists_finalize_of_settled? {r' : Range} (h : p.settled? r = .ok r') :
    ∃ position, r' = r.finalize position := by
  unfold settled? at h
  split at h
  · rename_i play last _ _
    cases hlength : play.duration.number? with
    | error e => rw [hlength] at h; exact nomatch h
    | ok length =>
      rw [hlength] at h
      cases length with
      | none => exact ⟨none, (Except.ok.inj h).symm⟩
      | some length =>
        have he := (Except.ok.inj h).symm
        by_cases hend : length - last < endTolerance
        · exact ⟨some length, he.trans (if_pos hend)⟩
        · exact ⟨none, he.trans (if_neg hend)⟩
  · exact ⟨none, (Except.ok.inj h).symm⟩

/-- **Closing the open stretch** is safe: one that is kept covers some
time. -/
theorem WellFormed.safe_closeRange (h : p.WellFormed) : Safe WellFormed p.closeRange := by
  unfold Player.closeRange
  cases hopened : p.opened with
  | none => exact Step.safe_ok h ()
  | some r =>
    dsimp only
    split
    · rename_i hlong
      cases hsettled : p.settled? r with
      | error e =>
        exact ⟨h, fun he => p.settled?_ne_endsBeforeStart r (hsettled.trans
          (congrArg Except.error (Except.error.inj he)))⟩
      | ok r' =>
        obtain ⟨position, rfl⟩ := exists_finalize_of_settled? hsettled
        refine Step.safe_ok ⟨fun r' hr' => ?_, fun _ hr' => nomatch hr'⟩ ()
        rcases List.mem_append.mp hr' with hr' | hr'
        · exact h.closed r' hr'
        · obtain rfl := List.mem_singleton.mp hr'
          unfold Range.wallclock Instant.minus at hlong
          have hclocked := (h.opened r hopened).1
          cases position <;> exact ⟨hclocked, Int.lt_of_sub_pos hlong⟩
    · exact Step.safe_ok h.dropOpen ()

/-- **Extending the open stretch** is safe, as its end is held. -/
theorem WellFormed.safe_extend (h : p.WellFormed) (hnow : now.offset.isSome = true)
    (hopened : p.opened = some r) (position : Option Float) :
    Safe WellFormed (p.extend r position now) := by
  obtain ⟨hclocked, hforward⟩ := h.opened r hopened
  obtain ⟨hstart, hstop⟩ := Bool.and_eq_true_iff.mp hclocked
  have hheld : (heldTime r now).offset.isSome = true := by
    unfold heldTime
    split
    · exact hstop
    · exact hnow
  have hlater := Int.le_trans hforward (stop_le_heldTime r now)
  have hset : r.setStop? ⟨heldTime r now, position, none⟩ = .ok (r.held position now) := by
    unfold Range.setStop?
    rw [Instant.before?_of_comparable (Instant.comparable_of_isSome hheld hstart),
      decide_eq_false (Int.not_lt.mpr hlater)]
    rfl
  unfold Player.extend
  rw [hset]
  refine Step.safe_ok ⟨h.closed, fun r' hr' => ?_⟩ ()
  obtain rfl := Option.some.inj hr'
  exact ⟨Bool.and_eq_true_iff.mpr ⟨hstart, hheld⟩, hlater⟩

/-- **Beginning a play** is safe, whatever was before. -/
theorem safe_begin (play : Play) (position : Option Float) (hnow : now.offset.isSome = true)
    (p : Player) : Safe WellFormed (p.begin play position now) := by
  have hbeginning : (p.beginning play now).WellFormed :=
    ⟨fun _ hr => absurd hr List.not_mem_nil, fun _ hr => nomatch hr⟩
  unfold Player.begin
  refine Step.safe_of_andThen play.describe?_ne_endsBeforeStart hbeginning (fun _ => ?_)
  split
  · exact Step.safe_ok (hbeginning.openRange hnow _) ()
  · exact Step.safe_ok hbeginning ()

theorem isRepeat?_ne_endsBeforeStart (p : Player) (play : Play) (r : Range) (position : Float) :
    p.isRepeat? play r position ≠ .error .endsBeforeStart := by
  have hstart : ∀ absolute percent,
      Threshold.closeToStart? play position absolute percent ≠ .error .endsBeforeStart :=
    fun _ _ => bind_ne_error play.duration.counted?_ne_endsBeforeStart
      (fun length => by cases length <;> exact fun h => nomatch h)
  have hend : ∀ last absolute percent,
      Threshold.closeToEnd? play last absolute percent ≠ .error .endsBeforeStart :=
    fun _ _ _ => bind_ne_error play.duration.counted?_ne_endsBeforeStart
      (fun length => by cases length <;> exact fun h => nomatch h)
  have hrepeat : ∀ absolute percent,
      Threshold.repeatPlayed? play p.listened absolute percent ≠ .error .endsBeforeStart :=
    fun _ _ => bind_ne_error play.duration.counted?_ne_endsBeforeStart
      (fun length => by cases length <;> exact fun h => nomatch h)
  unfold isRepeat?
  refine bind_ne_error (hstart _ _) (fun near => ?_)
  dsimp only
  split
  · exact fun h => nomatch h
  · exact bind_ne_error (hend _ _ _)
      (fun _ => bind_ne_error (hrepeat _ _) (fun _ h => nomatch h))

theorem repeated?_ne_endsBeforeStart (p : Player) (r : Range) (position : Option Float)
    (moved : Float) : p.repeated? r position moved ≠ .error .endsBeforeStart := by
  unfold repeated?
  split
  · split
    · exact bind_ne_error (p.isRepeat?_ne_endsBeforeStart _ r _) (fun _ h => nomatch h)
    · exact fun h => nomatch h
  · exact fun h => nomatch h

/-- **Going on with a play** is safe. -/
theorem WellFormed.safe_goOn (h : p.WellFormed) (hnow : now.offset.isSome = true)
    (position : Option Float) : Safe WellFormed (p.goOn position now) := by
  unfold Player.goOn
  cases hopened : p.opened with
  | none => exact Step.safe_ok (h.openRange hnow position) none
  | some r =>
    obtain ⟨moved, hmoved⟩ := exists_seek? (h.opened r hopened).1 hnow position
    dsimp only
    rw [hmoved, Step.of_ok, Step.andThen_ok]
    cases moved with
    | none =>
      exact (h.safe_extend hnow hopened position).andThen (fun _ _ h' => Step.safe_ok h' none)
    | some moved =>
      refine Step.safe_of_andThen (p.repeated?_ne_endsBeforeStart r position moved) h
        (fun again => h.safe_closeRange.andThen (fun _ q hq => ?_))
      cases again with
      | none => exact Step.safe_ok (hq.openRange hnow position) none
      | some play =>
        exact (safe_begin play position hnow q).andThen (fun _ _ h' => Step.safe_ok h' _)

/-- **Replacing the play tracked** is safe: what it was heard until now is
held. -/
theorem WellFormed.safe_replace (h : p.WellFormed) (hnow : now.offset.isSome = true)
    (old play : Play) : Safe WellFormed (p.replace old play now) := by
  refine Step.safe_of_andThen (bind_ne_error play.describe?_ne_endsBeforeStart
    (fun _ => old.describe?_ne_endsBeforeStart)) h (fun _ => ?_)
  refine Safe.andThen ?_ (fun _ q hq => hq.safe_closeRange.andThen (fun _ q hq =>
    (safe_begin play none hnow q).andThen (fun _ _ h' => Step.safe_ok h' _)))
  cases hopened : p.opened with
  | none => exact Step.safe_ok h ()
  | some r => exact h.safe_extend hnow hopened r.position

/-- A track is shown while one is tracked. -/
theorem observe_of_tracked {old : Play} (h : p.current = some old) (play : Play)
    (status : Status)
    (now : Instant) : p.observe play status now
      = (Step.of (Match.content? old play) (p.noted status now)).andThen fun same p =>
          if !same then p.replace old play now
          else if status = .playing then
            (p.goOn play.position now).andThen fun finished p => .ok ⟨p.played, finished⟩ p
          else p.closeRange.andThen fun _ p => .ok ⟨p.played, none⟩ p := by
  unfold observe noted
  simp only [h]

/-- **Showing a track** is safe. -/
theorem WellFormed.safe_observe (h : p.WellFormed)
    (hnow : now.offset.isSome = true) (play : Play)
    (status : Status) : Safe WellFormed (p.observe play status now) := by
  have hnoted : (p.noted status now).WellFormed := ⟨h.closed, h.opened⟩
  cases hcurrent : p.current with
  | none =>
    rw [observe_of_none hcurrent]
    exact (safe_begin play none hnow (p.noted status now)).andThen
      (fun _ _ h' => Step.safe_ok h' _)
  | some old =>
    rw [observe_of_tracked hcurrent]
    refine Step.safe_of_andThen (Match.content?_ne_endsBeforeStart old play) hnoted
      (fun same => ?_)
    split
    · exact hnoted.safe_replace hnow old play
    · split
      · exact (hnoted.safe_goOn hnow play.position).andThen (fun _ _ h' => Step.safe_ok h' _)
      · exact hnoted.safe_closeRange.andThen (fun _ _ h' => Step.safe_ok h' _)

/-- **Stopping** is safe. -/
theorem WellFormed.safe_stop (h : p.WellFormed) (now : Instant) :
    Safe WellFormed (p.stop now) := by
  have hstopped : WellFormed { p with status := .stopped, updated := some now } :=
    ⟨h.closed, h.opened⟩
  exact hstopped.safe_closeRange

theorem wellFormed_clear (p : Player) : p.clear.WellFormed :=
  ⟨fun _ hr => absurd hr List.not_mem_nil, fun _ hr => nomatch hr⟩

/-- **Every call is safe.** -/
theorem WellFormed.safe_call (h : p.WellFormed) (hnow : now.offset.isSome = true) (call : Call) :
    Safe WellFormed (call.perform now p) := by
  cases call with
  | observe play status => exact h.safe_observe hnow play status
  | checkStale =>
    refine Safe.andThen ?_ (fun _ _ h' => Step.safe_ok h' _)
    unfold Player.checkStale
    dsimp only
    split
    · have hmarked : WellFormed { p with isStale := true } := ⟨h.closed, h.opened⟩
      exact hmarked.safe_closeRange.andThen (fun _ _ h' => Step.safe_ok h' _)
    · exact Step.safe_ok h _
  | report status play =>
    have hheard : WellFormed { p with heard := now } := ⟨h.closed, h.opened⟩
    unfold Call.perform Player.report
    cases play with
    | some play => exact hheard.safe_observe hnow play _
    | none =>
      cases status with
      | none => exact Step.safe_ok hheard _
      | some status =>
        dsimp only
        split
        · exact (hheard.safe_stop now).andThen (fun _ q _ => Step.safe_ok q.wellFormed_clear _)
        · have hchanged : WellFormed { p with heard := now, status := status } :=
            ⟨h.closed, h.opened⟩
          refine Safe.andThen ?_ (fun _ _ h' => Step.safe_ok h' _)
          split
          · exact Step.safe_ok hchanged ()
          · exact hchanged.safe_closeRange

/-! ## Operations -/

/-- **What can be asked of a player**: a call, or one of the parts of which
calls are made. -/
inductive Operation where
  /-- A call. -/
  | call (call : Call)
  /-- To begin to track a play, at a position or else at the one reported. -/
  | begin (play : Play) (position : Option Float)
  /-- To go on with the play tracked. -/
  | goOn (position : Option Float)
  /-- To close the open stretch. -/
  | closeRange
  /-- To mark the player as stopped. -/
  | stop
  /-- To forget the play tracked. -/
  | clear

namespace Operation

/-- Whether the play that comes with an operation, if one does, is typed. -/
def Typed : Operation → Prop
  | .call c => c.Typed
  | .begin play _ => play.Typed
  | _ => True

/-- Whether an operation is a call. -/
def IsCall (op : Operation) : Prop := ∃ c, op = .call c

/-- **An operation**, apart from what it hands out. -/
def perform (op : Operation) (now : Instant) (p : Player) : Step Player Unit :=
  match op with
  | .call c => (c.perform now p).andThen fun _ p => .ok () p
  | .begin play position => p.begin play position now
  | .goOn position => (p.goOn position now).andThen fun _ p => .ok () p
  | .closeRange => p.closeRange
  | .stop => p.stop now
  | .clear => .ok () p.clear

end Operation

/-- **The player after some operations**, each at its time. One that fails
leaves what it had done by then, and the next ones follow. -/
def afterAll (ops : List (Operation × Instant)) (p : Player) : Player :=
  ops.foldl (fun p op => (op.1.perform op.2 p).state) p

/-- **Every operation is safe.** -/
theorem WellFormed.safe_perform (h : p.WellFormed) (hnow : now.offset.isSome = true)
    (op : Operation) : Safe WellFormed (op.perform now p) := by
  cases op with
  | call call => exact (h.safe_call hnow call).andThen (fun _ _ h' => Step.safe_ok h' ())
  | begin play position => exact safe_begin play position hnow p
  | goOn position => exact (h.safe_goOn hnow position).andThen (fun _ _ h' => Step.safe_ok h' ())
  | closeRange => exact h.safe_closeRange
  | stop => exact h.safe_stop now
  | clear => exact Step.safe_ok p.wellFormed_clear ()

/-! ## Operations that do not fail -/

section Typed

variable {platform : String}

/-- **Going on** never fails, whether a play is tracked or not. -/
theorem Sound.exists_goOn (hs : p.Sound platform) (hnow : now.offset.isSome = true)
    (position : Option Float) :
    ∃ finished p', p.goOn position now = .ok finished p' ∧ p'.Sound platform := by
  cases hcurrent : p.current with
  | some track =>
    obtain ⟨finished, p', hp', hsound, -⟩ := hs.goOn hnow hcurrent position
    exact ⟨finished, p', hp', hsound⟩
  | none =>
    -- where no play is tracked, none begins again
    have hagain : ∀ r moved, p.repeated? r position moved = .ok none := fun r moved => by
      unfold repeated?
      rw [hcurrent]
      cases position <;> rfl
    unfold Player.goOn
    cases hopened : p.opened with
    | none => exact ⟨none, _, rfl, hs.openRange hnow position⟩
    | some r =>
      obtain ⟨moved, hmoved⟩ := exists_seek? (hs.opened r hopened).1 hnow position
      dsimp only
      rw [hmoved, Step.of_ok, Step.andThen_ok]
      cases moved with
      | none =>
        dsimp only
        rw [hs.extend_eq hnow hopened, Step.andThen_ok]
        exact ⟨none, _, rfl, hs.holding hnow hopened position⟩
      | some moved =>
        dsimp only
        rw [hagain, Step.of_ok, Step.andThen_ok, hs.closeRange_eq, Step.andThen_ok]
        exact ⟨none, _, rfl, hs.shut.openRange hnow position⟩

/-- **No operation with a typed play fails.** -/
theorem Sound.exists_perform (hs : p.Sound platform) (hnow : now.offset.isSome = true)
    {op : Operation} (htyped : op.Typed) :
    ∃ p', op.perform now p = .ok () p' ∧ ∃ platform, p'.Sound platform := by
  cases op with
  | call c =>
    obtain ⟨u, p', hp', hsound, -⟩ := hs.move_perform hnow htyped
    refine ⟨p', ?_, hsound⟩
    show Step.andThen (c.perform now p) _ = _
    rw [hp', Step.andThen_ok]
  | begin play position =>
    exact ⟨_, begin_eq_tracking htyped position now p, _, sound_tracking htyped position hnow p⟩
  | goOn position =>
    obtain ⟨finished, p', hp', hsound⟩ := hs.exists_goOn hnow position
    refine ⟨p', ?_, platform, hsound⟩
    show Step.andThen (p.goOn position now) _ = _
    rw [hp', Step.andThen_ok]
  | closeRange => exact ⟨_, hs.closeRange_eq, _, hs.shut⟩
  | stop =>
    have hstopped : Sound platform { p with status := .stopped, updated := some now } :=
      ⟨hs.tracks, hs.started, hs.closed, hs.opened⟩
    exact ⟨_, hstopped.closeRange_eq, _, hstopped.shut⟩
  | clear =>
    exact ⟨_, rfl, platform, (fun _ h => nomatch h), (fun _ h => nomatch h),
      (fun _ h => absurd h List.not_mem_nil), (fun _ h => nomatch h)⟩

end Typed

/-! ## When a stretch is open -/

/-- **A stretch is open only while a play is tracked that plays**, and never
once it was closed for want of news. -/
def OnlyWhilePlaying (p : Player) : Prop :=
  ∀ r, p.opened = some r → p.current.isSome = true ∧ p.status = .playing ∧ p.isStale = false

/-- A player without an open stretch has none at the wrong time. -/
theorem onlyWhilePlaying_of_none (h : p.opened = none) : p.OnlyWhilePlaying :=
  fun _ hr => nomatch h.symm.trans hr

section Marks

variable {q : Player}

/-- **Whether a player is marked the same**: with what it is doing, and with
whether there was news of the play, and when. -/
structure SameMarks (p q : Player) : Prop where
  /-- It does the same. -/
  status : q.status = p.status
  /-- There was news, or none, as before. -/
  isStale : q.isStale = p.isStale
  /-- The play was last reported at the same time. -/
  updated : q.updated = p.updated

theorem SameMarks.refl (p : Player) : p.SameMarks p := ⟨rfl, rfl, rfl⟩

/-- What happens to stretches leaves the marks. -/
theorem SameMarks.closeRange (h : p.SameMarks q) : p.SameMarks q.closeRange.state := by
  unfold Player.closeRange
  split
  · exact h
  · split
    · split <;> exact ⟨h.status, h.isStale, h.updated⟩
    · exact ⟨h.status, h.isStale, h.updated⟩

theorem SameMarks.extend (h : p.SameMarks q) (r : Range) (position : Option Float)
    (now : Instant) : p.SameMarks (q.extend r position now).state := by
  unfold Player.extend
  split <;> exact ⟨h.status, h.isStale, h.updated⟩

/-- Beginning a play leaves the marks. -/
theorem SameMarks.begin (h : p.SameMarks q) (play : Play) (position : Option Float)
    (now : Instant) : p.SameMarks (q.begin play position now).state := by
  have hbeginning : p.SameMarks (q.beginning play now) := ⟨h.status, h.isStale, h.updated⟩
  unfold Player.begin
  refine Step.state_andThen hbeginning (fun _ q hq => ?_)
  split
  · exact ⟨hq.status, hq.isStale, hq.updated⟩
  · exact hq

theorem SameMarks.goOn (h : p.SameMarks q) (position : Option Float) (now : Instant) :
    p.SameMarks (q.goOn position now).state := by
  unfold Player.goOn
  split
  · exact ⟨h.status, h.isStale, h.updated⟩
  · refine Step.state_andThen h (fun moved q hq => ?_)
    split
    · exact Step.state_andThen (hq.extend _ position now) (fun _ _ h' => h')
    · refine Step.state_andThen hq (fun again q hq =>
        Step.state_andThen hq.closeRange (fun _ q hq => ?_))
      split
      · exact ⟨hq.status, hq.isStale, hq.updated⟩
      · exact Step.state_andThen (hq.begin _ position now) (fun _ _ h' => h')

theorem SameMarks.replace (h : p.SameMarks q) (old play : Play) (now : Instant) :
    p.SameMarks (q.replace old play now).state := by
  unfold Player.replace
  refine Step.state_andThen h (fun _ q hq => Step.state_andThen ?_ (fun _ q hq =>
    Step.state_andThen hq.closeRange (fun _ q hq =>
      Step.state_andThen (hq.begin play none now) (fun _ _ h' => h'))))
  split
  · exact hq.extend _ _ now
  · exact hq

/-- **A track that is shown is news**, whatever becomes of it, and the player
does what it says. -/
theorem sameMarks_observe (p : Player) (play : Play) (status : Status) (now : Instant) :
    (p.noted status now).SameMarks (p.observe play status now).state := by
  have hnoted := SameMarks.refl (p.noted status now)
  cases hcurrent : p.current with
  | none =>
    rw [observe_of_none hcurrent]
    exact Step.state_andThen (hnoted.begin play none now) (fun _ _ h' => h')
  | some old =>
    rw [observe_of_tracked hcurrent]
    refine Step.state_andThen hnoted (fun same q hq => ?_)
    split
    · exact hq.replace old play now
    · split
      · exact Step.state_andThen (hq.goOn play.position now) (fun _ _ h' => h')
      · exact Step.state_andThen hq.closeRange (fun _ _ h' => h')

end Marks

section Calls

variable {platform : String} {call : Call}

/-- A player that has begun a play tracks it, and has opened a stretch only if
it plays. -/
theorem status_of_opened_tracking {play : Play} {position : Option Float}
    (h : (p.tracking play position now).opened = some r) :
    (p.tracking play position now).current.isSome = true ∧ p.status = .playing := by
  unfold tracking at h ⊢
  split at h
  · rename_i hplaying
    rw [if_pos hplaying]
    exact ⟨rfl, hplaying⟩
  · exact nomatch h

/-- **A track that is shown leaves a stretch open** only if the player
plays. -/
theorem Move.playing {p' : Player} {u : Update} (move : Move call now p u p') {play : Play}
    {status : Status} (hshown : call.shown = some (play, status)) (hr : p'.opened = some r) :
    p'.current.isSome = true ∧ status = .playing := by
  have hagain : ∀ {q old play'}, Again call p q old play' → status = .playing := fun again =>
    (Prod.mk.inj (Option.some.inj (hshown.symm.trans again.shown))).2
  have htracks : ∀ {q old play'}, Again call p q old play' → q.current.isSome = true :=
    fun again => by rw [again.noted.current, again.tracked]; rfl
  cases move with
  | rests noted quiet soFar finished => exact nomatch quiet.symm.trans hshown
  | pauses noted idle soFar finished => exact nomatch (opened_shut _).symm.trans hr
  | resumes again closed =>
    have htracked := htracks again
    exact ⟨htracked, hagain again⟩
  | goesOn again opened steady =>
    have htracked := htracks again
    exact ⟨htracked, hagain again⟩
  | seeks again opened seek noRepeat =>
    have htracked := htracks again
    rw [← current_shut] at htracked
    exact ⟨htracked, hagain again⟩
  | repeats again opened seek isRepeat =>
    exact ⟨(status_of_opened_tracking hr).1, hagain again⟩
  | replaces noted doing tracked shown other =>
    obtain ⟨htracked, hplaying⟩ := status_of_opened_tracking hr
    rw [status_shut, status_heldOpen, doing] at hplaying
    obtain ⟨-, rfl⟩ := Prod.mk.inj (Option.some.inj (hshown.symm.trans shown))
    exact ⟨htracked, hplaying⟩
  | begins noted doing untracked shown =>
    obtain ⟨htracked, hplaying⟩ := status_of_opened_tracking hr
    rw [doing] at hplaying
    obtain ⟨-, rfl⟩ := Prod.mk.inj (Option.some.inj (hshown.symm.trans shown))
    exact ⟨htracked, hplaying⟩
  | stops noted tracked stopped => exact nomatch hr

/-- **A track that is shown leaves no stretch open at the wrong time.** -/
theorem Sound.onlyWhilePlaying_observe (hs : p.Sound platform) (hnow : now.offset.isSome = true)
    {play : Play} (hplay : play.Typed) (status : Status) :
    (p.observe play status now).state.OnlyWhilePlaying := by
  intro r hr
  have hshown : (Call.observe play status).shown = some (play, status) := rfl
  obtain ⟨u, p', hp', -, move⟩ :=
    hs.move_observe hnow ⟨rfl, rfl, rfl, rfl, rfl, rfl⟩ hshown hplay
  have hmarks := sameMarks_observe p play status now
  rw [hp'] at hr hmarks ⊢
  obtain ⟨htracked, rfl⟩ := move.playing hshown hr
  exact ⟨htracked, hmarks.status, hmarks.isStale⟩

/-- **No call leaves a stretch open at the wrong time.** -/
theorem Sound.onlyWhilePlaying_perform (hs : p.Sound platform) (hnow : now.offset.isSome = true)
    (h : p.OnlyWhilePlaying) (htyped : call.Typed) :
    (call.perform now p).state.OnlyWhilePlaying := by
  cases call with
  | observe play status => exact hs.onlyWhilePlaying_observe hnow (htyped play status rfl) status
  | checkStale =>
    have hmarked : Sound platform { p with isStale := true } :=
      ⟨hs.tracks, hs.started, hs.closed, hs.opened⟩
    unfold Call.perform Player.checkStale
    dsimp only
    split
    · rw [hmarked.closeRange_eq]
      exact onlyWhilePlaying_of_none (opened_shut _)
    · exact h
  | report status play =>
    have hheard : Sound platform { p with heard := now } :=
      ⟨hs.tracks, hs.started, hs.closed, hs.opened⟩
    cases play with
    | some play => exact hheard.onlyWhilePlaying_observe hnow (htyped play _ rfl) _
    | none =>
      cases status with
      | none => exact h
      | some status =>
        unfold Call.perform Player.report
        dsimp only
        split
        · have hstopped : Sound platform
              { p with heard := now, status := .stopped, updated := some now } :=
            ⟨hs.tracks, hs.started, hs.closed, hs.opened⟩
          unfold Player.stop
          rw [hstopped.closeRange_eq]
          exact onlyWhilePlaying_of_none rfl
        · have hchanged : Sound platform { p with heard := now, status := status } :=
            ⟨hs.tracks, hs.started, hs.closed, hs.opened⟩
          split
          · rename_i hplaying
            exact fun r hr => ⟨(h r hr).1, hplaying, (h r hr).2.2⟩
          · rw [hchanged.closeRange_eq]
            exact onlyWhilePlaying_of_none (opened_shut _)

end Calls

/-! ## Whole runs -/

section Runs

variable {ops : List (Operation × Instant)}

/-- What each operation keeps is kept by all of them. -/
theorem afterAll_induction {P : Player → Prop} (hp : P p)
    (hops : ∀ op ∈ ops, ∀ q, P q → P (op.1.perform op.2 q).state) : P (afterAll ops p) := by
  induction ops generalizing p with
  | nil => exact hp
  | cons op ops ih =>
    exact ih (hops op List.mem_cons_self p hp)
      (fun op' hop' => hops op' (List.mem_cons_of_mem op hop'))

/-- **Operations leave a well-formed player well-formed.** -/
theorem WellFormed.afterAll (h : p.WellFormed)
    (clocked : ∀ op ∈ ops, op.2.offset.isSome = true) :
    (p.afterAll ops).WellFormed :=
  afterAll_induction h (fun op hop _ hq => (hq.safe_perform (clocked op hop) op.1).state)

section Typed

variable {platform : String} (clocked : ∀ op ∈ ops, op.2.offset.isSome = true)
  (typed : ∀ op ∈ ops, op.1.Typed)
include clocked typed

/-- **Operations with typed plays leave a sound player sound.** -/
theorem Sound.afterAll (hs : p.Sound platform) : ∃ platform, (p.afterAll ops).Sound platform :=
  afterAll_induction (P := fun q => ∃ platform, q.Sound platform) ⟨platform, hs⟩
    (fun op hop q ⟨_, hq⟩ => by
      obtain ⟨q', hq', hsound⟩ := hq.exists_perform (clocked op hop) (typed op hop)
      rw [hq']
      exact hsound)

/-- **Calls leave no stretch open at the wrong time.** -/
theorem Sound.onlyWhilePlaying_afterAll (hs : p.Sound platform) (h : p.OnlyWhilePlaying)
    (calls : ∀ op ∈ ops, op.1.IsCall) : (p.afterAll ops).OnlyWhilePlaying := by
  induction ops generalizing p platform with
  | nil => exact h
  | cons op ops ih =>
    have hclocked := clocked op List.mem_cons_self
    have htyped := typed op List.mem_cons_self
    obtain ⟨q, hq, name, hsound⟩ := hs.exists_perform hclocked htyped
    have hstate : q.OnlyWhilePlaying := by
      obtain ⟨c, hc⟩ := calls op List.mem_cons_self
      rw [hc] at hq htyped
      rw [← Step.state_ok () q, ← hq]
      exact Step.state_andThen (hs.onlyWhilePlaying_perform hclocked h htyped) (fun _ _ h' => h')
    show Player.OnlyWhilePlaying (Player.afterAll ops (op.1.perform op.2 p).state)
    rw [hq]
    exact ih (fun op' hop' => clocked op' (List.mem_cons_of_mem op hop'))
      (fun op' hop' => typed op' (List.mem_cons_of_mem op hop')) hsound hstate
      (fun op' hop' => calls op' (List.mem_cons_of_mem op hop'))

end Typed

/-- **A player stays well-formed, and nothing asked of it is refused, whatever
the clock does.** After any operations, at times that have an offset but may
go back and forth, its stretches are well-formed, and no operation fails
because a stretch would end before it starts. Where the plays are typed, none
fails at all; and after calls alone a stretch is open only while a play is
tracked that plays, and never once it was closed for want of news. -/
theorem afterAll_wellFormed (platform : Platform) (limits : Limits) (created : Instant)
    (ops : List (Operation × Instant)) (clocked : ∀ op ∈ ops, op.2.offset.isSome = true) :
    ((fresh platform limits created).afterAll ops).WellFormed
    ∧ (∀ (op : Operation) (now : Instant), now.offset.isSome = true →
        (op.perform now ((fresh platform limits created).afterAll ops)).result
          ≠ .error .endsBeforeStart)
    ∧ ((∀ op ∈ ops, op.1.Typed) →
        (∀ (op : Operation) (now : Instant), op.Typed → now.offset.isSome = true →
          ∃ p', op.perform now ((fresh platform limits created).afterAll ops) = .ok () p')
        ∧ ((∀ op ∈ ops, op.1.IsCall) →
          ((fresh platform limits created).afterAll ops).OnlyWhilePlaying)) := by
  have hwell : ((fresh platform limits created).afterAll ops).WellFormed :=
    WellFormed.afterAll ⟨fun _ hr => absurd hr List.not_mem_nil, fun _ hr => nomatch hr⟩ clocked
  have hs := sound_fresh platform limits created
  refine ⟨hwell, fun op now hnow => (hwell.safe_perform hnow op).result,
    fun typed => ⟨fun op now htyped hnow => ?_, fun calls =>
      hs.onlyWhilePlaying_afterAll clocked typed (onlyWhilePlaying_of_none rfl) calls⟩⟩
  obtain ⟨_, hsound⟩ := hs.afterAll clocked typed
  obtain ⟨p', hp', -⟩ := hsound.exists_perform hnow htyped
  exact ⟨p', hp'⟩

/-- Two tracks, on a clock that goes back and forth by half a minute. -/
def backAndForth : List (Operation × Instant) :=
  [(.call (.observe { title := .text "Tune" } .playing), ⟨60000000, some 0⟩),
    (.call (.observe { title := .text "Tune" } .playing), ⟨30000000, some 0⟩),
    (.call (.observe { title := .text "Jingle" } .playing), ⟨90000000, some 0⟩),
    (.call .checkStale, ⟨45000000, some 0⟩)]

/-- The second track is heard, from when it was first shown to then. -/
theorem afterAll_backAndForth :
    (∀ op ∈ backAndForth, op.2.offset.isSome = true)
    ∧ (∀ op ∈ backAndForth, op.1.Typed ∧ op.1.IsCall)
    ∧ (afterAll backAndForth (fresh ⟨"d", "u"⟩ {} ⟨0, some 0⟩)).opened.isSome = true
    ∧ (afterAll backAndForth (fresh ⟨"d", "u"⟩ {} ⟨0, some 0⟩)).WellFormed
    ∧ (afterAll backAndForth (fresh ⟨"d", "u"⟩ {} ⟨0, some 0⟩)).OnlyWhilePlaying
    ∧ (∃ p', Operation.perform (.goOn (some 5)) ⟨0, some 0⟩
        (afterAll backAndForth (fresh ⟨"d", "u"⟩ {} ⟨0, some 0⟩)) = .ok () p')
    ∧ (Operation.perform (.begin { title := .absent } none) ⟨0, some 0⟩
        (afterAll backAndForth (fresh ⟨"d", "u"⟩ {} ⟨0, some 0⟩))).result
          ≠ .error .endsBeforeStart := by
  have clocked : ∀ op ∈ backAndForth, op.2.offset.isSome = true := by
    simp only [backAndForth, List.forall_mem_cons]
    exact ⟨rfl, rfl, rfl, rfl, fun _ h => absurd h List.not_mem_nil⟩
  have shown : ∀ title, Call.Typed (.observe { title := .text title } .playing) := fun title =>
    Call.typed_observe ⟨rfl, fun _ h => absurd h List.not_mem_nil, rfl, rfl, rfl, rfl⟩ .playing
  have typed : ∀ op ∈ backAndForth, op.1.Typed ∧ op.1.IsCall := by
    simp only [backAndForth, List.forall_mem_cons]
    exact ⟨⟨shown "Tune", _, rfl⟩, ⟨shown "Tune", _, rfl⟩, ⟨shown "Jingle", _, rfl⟩,
      ⟨(fun _ _ h => nomatch h), _, rfl⟩, fun _ h => absurd h List.not_mem_nil⟩
  obtain ⟨hwell, hnever, hrest⟩ :=
    afterAll_wellFormed ⟨"d", "u"⟩ {} ⟨0, some 0⟩ backAndForth clocked
  obtain ⟨hnext, hquiet⟩ := hrest (fun op hop => (typed op hop).1)
  exact ⟨clocked, typed, by decide +kernel, hwell, hquiet (fun op hop => (typed op hop).2),
    hnext (.goOn (some 5)) ⟨0, some 0⟩ trivial rfl,
    hnever (.begin { title := .absent } none) ⟨0, some 0⟩ rfl⟩

end Runs

end Player

end Listening
