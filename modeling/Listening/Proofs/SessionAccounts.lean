import Listening.Proofs.PlayerCalls

/-!
# What is handed out accounts for what was heard

The plays that a player tracks one after the other are its *sessions*. This
module says what its calls have to do with them, over any run of calls on a
new player, with plays, positions and times as they come – the clock may go
back. A session ends only where a finished play is handed out, and where one
is handed out a session ends; the finished play is the one that was tracked,
with the time of the call that began the session and with all the stretches
in which it was heard, and what is handed out along the way has that time,
too. The time listened never becomes less, not even with the last call.

One thing is not as might be expected: the play that is handed out need not
be one that was reported when its session began. Where a track begins again,
the new session goes on with the play that was tracked, which is of the same
track but may be spelled in another way, or name another album.
-/

namespace Listening.Player

/-! ## Runs of calls -/

/-- **A call that was made**: the player before it, and what came of it. -/
structure Taken where
  /-- The player before. -/
  before : Player
  /-- The call. -/
  call : Call
  /-- When it was made. -/
  now : Instant
  /-- What it handed out. -/
  update : Update
  /-- The player afterwards. -/
  after : Player

/-- **A run of calls** from some player on. -/
inductive Run (start : Player) : List Taken → Player → Prop where
  /-- No call was made yet. -/
  | none : Run start [] start
  /-- One more call was made. -/
  | call {past : List Taken} {p : Player} (run : Run start past p) {call : Call}
      (typed : call.Typed) {now : Instant} (clocked : now.offset.isSome = true) {u : Update}
      {p' : Player} (performed : call.perform now p = .ok u p') :
      Run start (past ++ [⟨p, call, now, u, p'⟩]) p'

namespace Taken

/-- Whether a session was begun. -/
def IsOpening (t : Taken) : Prop := t.after.begun = t.before.begun + 1

/-- **Whether a session was begun with a play**: one that was shown and is of
another track than the one tracked, or, if the track tracked was shown again,
the one tracked. -/
def IsBegunWith (t : Taken) (track : Play) : Prop :=
  ∃ play status, t.call.shown = some (play, status)
    ∧ (track = play ∧ (∀ old, t.before.current = some old → Match.content? old play = .ok false)
      ∨ t.before.current = some track ∧ Match.content? track play = .ok true)

end Taken

/-- Whether another track is shown than the one tracked. -/
def Call.replaces (call : Call) (p : Player) : Bool :=
  match p.current, call.shown with
  | some old, some (play, _) =>
    match Match.content? old play with
    | .ok same => !same
    | .error _ => false
  | _, _ => false

/-- When the open stretch of a play that ends is over: now, if another track
is shown, and where it is otherwise. -/
def Call.endOf (call : Call) (p : Player) (now : Instant) (r : Range) : Instant :=
  if call.replaces p then heldTime r now else r.stop.time

/-- **The stretches of a play that ends**: the closed ones, and the open one,
unless it covers no time. -/
inductive Closing (call : Call) (now : Instant) (p : Player) : List Range → Prop where
  /-- There is no open stretch that covers any time. -/
  | without
      (short : ∀ r, p.opened = some r → (call.endOf p now r).micros ≤ r.start.time.micros) :
      Closing call now p p.closed
  /-- The open stretch is the last one. -/
  | with_last {r last : Range} (opened : p.opened = some r) (start : last.start = r.start)
      (stop : last.stop.time = call.endOf p now r) (long : 0 < last.wallclock) :
      Closing call now p (p.closed ++ [last])

/-- **What a call accounts for**, after the calls before it. Which play a
session is begun with is left open. -/
structure Accounts (isBegunWith : Taken → Play → Prop) (past : List Taken)
    (t : Taken) : Prop where
  /-- If no play is handed out as finished, the play tracked stays. -/
  stays : t.update.finished = none → ∀ track, t.before.current = some track →
    t.after.current = some track ∧ t.after.begun = t.before.begun
  /-- If one is, one session has ended, and there is none or the next. -/
  ends : ∀ y, t.update.finished = some y → t.before.current.isSome = true
    ∧ (t.after.current = none ∧ t.after.begun = t.before.begun
      ∨ t.after.current.isSome = true ∧ t.after.begun = t.before.begun + 1)
  /-- It is the play of that session, since it began, with its stretches as
  they are once closed. -/
  finished : ∀ y, t.update.finished = some y →
    ∃ o ∈ past, o.IsOpening ∧ o.after.begun = t.before.begun
      ∧ ∃ track rs, isBegunWith o track ∧ Closing t.call t.now t.before rs
        ∧ y = { track with
            playedAt := some o.now
            listenedFor := .seconds (Range.totalSeconds rs)
            ranges := some rs }
  /-- What was handed out so far of the same session has the same time. -/
  soFar : ∀ y, t.update.soFar = some y → ∀ t' ∈ past, ∀ y', t'.update.soFar = some y' →
    t'.after.begun = t.after.begun → y.playedAt = y'.playedAt
  /-- The time listened has not become less. -/
  grows : t.update.finished = none → t.before.current.isSome = true →
    t.before.listenedMicros ≤ t.after.listenedMicros
  /-- Nor has it with the play that ended. -/
  grows_finished : ∀ y, t.update.finished = some y →
    ∃ rs, y.ranges = some rs ∧ t.before.listenedMicros ≤ Range.total rs

/-! ## The course of a session -/

section Course

variable {platform : String} {p q p' : Player} {now : Instant} {call : Call} {u : Update}

/-- **A session that is closed**: the player tracks the same play still, with
all its stretches closed. -/
structure Closes (call : Call) (now : Instant) (p q : Player) : Prop where
  /-- The play is the same. -/
  keeps : p.Keeps q
  /-- The stretches are closed. -/
  ranges : Closing call now p q.ranges
  /-- The time listened has not become less. -/
  grows : p.listenedMicros ≤ q.listenedMicros

/-- **What a call does to the session**: it goes on, one begins, or it ends
and there may be another one. -/
inductive Course (call : Call) (now : Instant) (p : Player) (u : Update)
    (p' : Player) : Prop where
  /-- It goes on, or there is still none. -/
  | goesOn (keeps : p.Keeps p') (grows : p.listenedMicros ≤ p'.listenedMicros)
      (soFar : u.soFar = none ∨ u.soFar = p'.played) (finished : u.finished = none)
  /-- One begins where there was none. -/
  | begins (untracked : p.current = none) {track : Play}
      (begunWith : Taken.IsBegunWith ⟨p, call, now, u, p'⟩ track) (begun : p.Begins now track p')
      (soFar : u.soFar = p'.played) (finished : u.finished = none)
  /-- It ends, and another one begins. -/
  | follows {q : Player} (closes : Closes call now p q) {track : Play}
      (begunWith : Taken.IsBegunWith ⟨p, call, now, u, p'⟩ track) (begun : p.Begins now track p')
      (soFar : u.soFar = p'.played) (finished : u.finished = q.played)
      (tracked : p.current.isSome = true)
  /-- It ends, and there is none. -/
  | stops {q : Player} (closes : Closes call now p q) (forgotten : p'.current = none)
      (begun : p'.begun = p.begun) (soFar : u.soFar = q.played)
      (finished : u.finished = q.played)
      (tracked : p.current.isSome = true)

/-- Closing the open stretch of a player that has the stretches of another
one, the open one until its end. -/
theorem Sound.closing_shut (hs : q.Sound platform) (hclosed : q.closed = p.closed)
    (hopened : p.opened = none ∧ q.opened = none
      ∨ ∃ r r', p.opened = some r ∧ q.opened = some r' ∧ r'.start = r.start
        ∧ r'.stop.time = call.endOf p now r) : Closing call now p q.shut.ranges := by
  rcases hs.ranges_shut with ⟨hranges, hshort⟩ | ⟨r', position, hr', hlong, hranges⟩
  · rw [hranges, hclosed]
    refine .without (fun r hr => ?_)
    rcases hopened with ⟨hnone, -⟩ | ⟨r₀, r', hr₀, hr', hstart, hstop⟩
    · exact nomatch hnone.symm.trans hr
    · obtain rfl := Option.some.inj (hr₀.symm.trans hr)
      have hle := hshort r' hr'
      unfold Range.wallclock Instant.minus at hle
      rw [hstart, hstop] at hle
      omega
  · rw [hranges, hclosed]
    rcases hopened with ⟨-, hnone⟩ | ⟨r, r'', hr, hr'', hstart, hstop⟩
    · exact nomatch hnone.symm.trans hr'
    · obtain rfl := Option.some.inj (hr''.symm.trans hr')
      refine .with_last hr ?_ ?_ (by rwa [Range.wallclock_finalize])
      · cases position <;> exact hstart
      · cases position <;> exact hstop

/-- A session that ends without another track. -/
theorem Notes.closes_shut (hnoted : p.Notes q) (hs : q.Sound platform)
    (hreplaces : call.replaces p = false) : Closes call now p q.shut where
  keeps := hnoted.keeps.trans hs.keeps_shut
  ranges := by
    refine hs.closing_shut hnoted.closed ?_
    rw [hnoted.opened]
    cases p.opened with
    | none => exact Or.inl ⟨rfl, rfl⟩
    | some r =>
      refine Or.inr ⟨r, r, rfl, rfl, rfl, ?_⟩
      unfold Call.endOf
      rw [hreplaces, if_neg Bool.false_ne_true]
  grows := Int.le_of_eq (by rw [hs.listenedMicros_shut, hnoted.listenedMicros])

theorem Sound.keeps_heldOpen (q : Player) (now : Instant) : q.Keeps (q.heldOpen now) := by
  unfold Player.heldOpen
  split <;> exact ⟨rfl, rfl, rfl⟩

/-- **What was heard until now is no less.** -/
theorem le_listenedMicros_heldOpen (q : Player) (now : Instant) :
    q.listenedMicros ≤ (q.heldOpen now).listenedMicros := by
  unfold Player.heldOpen
  cases hopened : q.opened with
  | none => exact Int.le_refl _
  | some r =>
    rw [listenedMicros_holding hopened]
    omega

/-- A session that ends with another track. -/
theorem Notes.closes_heldOpen (hnoted : p.Notes q) (hs : q.Sound platform)
    (hnow : now.offset.isSome = true) (hreplaces : call.replaces p = true) :
    Closes call now p (q.heldOpen now).shut where
  keeps := (hnoted.keeps.trans (Sound.keeps_heldOpen q now)).trans (hs.heldOpen hnow).keeps_shut
  ranges := by
    refine (hs.heldOpen hnow).closing_shut ?_ ?_
    · rw [← hnoted.closed]
      unfold Player.heldOpen
      split <;> rfl
    · rw [← hnoted.opened]
      unfold Player.heldOpen
      cases hopened : q.opened with
      | none => exact Or.inl ⟨rfl, hopened⟩
      | some r =>
        refine Or.inr ⟨r, r.held r.position now, rfl, rfl, rfl, ?_⟩
        unfold Call.endOf
        rw [if_pos hreplaces]
        rfl
  grows := by
    rw [(hs.heldOpen hnow).listenedMicros_shut, ← hnoted.listenedMicros]
    exact le_listenedMicros_heldOpen q now

/-- **Every move is the course of a session.** -/
theorem Move.course (hmove : Move call now p u p') (hs : p.Sound platform)
    (hnow : now.offset.isSome = true) : Course call now p u p' := by
  cases hmove with
  | rests noted quiet soFar finished =>
    exact .goesOn noted.keeps (Int.le_of_eq noted.listenedMicros.symm) soFar finished
  | @pauses q _ noted idle soFar finished =>
    have hsq := noted.sound hs
    refine .goesOn (noted.keeps.trans hsq.keeps_shut) (Int.le_of_eq ?_) (soFar.imp_left And.left)
      finished
    rw [hsq.listenedMicros_shut, noted.listenedMicros]
  | @resumes q old play again closed =>
    refine .goesOn (again.noted.keeps.trans ⟨rfl, rfl, rfl⟩) (Int.le_of_eq ?_) (Or.inr rfl) rfl
    rw [listenedMicros_openRange (again.noted.opened.trans closed), again.noted.listenedMicros]
  | @goesOn q old play r again opened steady =>
    refine .goesOn (again.noted.keeps.trans ⟨rfl, rfl, rfl⟩) ?_ (Or.inr rfl) rfl
    rw [listenedMicros_holding (again.noted.opened.trans opened), again.noted.listenedMicros]
    omega
  | @seeks q old play r moved again opened seek noRepeat =>
    have hsq := again.noted.sound hs
    refine .goesOn ((again.noted.keeps.trans hsq.keeps_shut).trans ⟨rfl, rfl, rfl⟩)
      (Int.le_of_eq ?_) (Or.inr rfl) rfl
    rw [listenedMicros_openRange (opened_shut q), hsq.listenedMicros_shut,
      again.noted.listenedMicros]
  | @repeats q old play r moved again opened seek isRepeat =>
    have hreplaces : call.replaces p = false := by
      unfold Call.replaces
      rw [again.tracked, again.shown]
      dsimp only
      rw [again.same]
      rfl
    have hcloses : Closes call now p q.shut :=
      again.noted.closes_shut (again.noted.sound hs) hreplaces
    exact .follows hcloses
      ⟨play, .playing, again.shown, Or.inr ⟨again.tracked, again.same⟩⟩
      (hcloses.keeps.begins (begins_tracking old play.position now q.shut)) rfl rfl
      (by rw [again.tracked]; rfl)
  | @replaces q old play status noted doing tracked shown other =>
    have hreplaces : call.replaces p = true := by
      unfold Call.replaces
      rw [tracked, shown]
      dsimp only
      rw [other]
      rfl
    have hcloses := noted.closes_heldOpen (noted.sound hs) hnow hreplaces
    refine .follows hcloses
      ⟨play, status, shown, Or.inl ⟨rfl, fun old' hold => ?_⟩⟩
      (hcloses.keeps.begins (begins_tracking play none now _)) rfl rfl
      (by rw [tracked]; rfl)
    obtain rfl := Option.some.inj (tracked.symm.trans hold)
    exact other
  | @begins q play status noted doing untracked shown =>
    exact .begins untracked
      ⟨play, status, shown, Or.inl ⟨rfl, fun old hold => nomatch untracked.symm.trans hold⟩⟩
      (noted.keeps.begins (begins_tracking play none now q)) rfl rfl
  | @stops q old noted tracked stopped =>
    have hreplaces : call.replaces p = false := by
      rw [stopped]
      unfold Call.replaces
      rw [tracked]
      rfl
    have hcloses : Closes call now p q.shut := noted.closes_shut (noted.sound hs) hreplaces
    exact .stops hcloses rfl hcloses.keeps.begun rfl rfl (by rw [tracked]; rfl)

end Course

/-! ## What is known along a run -/

section Runs

variable {past : List Taken} {start p p' : Player} {call : Call} {now : Instant} {u : Update}

/-- **What the calls so far have to do with the play tracked.** -/
structure Tallies (past : List Taken) (p : Player) : Prop where
  /-- The player is sound, wherever its play comes from. -/
  sound : ∃ platform, p.Sound platform
  /-- No call was in a later session. -/
  begun_le : ∀ t ∈ past, t.after.begun ≤ p.begun
  /-- The session began with one of the calls. -/
  opening : ∀ track, p.current = some track → ∃ o ∈ past, o.IsOpening
    ∧ o.after.begun = p.begun ∧ p.firstSeen = some o.now ∧ o.IsBegunWith track
  /-- What was handed out of it so far has its time. -/
  soFar : p.current.isSome = true → ∀ t ∈ past, ∀ y, t.update.soFar = some y →
    t.after.begun = p.begun → y.playedAt = p.firstSeen

/-- No call so far was in the next session. -/
theorem Tallies.begun_ne (h : Tallies past p) {t : Taken} (ht : t ∈ past) :
    t.after.begun ≠ p.begun + 1 :=
  Nat.ne_of_lt (Nat.lt_succ_of_le (h.begun_le t ht))

/-- Nothing is known of a new player. -/
theorem tallies_fresh (platform : Platform) (limits : Limits) (now : Instant) :
    Tallies [] (fresh platform limits now) :=
  ⟨⟨_, sound_fresh platform limits now⟩, fun _ h => absurd h List.not_mem_nil,
    (fun _ h => nomatch h), fun h => absurd h Bool.false_ne_true⟩

/-- What is handed out has the time since which the play is tracked. -/
theorem playedAt_of_played {y : Play} (h : p.played = some y) : y.playedAt = p.firstSeen := by
  obtain ⟨track, -, rfl⟩ := Option.map_eq_some_iff.mp h
  rfl

/-- A play is handed out only if one is tracked. -/
theorem isSome_of_played {y : Play} (h : p.played = some y) : p.current.isSome = true := by
  rw [← isSome_played, h]
  rfl

/-- **A session goes on.** -/
theorem Tallies.goesOn (h : Tallies past p) (hsound : ∃ platform, p'.Sound platform)
    (hkeeps : p.Keeps p') (hsoFar : u.soFar = none ∨ u.soFar = p'.played) :
    Tallies (past ++ [⟨p, call, now, u, p'⟩]) p' where
  sound := hsound
  begun_le := by
    intro t ht
    rcases List.mem_append.mp ht with ht | ht
    · rw [hkeeps.begun]
      exact h.begun_le t ht
    · obtain rfl := List.mem_singleton.mp ht
      exact Nat.le_refl _
  opening := by
    intro track htrack
    obtain ⟨o, ho, hopening, hbegun, hfirst, hbegunWith⟩ :=
      h.opening track (hkeeps.current.symm.trans htrack)
    exact ⟨o, List.mem_append_left _ ho, hopening, hbegun.trans hkeeps.begun.symm,
      hkeeps.firstSeen.trans hfirst, hbegunWith⟩
  soFar := by
    intro htracked t ht y hy hsession
    rcases List.mem_append.mp ht with ht | ht
    · rw [hkeeps.firstSeen]
      exact h.soFar (by rwa [← hkeeps.current]) t ht y hy (hsession.trans hkeeps.begun)
    · obtain rfl := List.mem_singleton.mp ht
      rcases hsoFar with hnone | hplayed
      · exact nomatch hnone.symm.trans hy
      · exact playedAt_of_played (hplayed.symm.trans hy)

/-- **A session begins.** -/
theorem Tallies.begins (h : Tallies past p) (hsound : ∃ platform, p'.Sound platform)
    {track : Play}
    (hbegunWith : Taken.IsBegunWith ⟨p, call, now, u, p'⟩ track)
    (hbegins : p.Begins now track p')
    (hsoFar : u.soFar = p'.played) : Tallies (past ++ [⟨p, call, now, u, p'⟩]) p' where
  sound := hsound
  begun_le := by
    intro t ht
    rcases List.mem_append.mp ht with ht | ht
    · rw [hbegins.begun]
      exact Nat.le_succ_of_le (h.begun_le t ht)
    · obtain rfl := List.mem_singleton.mp ht
      exact Nat.le_refl _
  opening := by
    intro track' htrack'
    obtain rfl := Option.some.inj (hbegins.current.symm.trans htrack')
    exact ⟨_, List.mem_append_right _ List.mem_cons_self, hbegins.begun, rfl, hbegins.firstSeen,
      hbegunWith⟩
  soFar := by
    intro _ t ht y hy hsession
    rcases List.mem_append.mp ht with ht | ht
    · exact absurd (hsession.trans hbegins.begun) (h.begun_ne ht)
    · obtain rfl := List.mem_singleton.mp ht
      exact playedAt_of_played (hsoFar.symm.trans hy)

/-- **A session ends**, and there is none. -/
theorem Tallies.stops (h : Tallies past p) (hsound : ∃ platform, p'.Sound platform)
    (hforgotten : p'.current = none) (hbegun : p'.begun = p.begun) :
    Tallies (past ++ [⟨p, call, now, u, p'⟩]) p' where
  sound := hsound
  begun_le := by
    intro t ht
    rcases List.mem_append.mp ht with ht | ht
    · rw [hbegun]
      exact h.begun_le t ht
    · obtain rfl := List.mem_singleton.mp ht
      exact Nat.le_refl _
  opening := fun _ htrack => nomatch hforgotten.symm.trans htrack
  soFar := fun htracked => by
    rw [hforgotten] at htracked
    exact absurd htracked Bool.false_ne_true

/-- What a course leaves is known. -/
theorem Tallies.course (h : Tallies past p) (hsound : ∃ platform, p'.Sound platform)
    (hcourse : Course call now p u p') : Tallies (past ++ [⟨p, call, now, u, p'⟩]) p' := by
  cases hcourse with
  | goesOn keeps grows soFar finished => exact h.goesOn hsound keeps soFar
  | begins untracked begunWith begun soFar finished =>
    exact h.begins hsound begunWith begun soFar
  | follows closes begunWith begun soFar finished tracked =>
    exact h.begins hsound begunWith begun soFar
  | stops closes forgotten begun soFar finished tracked => exact h.stops hsound forgotten begun

/-- **Along a run all is known.** -/
theorem Run.tallies (run : Run start past p) (hstart : Tallies [] start) : Tallies past p := by
  induction run with
  | none => exact hstart
  | call run typed clocked performed ih =>
    obtain ⟨platform, hs⟩ := ih.sound
    obtain ⟨hsound, hmove⟩ := hs.move_of_performed clocked typed performed
    exact ih.course hsound (hmove.course hs clocked)

/-! ## What a call accounts for -/

/-- **The play that is handed out when a session is closed.** -/
theorem Tallies.finished (h : Tallies past p) {q : Player}
    (hcloses : Closes call now p q) {y : Play}
    (hy : q.played = some y) :
    (∃ o ∈ past, o.IsOpening ∧ o.after.begun = p.begun
      ∧ ∃ track rs, o.IsBegunWith track ∧ Closing call now p rs
        ∧ y = { track with
            playedAt := some o.now
            listenedFor := .seconds (Range.totalSeconds rs)
            ranges := some rs })
      ∧ ∃ rs, y.ranges = some rs ∧ p.listenedMicros ≤ Range.total rs := by
  obtain ⟨track, htrack⟩ := Option.isSome_iff_exists.mp (isSome_of_played hy)
  obtain ⟨o, ho, hopening, hbegun, hfirst, hbegunWith⟩ :=
    h.opening track (hcloses.keeps.current.symm.trans htrack)
  have hplayed := played_eq htrack (hcloses.keeps.firstSeen.trans hfirst)
  obtain rfl := Option.some.inj (hplayed.symm.trans hy)
  exact ⟨⟨o, ho, hopening, hbegun, track, q.ranges, hbegunWith, hcloses.ranges, rfl⟩,
    q.ranges, rfl, hcloses.grows⟩

/-- What was handed out of the session before has the time since which the
play is tracked. -/
theorem Tallies.soFar_eq (h : Tallies past p) {y : Play} (htracked : p.current.isSome = true)
    (hy : y.playedAt = p.firstSeen) :
    ∀ t ∈ past, ∀ y', t.update.soFar = some y' → t.after.begun = p.begun →
      y.playedAt = y'.playedAt :=
  fun t ht y' hy' hsession => hy.trans (h.soFar htracked t ht y' hy' hsession).symm

/-- A session that was closed is handed out. -/
theorem Closes.ne_none {q : Player} (hcloses : Closes call now p q)
    (htracked : p.current.isSome = true) : q.played ≠ none := by
  rw [← Option.isSome_iff_ne_none, isSome_played, hcloses.keeps.current]
  exact htracked

/-- **A course accounts for what was heard.** -/
theorem Tallies.accounts (h : Tallies past p) (hcourse : Course call now p u p') :
    Accounts Taken.IsBegunWith past ⟨p, call, now, u, p'⟩ := by
  cases hcourse with
  | goesOn keeps grows soFar finished =>
    have hnone : ∀ y : Play, u.finished ≠ some y := fun y hy => nomatch finished.symm.trans hy
    refine
      { stays := fun _ track htrack => ⟨keeps.current.trans htrack, keeps.begun⟩
        ends := fun y hy => absurd hy (hnone y)
        finished := fun y hy => absurd hy (hnone y)
        soFar := fun y hy t ht y' hy' hsession => ?_
        grows := fun _ _ => grows
        grows_finished := fun y hy => absurd hy (hnone y) }
    rcases soFar with hsoFar | hsoFar
    · exact nomatch hsoFar.symm.trans hy
    · have hplayed := hsoFar.symm.trans hy
      refine h.soFar_eq ?_ ((playedAt_of_played hplayed).trans keeps.firstSeen) t ht y' hy'
        (hsession.trans keeps.begun)
      rw [← keeps.current]
      exact isSome_of_played hplayed
  | begins untracked begunWith begun soFar finished =>
    have hnone : ∀ y : Play, u.finished ≠ some y := fun y hy => nomatch finished.symm.trans hy
    have hidle : ¬ p.current.isSome = true := by
      rw [untracked]
      exact Bool.false_ne_true
    exact
      { stays := fun _ track htrack => nomatch untracked.symm.trans htrack
        ends := fun y hy => absurd hy (hnone y)
        finished := fun y hy => absurd hy (hnone y)
        soFar := fun _ _ t ht _ _ hsession =>
          absurd (hsession.trans begun.begun) (h.begun_ne ht)
        grows := fun _ htracked => absurd htracked hidle
        grows_finished := fun y hy => absurd hy (hnone y) }
  | @follows q closes track begunWith begun soFar finished tracked =>
    have hne : u.finished ≠ none := finished ▸ closes.ne_none tracked
    exact
      { stays := fun hnone => absurd hnone hne
        ends := fun _ _ => ⟨tracked, Or.inr ⟨by rw [begun.current]; rfl, begun.begun⟩⟩
        finished := fun y hy => (h.finished closes (finished.symm.trans hy)).1
        soFar := fun _ _ t ht _ _ hsession =>
          absurd (hsession.trans begun.begun) (h.begun_ne ht)
        grows := fun hnone => absurd hnone hne
        grows_finished := fun y hy => (h.finished closes (finished.symm.trans hy)).2 }
  | @stops q closes forgotten begun soFar finished tracked =>
    have hne : u.finished ≠ none := finished ▸ closes.ne_none tracked
    exact
      { stays := fun hnone => absurd hnone hne
        ends := fun _ _ => ⟨tracked, Or.inl ⟨forgotten, begun⟩⟩
        finished := fun y hy => (h.finished closes (finished.symm.trans hy)).1
        soFar := fun y hy t ht y' hy' hsession => h.soFar_eq tracked
          ((playedAt_of_played (soFar.symm.trans hy)).trans closes.keeps.firstSeen) t ht y' hy'
          (hsession.trans begun)
        grows := fun hnone => absurd hnone hne
        grows_finished := fun y hy => (h.finished closes (finished.symm.trans hy)).2 }

/-- **Every call of a run accounts for what was heard.** -/
theorem Run.accounts_of_call {platform : Platform} {limits : Limits} {created : Instant}
    (run : Run (fresh platform limits created) past p) (typed : call.Typed)
    (clocked : now.offset.isSome = true) :
    ∃ u p', call.perform now p = .ok u p'
      ∧ Accounts Taken.IsBegunWith past ⟨p, call, now, u, p'⟩ := by
  have h := run.tallies (tallies_fresh platform limits created)
  obtain ⟨platform, hs⟩ := h.sound
  obtain ⟨u, p', hperformed, -, hmove⟩ := hs.move_perform clocked typed
  exact ⟨u, p', hperformed, h.accounts (hmove.course hs clocked)⟩

/-- A run on a new player leaves it sound. -/
theorem Run.sound {platform : Platform} {limits : Limits} {created : Instant}
    (run : Run (fresh platform limits created) past p) : ∃ name, p.Sound name :=
  (run.tallies (tallies_fresh platform limits created)).sound

/-- Whatever was done so far, the next call returns. -/
theorem Run.exists_perform {platform : Platform} {limits : Limits} {created : Instant}
    (run : Run (fresh platform limits created) past p) (typed : call.Typed)
    (clocked : now.offset.isSome = true) : ∃ u p', call.perform now p = .ok u p' := by
  obtain ⟨name, hs⟩ := run.sound
  obtain ⟨u, p', hperformed, -, -⟩ := hs.move_perform clocked typed
  exact ⟨u, p', hperformed⟩

/-- Every run goes on with any call. -/
theorem Run.exists_call {platform : Platform} {limits : Limits} {created : Instant}
    (run : Run (fresh platform limits created) past p) (typed : call.Typed)
    (clocked : now.offset.isSome = true) :
    ∃ u, Run (fresh platform limits created)
      (past ++ [⟨p, call, now, u, (call.perform now p).state⟩]) (call.perform now p).state := by
  obtain ⟨u, p', hperformed⟩ := run.exists_perform typed clocked
  rw [congrArg Step.state hperformed]
  exact ⟨u, .call run typed clocked hperformed⟩

end Runs

/-! ## A tune that begins again -/

/-- A tune of which only the title is known, some seconds into it. -/
def tune (name : String) (position : Float) : Play :=
  { title := .text name, position := some position }

theorem typed_tune (name : String) (position : Float) : (tune name position).Typed :=
  ⟨rfl, fun _ h => absurd h List.not_mem_nil, rfl, rfl, rfl, rfl⟩

/-- The call by which a tune is shown that plays. -/
def shows (name : String) (position : Float) : Call := .observe (tune name position) .playing

theorem typed_shows (name : String) (position : Float) : (shows name position).Typed :=
  Call.typed_observe (typed_tune name position) .playing

/-- A player that has shown a tune. -/
def onceShown : Player :=
  ((shows "Tune" 0).perform ⟨0, some 0⟩ (fresh ⟨"d", "u"⟩ {} ⟨0, some 0⟩)).state

/-- The player to which the tune was shown once more, after half a minute. -/
def twiceShown : Player := ((shows "Tune" 30).perform ⟨30000000, some 0⟩ onceShown).state

/-- The player once the tune has begun again, spelled in another way. -/
def shownAgain : Player := ((shows "tune" 0).perform ⟨31000000, some 0⟩ twiceShown).state

/-- The calls by which it was shown. -/
theorem run_onceShown : ∃ u₁, Run (fresh ⟨"d", "u"⟩ {} ⟨0, some 0⟩)
    [⟨fresh ⟨"d", "u"⟩ {} ⟨0, some 0⟩, shows "Tune" 0, ⟨0, some 0⟩, u₁, onceShown⟩] onceShown :=
  (Run.none : Run (fresh ⟨"d", "u"⟩ {} ⟨0, some 0⟩) [] _).exists_call (typed_shows "Tune" 0)
    (show (⟨0, some 0⟩ : Instant).offset.isSome = true from rfl)

theorem run_twiceShown : ∃ u₁ u₂, Run (fresh ⟨"d", "u"⟩ {} ⟨0, some 0⟩)
    [⟨fresh ⟨"d", "u"⟩ {} ⟨0, some 0⟩, shows "Tune" 0, ⟨0, some 0⟩, u₁, onceShown⟩,
      ⟨onceShown, shows "Tune" 30, ⟨30000000, some 0⟩, u₂, twiceShown⟩] twiceShown := by
  obtain ⟨u₁, run₁⟩ := run_onceShown
  obtain ⟨u₂, run₂⟩ := run₁.exists_call (typed_shows "Tune" 30)
    (show (⟨30000000, some 0⟩ : Instant).offset.isSome = true from rfl)
  exact ⟨u₁, u₂, run₂⟩

theorem run_shownAgain : ∃ u₁ u₂ u₃, Run (fresh ⟨"d", "u"⟩ {} ⟨0, some 0⟩)
    [⟨fresh ⟨"d", "u"⟩ {} ⟨0, some 0⟩, shows "Tune" 0, ⟨0, some 0⟩, u₁, onceShown⟩,
      ⟨onceShown, shows "Tune" 30, ⟨30000000, some 0⟩, u₂, twiceShown⟩,
      ⟨twiceShown, shows "tune" 0, ⟨31000000, some 0⟩, u₃, shownAgain⟩] shownAgain := by
  obtain ⟨u₁, u₂, run₂⟩ := run_twiceShown
  obtain ⟨u₃, run₃⟩ := run₂.exists_call (typed_shows "tune" 0)
    (show (⟨31000000, some 0⟩ : Instant).offset.isSome = true from rfl)
  exact ⟨u₁, u₂, u₃, run₃⟩

/-- When another tune is shown after that, what was heard is accounted for. -/
theorem accounts_shownAgain : ∃ past u p', Run (fresh ⟨"d", "u"⟩ {} ⟨0, some 0⟩) past shownAgain
    ∧ (shows "Jingle" 0).perform ⟨35000000, some 0⟩ shownAgain = .ok u p'
    ∧ Accounts Taken.IsBegunWith past ⟨shownAgain, shows "Jingle" 0, ⟨35000000, some 0⟩, u, p'⟩
    ∧ u.finished.isSome = true := by
  obtain ⟨u₁, u₂, u₃, run⟩ := run_shownAgain
  obtain ⟨u, p', hperformed, haccounts⟩ := run.accounts_of_call (typed_shows "Jingle" 0)
    (show (⟨35000000, some 0⟩ : Instant).offset.isSome = true from rfl)
  have hfinished :
      (((shows "Jingle" 0).perform ⟨35000000, some 0⟩ shownAgain).result.toOption.map
      fun u => u.finished.isSome) = some true := by decide +kernel
  rw [hperformed] at hfinished
  exact ⟨_, u, p', run, hperformed, haccounts, Option.some.inj hfinished⟩

/-- **The play that ended need not be the one that was reported first.** The
session that begins with the tune spelled in another way goes on with the
play that was tracked, so that play is handed out. -/
theorem not_forall_accounts :
    ¬ ∀ (platform : Platform) (limits : Limits) (created : Instant)
        (past : List Taken) (p : Player)
        (call : Call) (now : Instant), Run (fresh platform limits created) past p → call.Typed →
      now.offset.isSome = true → ∃ u p', call.perform now p = .ok u p'
        ∧ Accounts (fun o track => ∃ status, o.call.shown = some (track, status)) past
          ⟨p, call, now, u, p'⟩ := by
  intro hall
  obtain ⟨u₁, u₂, u₃, run⟩ := run_shownAgain
  obtain ⟨u, p', hperformed, haccounts⟩ :=
    hall _ _ _ _ _ (shows "Jingle" 0) ⟨35000000, some 0⟩ run
    (typed_shows "Jingle" 0) rfl
  have htitle : (((shows "Jingle" 0).perform ⟨35000000, some 0⟩ shownAgain).result.toOption.bind
      fun u => u.finished.map fun y => y.title.display) = some "Tune" := by decide +kernel
  rw [hperformed] at htitle
  obtain ⟨y, hy, hdisplay⟩ := Option.map_eq_some_iff.mp
    (show u.finished.map (fun y => y.title.display) = some "Tune" from htitle)
  obtain ⟨o, ho, -, hsession, track, rs, ⟨status, hshown⟩, -, rfl⟩ := haccounts.finished y hy
  -- only the last call was in the session that has ended
  have honce : onceShown.begun ≠ shownAgain.begun := by decide +kernel
  have htwice : twiceShown.begun ≠ shownAgain.begun := by decide +kernel
  rcases List.mem_cons.mp ho with rfl | ho
  · exact honce hsession
  rcases List.mem_cons.mp ho with rfl | ho
  · exact htwice hsession
  obtain rfl := List.mem_singleton.mp ho
  obtain ⟨rfl, -⟩ := Prod.mk.inj (Option.some.inj hshown)
  exact absurd (show (Label.text "tune").display = "Tune" from hdisplay) (by decide)

end Listening.Player
