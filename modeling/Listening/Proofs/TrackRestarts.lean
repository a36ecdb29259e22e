import Listening.Proofs.DifferenceSigns
import Listening.Proofs.ListenedCredit

/-!
# When a track that begins again is a new play

A track that was near its end and is now shown near its start has begun
again: what was heard of it is a finished play, and a new session begins. A
player sees that only where the listener seems to have moved back within a
stretch that is open, has positions at both ends, and has gone on since it
was opened. After a pause, or a look that found the player stale, the stretch
is closed; after a move within the track, or a resumption, it may have only
been opened. Then the last known position is still the one near the end, but
nothing is compared with it: the session goes on, and two listens of the
track are merged into one.

That the listener moved *back* is read off the difference of two positions,
which no rounding makes zero (`Number.sub_lt_zero`).
-/

namespace Listening

/-- **Whether a stretch has gone on** since it was opened, as far as its
positions tell: there is one at each end, and they are not the same. -/
def Range.HasGoneOn (r : Range) : Prop := r.isPositional = true ∧ r.isInitial = false

instance : DecidablePred Range.HasGoneOn :=
  fun r => inferInstanceAs (Decidable (r.isPositional = true ∧ r.isInitial = false))

namespace Player

variable {platform : Platform} {limits : Limits} {created now : Instant} {past : List Taken}
  {p q p' : Player} {call : Call} {u : Update} {r : Range} {name : String} {track play : Play}
  {x reached : Float}

/-! ## Moves back -/

/-- **A position behind the last one is a move back** where the stretch has
gone on, and is taken as going on where it has not. -/
theorem seek?_of_behind (hr : r.position = some reached) (behind : x < reached) (now : Instant) :
    r.seek? (some x) now = if r.HasGoneOn then .ok (some (x - reached)) else .ok none := by
  have hstop : r.stop.position.getD 0 = reached := by
    rw [show r.stop.position = some reached from hr]
    rfl
  unfold Range.seek?
  dsimp only
  rw [hstop, if_pos behind]
  by_cases hgone : r.HasGoneOn
  · rw [if_pos hgone, hgone.1, hgone.2]
    rfl
  · rw [if_neg hgone]
    refine if_pos ?_
    cases hpositional : r.isPositional with
    | false => rfl
    | true =>
      cases hinitial : r.isInitial with
      | true => rfl
      | false => exact absurd ⟨hpositional, hinitial⟩ hgone

/-- **Whether a position is near the start of a track** for a player. -/
def IsNearStart (p : Player) (track : Play) (x : Float) : Prop :=
  ∃ hint, Threshold.closeToStart? track x p.limits.positions.closeAbsolute
    p.limits.positions.closePercent = .ok (true, hint)

/-- **Whether it is near the end.** -/
def IsNearEnd (p : Player) (track : Play) (x : Float) : Prop :=
  ∃ hint, Threshold.closeToEnd? track x p.limits.positions.closeAbsolute
    p.limits.positions.closePercent = .ok (true, hint)

/-- **Back from near the end to near the start, a track begins again**,
however much of it was heard. -/
theorem isRepeat?_of_near (htyped : track.Typed) (hr : r.position = some reached)
    (nearStart : p.IsNearStart track x) (nearEnd : p.IsNearEnd track reached) :
    p.isRepeat? track r x = .ok true := by
  obtain ⟨_, hstart⟩ := nearStart
  obtain ⟨_, hend⟩ := nearEnd
  obtain ⟨enough, henough⟩ : ∃ enough, Threshold.repeatPlayed? track p.listened
      p.limits.positions.repeatAbsolute p.limits.positions.repeatPercent = .ok enough := by
    obtain ⟨length, hlength⟩ := Amount.counted?_of_isNumeric htyped.duration
    unfold Threshold.repeatPlayed?
    rw [hlength]
    cases length <;> exact ⟨_, rfl⟩
  unfold isRepeat?
  rw [hr]
  dsimp only [Option.getD_some]
  rw [hstart, hend, henough]
  rfl

/-- A move back from near the end to near the start is taken as a repeat. -/
theorem repeated?_of_near (tracked : p.current = some track) (htyped : track.Typed)
    (hr : r.position = some reached) (behind : x < reached) (nearStart : p.IsNearStart track x)
    (nearEnd : p.IsNearEnd track reached) :
    p.repeated? r (some x) (x - reached) = .ok (some track) := by
  unfold repeated?
  rw [tracked]
  dsimp only
  rw [if_pos (Number.sub_lt_zero behind), isRepeat?_of_near htyped hr nearStart nearEnd]
  rfl

/-! ## A track shown near its start again -/

/-- **The track tracked is shown near its start, behind the last known
position near its end**, and plays. -/
structure Rewinds (call : Call) (p : Player) (track : Play) (r : Range) (x : Float) : Prop where
  /-- The track is the one tracked. -/
  tracked : p.current = some track
  /-- It is shown, plays, and tells its position. -/
  shown : ∃ play, call.shown = some (play, .playing) ∧ Match.content? track play = .ok true
    ∧ play.position = some x
  /-- Of all its stretches, one is the last. -/
  last : p.ranges.getLast? = some r
  /-- That one ended further into the track, near the end. -/
  behind : ∃ reached, r.position = some reached ∧ x < reached ∧ p.IsNearEnd track reached
  /-- Now it is near the start. -/
  nearStart : p.IsNearStart track x

/-- **The play tracked ends, and a new one begins**: it is handed out as
finished, with all that was heard of it, and the new session begins now and
at the position shown, with nothing heard yet. -/
structure Restarts (now : Instant) (p : Player) (track : Play) (x : Float) (u : Update)
    (p' : Player) : Prop where
  /-- The play is handed out. -/
  finished : ∃ start y, p.firstSeen = some start ∧ u.finished = some y ∧ track.IsListenOf start y
    ∧ y.listenedMicros = p.listenedMicros
  /-- The track is tracked as a new play. -/
  begins : p.Begins now track p'
  /-- Nothing was heard of it yet. -/
  unheard : p'.listenedMicros = 0
  /-- It is where it was shown to be. -/
  position : p'.position = some x

/-- A player that plays has just begun a play at a position. -/
theorem position_tracking (hplaying : p.status = .playing) (track : Play) (x : Float)
    (now : Instant) : (p.tracking track (some x) now).position = some x
      ∧ (p.tracking track (some x) now).listenedMicros = 0 := by
  unfold tracking
  rw [if_pos hplaying]
  refine ⟨?_, listenedMicros_openRange rfl _ now⟩
  show (if p.status = .stopped then none else some x) = some x
  rw [if_neg (by rw [hplaying]; decide)]

/-- **A track that begins again is a new play**, and all that was heard of the
one before is handed out. -/
theorem Again.restarts (again : Again call p q track play) (hs : p.Sound name)
    (position : play.position = some x) :
    Restarts now p track x ⟨(q.shut.tracking track play.position now).played, q.shut.played⟩
      (q.shut.tracking track play.position now) := by
  have hsq := again.noted.sound hs
  have hkeeps := again.noted.keeps.trans hsq.keeps_shut
  obtain ⟨start, hstart, -⟩ := hs.started track again.tracked
  have hplayed := played_eq (hkeeps.current.trans again.tracked) (hkeeps.firstSeen.trans hstart)
  have hlistened : q.shut.listenedMicros = p.listenedMicros :=
    hsq.listenedMicros_shut.trans again.noted.listenedMicros
  obtain ⟨hposition, hunheard⟩ :=
    position_tracking ((status_shut q).trans again.playing) track x now
  rw [position]
  exact ⟨⟨start, _, hstart, hplayed, ⟨_, _, rfl⟩,
      (listenedMicros_of_played hplayed).trans hlistened⟩,
    hkeeps.begins (begins_tracking track (some x) now q.shut), hunheard, hposition⟩

/-- The open stretch is the last one. -/
theorem getLast?_ranges_of_opened (h : p.opened = some r) : p.ranges.getLast? = some r := by
  unfold Player.ranges
  rw [h]
  exact List.getLast?_concat

/-- **A track that is shown near its start again** is taken as a new play
exactly if its last stretch is open and has gone on. -/
theorem Move.isRestart_iff (hmove : Move call now p u p') (hs : p.Sound name)
    (rewinds : Rewinds call p track r x) :
    (Restarts now p track x u p' ↔ p.opened = some r ∧ r.HasGoneOn)
    ∧ (¬ (p.opened = some r ∧ r.HasGoneOn) → u.finished = none ∧ p.Keeps p') := by
  obtain ⟨play, shown, same, position⟩ := rewinds.shown
  obtain ⟨reached, hr, behind, nearEnd⟩ := rewinds.behind
  have tracked := rewinds.tracked
  obtain ⟨htyped, -⟩ := hs.tracks track tracked
  -- a stretch that is open is the one that ended near the end
  have hlast : ∀ {r'}, p.opened = some r' → r' = r := fun h =>
    Option.some.inj ((getLast?_ranges_of_opened h).symm.trans rewinds.last)
  have hagain : ∀ {q old play'}, Again call p q old play' → old = track ∧ play' = play := by
    intro q old play' again
    refine ⟨Option.some.inj (again.tracked.symm.trans tracked), ?_⟩
    exact (Prod.mk.inj (Option.some.inj (again.shown.symm.trans shown))).1
  have hgoesOn : ∀ {q : Player}, ¬ (p.opened = some r ∧ r.HasGoneOn) → p.Keeps q →
      (Restarts now p track x ⟨q.played, none⟩ q ↔ p.opened = some r ∧ r.HasGoneOn)
      ∧ (¬ (p.opened = some r ∧ r.HasGoneOn) → (none : Option Play) = none ∧ p.Keeps q) := by
    refine fun hnot keeps =>
      ⟨⟨fun restarts => ?_, fun h => absurd h hnot⟩, fun _ => ⟨rfl, keeps⟩⟩
    obtain ⟨_, _, _, hfinished, _⟩ := restarts.finished
    exact nomatch hfinished
  cases hmove with
  | rests noted quiet soFar finished => exact nomatch quiet.symm.trans shown
  | pauses noted idle soFar finished => exact absurd rfl (idle play .playing shown).1
  | resumes again closed =>
    exact hgoesOn (fun h => nomatch closed.symm.trans h.1)
      (again.noted.keeps.trans ⟨rfl, rfl, rfl⟩)
  | @goesOn q old play' r' again opened steady =>
    obtain rfl := hlast opened
    obtain ⟨rfl, rfl⟩ := hagain again
    refine hgoesOn (fun h => ?_) (again.noted.keeps.trans ⟨rfl, rfl, rfl⟩)
    rw [position, seek?_of_behind hr behind, if_pos h.2] at steady
    exact nomatch Except.ok.inj steady
  | @seeks q old play' r' moved again opened seek noRepeat =>
    obtain rfl := hlast opened
    obtain ⟨rfl, rfl⟩ := hagain again
    refine hgoesOn (fun h => ?_) ((again.noted.keeps.trans
      (again.noted.sound hs).keeps_shut).trans ⟨rfl, rfl, rfl⟩)
    rw [position, seek?_of_behind hr behind, if_pos h.2] at seek
    obtain rfl := Option.some.inj (Except.ok.inj seek)
    have hlimits := again.noted.limits
    have hrepeated : q.repeated? r' (some x) (x - reached) = .ok (some old) :=
      repeated?_of_near (again.noted.current.trans tracked) htyped hr behind
        (by unfold IsNearStart; rw [hlimits]; exact rewinds.nearStart)
        (by unfold IsNearEnd; rw [hlimits]; exact nearEnd)
    rw [position] at noRepeat
    exact nomatch Except.ok.inj (noRepeat.symm.trans hrepeated)
  | @repeats q old play' r' moved again opened seek isRepeat =>
    obtain rfl := hlast opened
    obtain ⟨rfl, rfl⟩ := hagain again
    have hgone : r'.HasGoneOn := by
      by_contra hnot
      rw [position, seek?_of_behind hr behind, if_neg hnot] at seek
      exact nomatch Except.ok.inj seek
    exact ⟨⟨fun _ => ⟨opened, hgone⟩, fun _ => again.restarts hs position⟩,
      fun h => absurd ⟨opened, hgone⟩ h⟩
  | @replaces q old play' status noted doing tracked' shown' other =>
    obtain rfl := Option.some.inj (tracked.symm.trans tracked')
    obtain ⟨rfl, -⟩ := Prod.mk.inj (Option.some.inj (shown.symm.trans shown'))
    exact nomatch same.symm.trans other
  | begins noted doing untracked shown => exact nomatch untracked.symm.trans tracked
  | stops noted tracked stopped =>
    rw [stopped] at shown
    exact nomatch shown

/-- **A track that begins again is a new play where the last stretch is open
and has gone on, and only there.** Take a player in any state that calls leave
a new one in, and a track that was near its end and is shown near its start.
If its last stretch is open and has gone on, the play is handed out with all
that was heard of it, and the track is tracked from now on as a new play.
Otherwise nothing is handed out, and the session goes on. -/
theorem Run.restarts_iff (run : Run (fresh platform limits created) past p) (typed : call.Typed)
    (clocked : now.offset.isSome = true) (rewinds : Rewinds call p track r x) :
    ∃ u p', call.perform now p = .ok u p'
      ∧ (Restarts now p track x u p' ↔ p.opened = some r ∧ r.HasGoneOn)
      ∧ (¬ (p.opened = some r ∧ r.HasGoneOn) → u.finished = .none ∧ p.Keeps p') := by
  obtain ⟨name, hs⟩ := run.sound
  obtain ⟨u, p', performed, -, hmove⟩ := hs.move_perform clocked typed
  exact ⟨u, p', performed, hmove.isRestart_iff hs rewinds⟩

/-- A tune of a bit more than three minutes, some seconds into it. -/
def longTune (position : Float) : Play :=
  { title := .text "Tune", duration := .seconds 200, position := some position }

theorem typed_longTune (position : Float) : (longTune position).Typed :=
  ⟨rfl, fun _ h => absurd h List.not_mem_nil, rfl, rfl, rfl, rfl⟩

/-- The call by which it is shown by a player that does something. -/
def showsLong (position : Float) (status : Status) : Call := .observe (longTune position) status

theorem typed_showsLong (position : Float) (status : Status) :
    (showsLong position status).Typed :=
  Call.typed_observe (typed_longTune position) status

/-- A player that has shown it from the start. -/
def longBegun : Player :=
  ((showsLong 0 .playing).perform ⟨0, some 0⟩ (fresh ⟨"d", "u"⟩ {} ⟨0, some 0⟩)).state

/-- A player to which a long track is shown near its end. -/
def longNearEnd : Player :=
  ((showsLong 190 .playing).perform ⟨190000000, some 0⟩ longBegun).state

/-- The stretch that it was heard in. -/
def longStretch : Range where
  start := { time := ⟨0, some 0⟩, position := some 0 }
  stop := { time := ⟨190000000, some 0⟩, position := some 190 }
  origin := some ⟨"d-u", ⟨0, some 0⟩, 0⟩

/-- The calls by which it was shown. -/
theorem exists_run_longNearEnd :
    ∃ past, Run (fresh ⟨"d", "u"⟩ {} ⟨0, some 0⟩) past longNearEnd := by
  have run₀ : Run (fresh ⟨"d", "u"⟩ {} ⟨0, some 0⟩) [] (fresh ⟨"d", "u"⟩ {} ⟨0, some 0⟩) := .none
  obtain ⟨_, run₁⟩ := run₀.exists_call (typed_showsLong 0 .playing)
    (show (⟨0, some 0⟩ : Instant).offset.isSome = true from rfl)
  obtain ⟨_, run₂⟩ := run₁.exists_call (typed_showsLong 190 .playing)
    (show (⟨190000000, some 0⟩ : Instant).offset.isSome = true from rfl)
  exact ⟨_, run₂⟩

/-- Back near its start, the tune is a new play. -/
theorem restarts_longNearEnd :
    ∃ past u p', Run (fresh ⟨"d", "u"⟩ {} ⟨0, some 0⟩) past longNearEnd
    ∧ (showsLong 2 .playing).perform ⟨195000000, some 0⟩ longNearEnd = .ok u p'
    ∧ Restarts ⟨195000000, some 0⟩ longNearEnd (longTune 0) 2 u p' := by
  obtain ⟨past, run⟩ := exists_run_longNearEnd
  have rewinds : Rewinds (showsLong 2 .playing) longNearEnd (longTune 0) longStretch 2 :=
    ⟨rfl, ⟨longTune 2, rfl, rfl, rfl⟩, rfl, ⟨190, rfl, by decide +kernel, ⟨_, rfl⟩⟩, ⟨_, rfl⟩⟩
  obtain ⟨u, p', performed, hrestarts, -⟩ := run.restarts_iff (typed_showsLong 2 .playing)
    (show (⟨195000000, some 0⟩ : Instant).offset.isSome = true from rfl) rewinds
  exact ⟨past, u, p', run, performed, hrestarts.mpr ⟨rfl, by decide +kernel⟩⟩

/-- A player that was paused near the end of a long track. -/
def longPaused : Player :=
  ((showsLong 190 .paused).perform ⟨190000000, some 0⟩ longNearEnd).state

/-- **After a pause a track need not begin again**: the same move back is not
seen. -/
theorem not_forall_restarts :
    ¬ ∀ (platform : Platform) (limits : Limits) (created : Instant)
        (past : List Taken) (p : Player)
        (call : Call) (now : Instant) (track : Play) (r : Range) (x : Float),
      Run (fresh platform limits created) past p → call.Typed → now.offset.isSome = true →
      Rewinds call p track r x → ∃ u p', call.perform now p = .ok u p'
        ∧ Restarts now p track x u p' := by
  intro hall
  obtain ⟨past, run⟩ := exists_run_longNearEnd
  obtain ⟨_, run₃⟩ := run.exists_call (typed_showsLong 190 .paused)
    (show (⟨190000000, some 0⟩ : Instant).offset.isSome = true from rfl)
  have rewinds : Rewinds (showsLong 2 .playing) longPaused (longTune 0) longStretch 2 :=
    ⟨rfl, ⟨longTune 2, rfl, rfl, rfl⟩, rfl, ⟨190, rfl, by decide +kernel, ⟨_, rfl⟩⟩, ⟨_, rfl⟩⟩
  obtain ⟨u, p', performed, restarts⟩ := hall _ _ _ _ longPaused _ ⟨195000000, some 0⟩ _ _ _ run₃
    (typed_showsLong 2 .playing) rfl rewinds
  have hgoesOn :
      (((showsLong 2 .playing).perform ⟨195000000, some 0⟩ longPaused).result.toOption.map
      fun u => u.finished.isNone) = some true := by decide +kernel
  rw [performed] at hgoesOn
  have hnone : u.finished = none := Option.isNone_iff_eq_none.mp (Option.some.inj hgoesOn)
  obtain ⟨_, _, _, hfinished, _⟩ := restarts.finished
  exact nomatch hnone.symm.trans hfinished

end Player

end Listening
