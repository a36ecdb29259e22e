import Listening.Proofs.PlayerOperations
import Listening.Proofs.SessionAccounts

/-!
# When a bare stop ends the session

A player that stops may say so with or without the track. Without it, the
stop ends the session: the play tracked is handed out as finished, with all
that was heard of it, and nothing is tracked any more. One stop does not: the
one of a player that has said already that it stopped. Where it said so with
the track, that track is still tracked (and only there, `Run.stopped_iff`),
and the bare stop that comes then is swallowed. The session goes on, and when
the track is shown again what is heard of it is added to the listen before.
-/

namespace Listening.Player

variable {platform : Platform} {limits : Limits} {created now : Instant} {past : List Taken}
  {p p' : Player} {u : Update} {track : Play} {call : Call} {name : String}

/-! ## A stop at a player -/

/-- The report of a player that has stopped and shows no track. -/
def Call.bareStop : Call := .report (some .stopped) none

/-- **A player that has stopped**, but tracks its play still. -/
def halted (now : Instant) (p : Player) : Player :=
  { p with heard := now, status := .stopped, updated := some now }

theorem notes_halted (now : Instant) (p : Player) : p.Notes (p.halted now) :=
  ⟨rfl, rfl, rfl, rfl, rfl, rfl⟩

/-- **The stop of a player that had not stopped** closes the open stretch, and
the play is handed out and forgotten. -/
theorem Sound.perform_bareStop (hs : p.Sound name)
    (htracked : p.current = some track) (hstatus : p.status ≠ .stopped) :
    Call.bareStop.perform now p
      = .ok ⟨(p.halted now).shut.played, (p.halted now).shut.played⟩
          (p.halted now).shut.clear := by
  have hstops : Status.stopped = .stopped ∧ p.status ≠ .stopped ∧ p.current.isSome = true :=
    ⟨rfl, hstatus, by rw [htracked]; rfl⟩
  have hhalted := (notes_halted now p).sound hs
  unfold Call.bareStop Call.perform Player.report
  dsimp only
  rw [if_pos hstops]
  show ((p.halted now).closeRange).andThen _ = _
  rw [hhalted.closeRange_eq, Step.andThen_ok]

/-- Where no stretch is open there is none to close. -/
theorem closeRange_of_none (h : p.opened = none) : p.closeRange = .ok () p := by
  unfold Player.closeRange
  rw [h]

/-- **A player that has stopped takes no notice of another stop**, as it has no
stretch open. -/
theorem perform_bareStop_of_stopped (hstopped : p.status = .stopped)
    (hopened : p.opened = none) :
    Call.bareStop.perform now p = .ok ⟨p.played, none⟩ { p with heard := now } := by
  have hstops : ¬ (Status.stopped = .stopped ∧ p.status ≠ .stopped ∧ p.current.isSome = true) :=
    fun h => h.2.1 hstopped
  have hsame : { p with heard := now, status := .stopped } = { p with heard := now } := by
    rw [← hstopped]
  have hclosed : Player.closeRange { p with heard := now } = .ok () { p with heard := now } :=
    closeRange_of_none hopened
  unfold Call.bareStop Call.perform Player.report
  dsimp only
  rw [if_neg hstops, if_neg (by decide), hsame, hclosed]
  rfl

/-! ## Along a run -/

/-- **Along a run a stretch is open only while the player plays.** -/
theorem Run.onlyWhilePlaying (run : Run (fresh platform limits created) past p) :
    p.OnlyWhilePlaying := by
  induction run with
  | none => exact onlyWhilePlaying_of_none rfl
  | call run typed clocked performed ih =>
    obtain ⟨name, hs⟩ := run.sound
    have h := hs.onlyWhilePlaying_perform clocked ih typed
    rwa [performed] at h

/-- A player that has stopped has no stretch open. -/
theorem OnlyWhilePlaying.opened_eq_none (h : p.OnlyWhilePlaying)
    (hstopped : p.status = .stopped) :
    p.opened = none := by
  cases hopened : p.opened with
  | none => rfl
  | some r => exact nomatch hstopped.symm.trans (h r hopened).2.1

/-! ## Players that have stopped and track a play -/

/-- What a call tells of what the player is doing, if it does. -/
def Call.told : Call → Option Status
  | .report status (some _) => some (status.getD .playing)
  | .report status none => status
  | .observe _ status => some status
  | .checkStale => none

theorem Call.told_of_shown {play : Play} {status : Status}
    (shown : call.shown = some (play, status)) : call.told = some status := by
  cases call with
  | observe play' status' => exact congrArg (Option.map Prod.snd) shown
  | checkStale => exact nomatch shown
  | report status' play' =>
    cases play' with
    | none => exact nomatch shown
    | some play' => exact congrArg (Option.map Prod.snd) shown

/-- **A player is doing what it was told to be doing**, or what it did before. -/
theorem status_perform (p : Player) (call : Call) (now : Instant) :
    (call.perform now p).state.status = call.told.getD p.status := by
  have hclose : ∀ q : Player, q.closeRange.state.status = q.status := fun q =>
    (SameMarks.refl q).closeRange.status
  cases call with
  | observe play status => exact (sameMarks_observe p play status now).status
  | checkStale =>
    unfold Call.perform Player.checkStale
    dsimp only
    split
    · refine Step.state_andThen (P := fun q : Player => q.status = p.status) ?_ fun _ _ h => h
      exact Step.state_andThen (P := fun q : Player => q.status = p.status) (hclose _)
        fun _ _ h => h
    · rfl
  | report status play =>
    cases play with
    | some play =>
      exact (sameMarks_observe { p with heard := now } play (status.getD .playing) now).status
    | none =>
      cases status with
      | none => rfl
      | some status =>
        unfold Call.perform Player.report
        dsimp only
        split
        · rename_i hstops
          obtain ⟨rfl, -⟩ := hstops
          exact Step.state_andThen (P := fun q : Player => q.status = .stopped)
            (hclose (p.halted now)) fun _ _ h => h
        · refine Step.state_andThen (P := fun q : Player => q.status = status) ?_ fun _ _ h => h
          split
          · rfl
          · exact hclose _

/-- A call that shows no track leaves the play tracked, if any is. -/
theorem Move.current_of_quiet (hmove : Move call now p u p') (quiet : call.shown = none)
    (tracked : p'.current = some track) : p.current = some track := by
  cases hmove with
  | rests noted quiet soFar finished => exact noted.current.symm.trans tracked
  | pauses noted idle soFar finished =>
    rw [current_shut] at tracked
    exact noted.current.symm.trans tracked
  | resumes again closed => exact nomatch quiet.symm.trans again.shown
  | goesOn again opened steady => exact nomatch quiet.symm.trans again.shown
  | seeks again opened seek noRepeat => exact nomatch quiet.symm.trans again.shown
  | repeats again opened seek isRepeat => exact nomatch quiet.symm.trans again.shown
  | replaces noted doing tracked shown other => exact nomatch quiet.symm.trans shown
  | begins noted doing untracked shown => exact nomatch quiet.symm.trans shown
  | stops noted tracked' stopped => exact nomatch tracked

/-- **Whether a track was last shown as stopped**, and nothing else was told of
the player since. -/
def shownStopped (past : List Taken) : Bool :=
  past.foldl (fun halted t => match t.call.shown with
    | some (_, status) => status = .stopped
    | none => halted && t.call.told.getD .stopped = .stopped) false

theorem shownStopped_concat (past : List Taken) (t : Taken) :
    shownStopped (past ++ [t]) = match t.call.shown with
      | some (_, status) => decide (status = .stopped)
      | none => shownStopped past && decide (t.call.told.getD .stopped = .stopped) := by
  unfold shownStopped
  rw [List.foldl_append]
  rfl

/-- A call that shows no track and tells that the player has stopped is a bare
stop. -/
theorem Call.eq_bareStop (quiet : call.shown = none) (told : call.told = some .stopped) :
    call = .bareStop := by
  cases call with
  | observe play status => exact nomatch quiet
  | checkStale => exact nomatch told
  | report status play =>
    cases play with
    | some play => exact nomatch quiet
    | none => exact congrArg (Call.report · none) told

/-- A bare stop that leaves a play tracked found the player stopped. -/
theorem Sound.stopped_of_bareStop (hs : p.Sound name) (before : p.current = some track)
    (performed : Call.bareStop.perform now p = .ok u p') (tracked : p'.current = some track) :
    p.status = .stopped := by
  by_contra hnot
  rw [hs.perform_bareStop before hnot] at performed
  obtain rfl := congrArg Step.state performed
  exact nomatch tracked

/-- **Where a play is tracked, a player has stopped exactly if a track was last
shown as stopped.** -/
theorem Run.stopped_iff (run : Run (fresh platform limits created) past p)
    (tracked : p.current = some track) : p.status = .stopped ↔ shownStopped past = true := by
  induction run with
  | none => exact nomatch tracked
  | @call past p run call typed now clocked u p' performed ih =>
    obtain ⟨name, hs⟩ := run.sound
    obtain ⟨-, hmove⟩ := hs.move_of_performed clocked typed performed
    have hstatus := status_perform p call now
    rw [performed, Step.state_ok] at hstatus
    rw [shownStopped_concat]
    dsimp only
    cases hshown : call.shown with
    | some seen =>
      obtain ⟨play, status⟩ := seen
      rw [Call.told_of_shown hshown] at hstatus
      rw [hstatus]
      exact decide_eq_true_iff.symm
    | none =>
      have before := hmove.current_of_quiet hshown tracked
      cases htold : call.told with
      | none =>
        rw [htold] at hstatus
        rw [hstatus]
        exact (ih before).trans (by simp)
      | some status =>
        rw [htold] at hstatus
        rw [hstatus]
        dsimp only [Option.getD_some]
        by_cases hstops : status = .stopped
        · subst hstops
          have hbare := Call.eq_bareStop hshown htold
          subst hbare
          have hstopped := (ih before).mp (hs.stopped_of_bareStop before performed tracked)
          simp [hstopped]
        · simp [hstops]

/-! ## What a stop does along a run -/

/-- **What a stop has to do with the session it ends**: the play tracked is
handed out, once as far as it was heard and once as finished, with the time
of the call that began the session and all its stretches; and there is
nothing left of it. -/
structure FinishesBy (past : List Taken) (now : Instant) (track : Play) (p : Player) (u : Update)
    (p' : Player) : Prop where
  /-- The play is handed out. -/
  handedOut : ∃ o ∈ past, o.IsOpening ∧ o.after.begun = p.begun
    ∧ ∃ rs, Closing .bareStop now p rs ∧ Range.total rs = p.listenedMicros
      ∧ ∃ y, u = ⟨some y, some y⟩ ∧ y = { track with
          playedAt := some o.now
          listenedFor := .seconds (Range.totalSeconds rs)
          ranges := some rs }
  /-- No play is tracked. -/
  forgotten : p'.current = none
  /-- No stretch is left. -/
  ranges : p'.ranges = []
  /-- The player has stopped. -/
  stopped : p'.status = .stopped

/-- **A stop that is not the second one ends the session.** -/
theorem Tallies.finishesBy (h : Tallies past p) (htracked : p.current = some track)
    (hs : p.Sound name) :
    FinishesBy past now track p ⟨(p.halted now).shut.played, (p.halted now).shut.played⟩
      (p.halted now).shut.clear where
  handedOut := by
    have hhalted := (notes_halted now p).sound hs
    have hcloses : Closes .bareStop now p (p.halted now).shut :=
      (notes_halted now p).closes_shut hhalted (by rw [Call.replaces, htracked]; rfl)
    obtain ⟨o, ho, hopening, hbegun, hfirst, -⟩ := h.opening track htracked
    have hplayed := played_eq (hcloses.keeps.current.trans htracked)
      (hcloses.keeps.firstSeen.trans hfirst)
    have htotal : Range.total (p.halted now).shut.ranges = p.listenedMicros :=
      hhalted.listenedMicros_shut.trans (notes_halted now p).listenedMicros
    exact ⟨o, ho, hopening, hbegun, _, hcloses.ranges, htotal, _, by rw [hplayed], rfl⟩
  forgotten := rfl
  ranges := rfl
  stopped := status_shut (p.halted now)

/-- **A bare stop ends the session unless the player had stopped before.** In
every state that calls leave a new player in, at whatever times, a stop
without the track is taken in; and where a play is tracked it is finished by
it exactly if the player was not known to have stopped, which is to say that
the track was not last shown as stopped. Where it was, the play stays tracked,
all stretches with it, and is handed out as unfinished. -/
theorem Run.bareStop_finishes_iff (run : Run (fresh platform limits created) past p)
    (tracked : p.current = some track) (now : Instant) :
    ∃ u p', Call.bareStop.perform now p = .ok u p'
      ∧ (FinishesBy past now track p u p' ↔ p.status ≠ .stopped)
      ∧ (p.status = .stopped ↔ shownStopped past = true)
      ∧ (p.status = .stopped → u = { soFar := p.played } ∧ p' = { p with heard := now }) := by
  obtain ⟨name, hs⟩ := run.sound
  have hstopped := run.stopped_iff tracked
  by_cases hstatus : p.status = .stopped
  · have hopened := run.onlyWhilePlaying.opened_eq_none hstatus
    refine ⟨_, _, perform_bareStop_of_stopped hstatus hopened,
      ⟨fun finishes => ?_, fun h => absurd hstatus h⟩, hstopped, fun _ => ⟨rfl, rfl⟩⟩
    exact nomatch tracked.symm.trans finishes.forgotten
  · have htallies := run.tallies (tallies_fresh platform limits created)
    exact ⟨_, _, hs.perform_bareStop tracked hstatus,
      ⟨fun _ => hstatus, fun _ => htallies.finishesBy tracked hs⟩, hstopped,
      fun h => absurd h hstatus⟩

/-- A tune that begins again is playing when the stop comes, and is handed
out. -/
theorem bareStop_finishes_shownAgain : ∃ past track u p',
    Run (fresh ⟨"d", "u"⟩ {} ⟨0, some 0⟩) past shownAgain ∧ shownAgain.current = some track
    ∧ Call.bareStop.perform ⟨35000000, some 0⟩ shownAgain = .ok u p'
    ∧ FinishesBy past ⟨35000000, some 0⟩ track shownAgain u p' := by
  obtain ⟨_, _, _, run⟩ := run_shownAgain
  obtain ⟨track, tracked⟩ := Option.isSome_iff_exists.mp
    (show shownAgain.current.isSome = true by decide +kernel)
  obtain ⟨u, p', performed, hfinishes, -⟩ :=
    run.bareStop_finishes_iff tracked ⟨35000000, some 0⟩
  exact ⟨_, track, u, p', run, tracked, performed, hfinishes.mpr (by decide +kernel)⟩

/-- A player that has shown a tune, and shows it still once it has stopped. -/
def stoppedShowing : Player :=
  ((Call.observe (tune "Tune" 30) .stopped).perform ⟨30000000, some 0⟩ onceShown).state

/-- **Not every bare stop ends the session.** Where the player has stopped with
the tune still shown, the tune stays tracked. -/
theorem not_forall_bareStop_finishes :
    ¬ ∀ (platform : Platform) (limits : Limits) (created : Instant)
        (past : List Taken) (p : Player)
        (now : Instant) (track : Play), Run (fresh platform limits created) past p →
      now.offset.isSome = true → p.current = some track →
      ∃ u p', Call.bareStop.perform now p = .ok u p' ∧ FinishesBy past now track p u p' := by
  intro hall
  obtain ⟨_, run₁⟩ := run_onceShown
  obtain ⟨_, run₂⟩ := run₁.exists_call (Call.typed_observe (typed_tune "Tune" 30) .stopped)
    (show (⟨30000000, some 0⟩ : Instant).offset.isSome = true from rfl)
  obtain ⟨track, tracked⟩ := Option.isSome_iff_exists.mp
    (show stoppedShowing.current.isSome = true by decide +kernel)
  obtain ⟨u, p', performed, finishes⟩ :=
    hall _ _ _ _ stoppedShowing ⟨35000000, some 0⟩ track run₂ rfl tracked
  have hstays : Call.bareStop.perform ⟨35000000, some 0⟩ stoppedShowing
      = .ok ⟨stoppedShowing.played, none⟩ { stoppedShowing with heard := ⟨35000000, some 0⟩ } :=
    perform_bareStop_of_stopped (by decide +kernel)
      (Option.isNone_iff_eq_none.mp (by decide +kernel))
  obtain rfl := congrArg Step.state (performed.symm.trans hstays)
  exact nomatch tracked.symm.trans finishes.forgotten

end Listening.Player
