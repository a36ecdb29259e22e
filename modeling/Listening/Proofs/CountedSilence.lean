import Listening.Proofs.BareStops
import Listening.Proofs.ListenedCredit

/-!
# Silence that is counted

A player of which nothing is heard for too long is stale, and a look after it
closes the open stretch where it ended. What counts is whether that look has
happened when the player is heard of again. Nothing else asks for how long
there was no news: a call that shows a track makes the open stretch longer up
to its own time, whatever lies in between, and then all of the silence is
counted as listening.

The run lemma behind it is that, on a clock that never goes back, an open
stretch ends where the play was last reported, so that the time since then is
what is credited.
-/

namespace Listening.Player

variable {platform : Platform} {limits : Limits} {created now t : Instant} {past : List Taken}
  {p p' : Player} {call : Call} {u : Update} {r : Range} {name : String}

/-! ## Where an open stretch ends -/

/-- A track that is shown is news, from now on. -/
theorem updated_perform {play : Play} {status : Status}
    (shown : call.shown = some (play, status)) :
    (call.perform now p).state.updated = some now := by
  cases call with
  | observe play' status' => exact (sameMarks_observe p play' status' now).updated
  | report status' play' =>
    cases play' with
    | none => exact nomatch shown
    | some play' =>
      exact (sameMarks_observe { p with heard := now } play' (status'.getD .playing) now).updated
  | checkStale => exact nomatch shown

/-- **A call that shows no track opens no stretch**, and one that it leaves
open was reported when it was before. -/
theorem Sound.updated_of_quiet (hs : p.Sound name) (now : Instant) (quiet : call.shown = none)
    (hr : (call.perform now p).state.opened = some r) :
    p.opened = some r ∧ (call.perform now p).state.updated = p.updated := by
  have hshut : ∀ {q : Player} {P : Prop}, q.shut.opened = some r → P :=
    fun hr => nomatch (opened_shut _).symm.trans hr
  cases call with
  | observe play status => exact nomatch quiet
  | checkStale =>
    have hmarked : Sound name { p with isStale := true } :=
      ⟨hs.tracks, hs.started, hs.closed, hs.opened⟩
    unfold Call.perform Player.checkStale at hr ⊢
    dsimp only at hr ⊢
    split at hr
    · rw [hmarked.closeRange_eq] at hr
      exact hshut hr
    · rename_i hfresh
      rw [if_neg hfresh]
      exact ⟨hr, rfl⟩
  | report status play =>
    cases play with
    | some play => exact nomatch quiet
    | none =>
      cases status with
      | none => exact ⟨hr, rfl⟩
      | some status =>
        have hchanged : Sound name { p with heard := now, status := status } :=
          ⟨hs.tracks, hs.started, hs.closed, hs.opened⟩
        unfold Call.perform Player.report at hr ⊢
        dsimp only at hr ⊢
        split at hr
        · have hstopped := ((notes_halted now p).sound hs).closeRange_eq
          change ((p.halted now).closeRange.andThen _).state.opened = some r at hr
          rw [hstopped] at hr
          exact nomatch hr
        · rename_i hgoes
          rw [if_neg hgoes]
          split at hr
          · rename_i hplaying
            rw [if_pos hplaying]
            exact ⟨hr, rfl⟩
          · rw [hchanged.closeRange_eq] at hr
            exact hshut hr

/-- **A stretch that is open once a track was shown ends now**, if it did not
end later before. -/
theorem Move.stop_eq_now (hmove : Move call now p u p') (shown : call.shown ≠ none)
    (hended : ∀ r, p.opened = some r → r.stop.time.micros ≤ now.micros)
    (hr : p'.opened = some r) : r.stop.time = now := by
  have htracking : ∀ {play position} {q : Player},
      (q.tracking play position now).opened = some r →
      r.stop.time = now := by
    intro play position q hr
    unfold tracking at hr
    split at hr
    · obtain rfl := Option.some.inj hr
      rfl
    · exact nomatch hr
  cases hmove with
  | rests noted quiet soFar finished => exact absurd quiet shown
  | pauses noted idle soFar finished => exact nomatch (opened_shut _).symm.trans hr
  | resumes again closed =>
    obtain rfl := Option.some.inj hr
    rfl
  | @goesOn q old play r₀ again opened steady =>
    obtain rfl := Option.some.inj hr
    exact if_neg (Int.not_lt.mpr (hended r₀ opened))
  | seeks again opened seek noRepeat =>
    obtain rfl := Option.some.inj hr
    rfl
  | repeats again opened seek isRepeat => exact htracking hr
  | replaces noted doing tracked shown other => exact htracking hr
  | begins noted doing untracked shown => exact htracking hr
  | stops noted tracked stopped => exact nomatch hr

/-- **No stretch ends in the future**, on a clock that never goes back. -/
theorem Run.ended (run : Run (fresh platform limits created) past p)
    (clock : NeverBack (past.map Taken.now ++ [now])) (hr : p.opened = some r) :
    r.stop.time.micros ≤ now.micros := by
  obtain ⟨name, hs⟩ := run.sound
  have hmem : r ∈ heardIn past p := by
    refine List.mem_append_right _ (List.mem_append_right _ ?_)
    rw [hr]
    exact List.mem_cons_self
  exact (((run.ordered clock).countsOnce hs).ended r hmem).2

/-- **Along a run an open stretch ends where the play was last reported.** -/
theorem Run.updated_eq (run : Run (fresh platform limits created) past p)
    (clock : NeverBack (past.map Taken.now)) (hr : p.opened = some r) :
    p.updated = some r.stop.time := by
  induction run generalizing r with
  | none => exact nomatch hr
  | @call past p run call typed now clocked u p' performed ih =>
    rw [List.map_append] at clock
    obtain ⟨name, hs⟩ := run.sound
    obtain ⟨-, hmove⟩ := hs.move_of_performed clocked typed performed
    have hstate : (call.perform now p).state = p' := congrArg Step.state performed
    by_cases quiet : call.shown = .none
    · obtain ⟨hopened, hupdated⟩ := hs.updated_of_quiet now quiet (hstate ▸ hr)
      rw [hstate] at hupdated
      exact hupdated.trans (ih (List.pairwise_append.mp clock).1 hopened)
    · obtain ⟨⟨play, status⟩, shown⟩ := Option.ne_none_iff_exists'.mp quiet
      rw [hmove.stop_eq_now quiet (fun r hr => run.ended clock hr) hr, ← hstate]
      exact updated_perform shown

/-! ## Players found stale -/

/-- **Whether a look after a player found it stale.** -/
def Taken.findsStale (t : Taken) : Bool :=
  match t.call with
  | .checkStale => t.before.isUpdateStale t.now
  | _ => false

/-- **Whether a player was found stale** after a track was last shown. -/
def foundStale (past : List Taken) : Bool :=
  past.foldl (fun found t => t.call.shown.isNone && (found || t.findsStale)) false

theorem foundStale_concat (past : List Taken) (t : Taken) :
    foundStale (past ++ [t]) = (t.call.shown.isNone && (foundStale past || t.findsStale)) := by
  unfold foundStale
  rw [List.foldl_append]
  rfl

/-- **A player found stale has no stretch open**, be it that the look closed
it or that it was closed before. -/
theorem Sound.opened_checkStale (hs : p.Sound name) (h : p.OnlyWhilePlaying)
    (stale : p.isUpdateStale now = true) :
    (Call.checkStale.perform now p).state.opened = none := by
  have hmarked : Sound name { p with isStale := true } :=
    ⟨hs.tracks, hs.started, hs.closed, hs.opened⟩
  unfold Call.perform Player.checkStale
  dsimp only
  rw [stale, Bool.true_and]
  cases hstale : p.isStale with
  | false =>
    rw [Bool.not_false, if_pos rfl, hmarked.closeRange_eq]
    exact opened_shut _
  | true =>
    rw [Bool.not_true, if_neg Bool.false_ne_true]
    cases hopened : p.opened with
    | none => exact hopened
    | some r => exact nomatch hstale.symm.trans (h r hopened).2.2

/-- **Along a run it has none until a track is shown.** -/
theorem Run.opened_of_foundStale (run : Run (fresh platform limits created) past p)
    (found : foundStale past = true) : p.opened = .none := by
  induction run with
  | none => exact absurd found Bool.false_ne_true
  | @call past p run call typed now clocked u p' performed ih =>
    obtain ⟨name, hs⟩ := run.sound
    have hstate : (call.perform now p).state = p' := congrArg Step.state performed
    rw [foundStale_concat, Bool.and_eq_true, Bool.or_eq_true, Option.isNone_iff_eq_none] at found
    obtain ⟨quiet, hbefore | hnow⟩ := found
    · -- no stretch was open, and a call that shows no track opens none
      cases hopened : p'.opened with
      | none => rfl
      | some r =>
        have hr := (hs.updated_of_quiet now quiet (hstate ▸ hopened)).1
        exact nomatch (ih hbefore).symm.trans hr
    · cases call with
      | checkStale =>
        rw [← hstate]
        exact hs.opened_checkStale run.onlyWhilePlaying hnow
      | observe play status => exact absurd hnow Bool.false_ne_true
      | report status play => exact absurd hnow Bool.false_ne_true

/-! ## How silence is counted -/

/-- **Silence is counted where it makes the open stretch longer.** Take a
player in any state that calls leave a new one in, on a clock that never goes
back, and a call that shows a track when there was no news of the play tracked
for longer than the player waits. The play is handed out, as the one that
ended or the one that goes on. If a stretch is open and the call makes it
longer, all of the silence is counted, which is more than the player waits;
otherwise none is. None is if the player was found stale in between. -/
theorem Run.silence_counted (run : Run (fresh platform limits created) past p)
    (clock : NeverBack (past.map Taken.now ++ [now])) (typed : call.Typed)
    (clocked : now.offset.isSome = true) (shown : call.shown.isSome = true) {track : Play}
    (tracked : p.current = some track) (reported : p.updated = some t)
    (silent : p.limits.stale < since now t) :
    ∃ u p' y, call.perform now p = .ok u p' ∧ (u.finished <|> u.soFar) = some y
      ∧ (∃ start, p.firstSeen = some start ∧ track.IsListenOf start y)
      ∧ ((∃ r, p.opened = some r ∧ call.Prolongs now p r) →
          y.listenedMicros = p.listenedMicros + now.minus t
          ∧ p.limits.stale < Instant.seconds (y.listenedMicros - p.listenedMicros))
      ∧ ((∀ r, p.opened = some r → ¬ call.Prolongs now p r) →
          y.listenedMicros = p.listenedMicros)
      ∧ (foundStale past = true → y.listenedMicros = p.listenedMicros) := by
  obtain ⟨name, hs⟩ := run.sound
  obtain ⟨start, hstart, -⟩ := hs.started track tracked
  obtain ⟨u, p', performed, -, hmove⟩ := hs.move_perform clocked typed
  obtain ⟨q, hcredits⟩ := hmove.credits hs clocked (by rw [tracked]; rfl)
  obtain ⟨y, hy, hlistened, rfl⟩ :=
    hcredits.exists_play tracked (Option.isSome_iff_ne_none.mp shown)
  refine ⟨u, p', _, performed, hy, ⟨start, hstart, q.listened, q.ranges, by rw [hstart]⟩,
    fun ⟨r, hr, prolongs⟩ => ?_, fun h => hlistened.trans (hcredits.unprolonged h),
    fun found => ?_⟩
  · have hpast : NeverBack (past.map Taken.now) := (List.pairwise_append.mp clock).1
    obtain rfl : t = r.stop.time :=
      Option.some.inj (reported.symm.trans (run.updated_eq hpast hr))
    have hended := run.ended clock hr
    have hcredit : q.listenedMicros = p.listenedMicros + now.minus r.stop.time := by
      rw [hcredits.prolonged r hr prolongs]
      unfold Instant.minus
      omega
    rw [hlistened, hcredit]
    refine ⟨rfl, ?_⟩
    rw [Int.add_comm, Int.add_sub_cancel]
    exact silent
  · have hclosed := run.opened_of_foundStale found
    exact hlistened.trans (hcredits.unprolonged fun r hr => nomatch hclosed.symm.trans hr)

/-- A player that has shown a tune for half a minute, and was found stale after
some more. -/
def foundSilent : Player := (Call.checkStale.perform ⟨300000000, some 0⟩ twiceShown).state

/-- An hour later the tune is shown again, and the half minute is all that was
heard of it. -/
theorem silence_counted_foundSilent : ∃ past u p' y,
    Run (fresh ⟨"d", "u"⟩ {} ⟨0, some 0⟩) past foundSilent
    ∧ (shows "Tune" 60).perform ⟨3630000000, some 0⟩ foundSilent = .ok u p'
    ∧ (u.finished <|> u.soFar) = some y ∧ y.listenedMicros = 30000000 := by
  obtain ⟨u₁, u₂, run₂⟩ := run_twiceShown
  obtain ⟨u₃, run₃⟩ := run₂.exists_call
    (show Call.checkStale.Typed from fun _ _ h => nomatch h)
    (show (⟨300000000, some 0⟩ : Instant).offset.isSome = true from rfl)
  obtain ⟨track, tracked⟩ := Option.isSome_iff_exists.mp
    (show foundSilent.current.isSome = true by decide +kernel)
  have clock : NeverBack [⟨0, some 0⟩, ⟨30000000, some 0⟩, ⟨300000000, some 0⟩,
      ⟨3630000000, some 0⟩] := by
    unfold NeverBack
    decide
  have stale : twiceShown.isUpdateStale ⟨300000000, some 0⟩ = true := by decide +kernel
  obtain ⟨u, p', y, performed, hy, -, -, -, hfound⟩ := Run.silence_counted run₃ clock
    (typed_shows "Tune" 60) (show (⟨3630000000, some 0⟩ : Instant).offset.isSome = true from rfl)
    rfl tracked (show foundSilent.updated = some ⟨30000000, some 0⟩ by decide +kernel)
    (by decide +kernel)
  refine ⟨_, u, p', y, run₃, performed, hy, (hfound ?_).trans (by decide +kernel)⟩
  rw [foundStale_concat]
  exact Bool.and_eq_true_iff.mpr ⟨rfl, Bool.or_eq_true_iff.mpr (Or.inr stale)⟩

/-- **An hour without news counts** if nobody has looked after the player. -/
theorem not_forall_silence_uncounted :
    ¬ ∀ (platform : Platform) (limits : Limits) (created : Instant)
        (past : List Taken) (p : Player)
        (call : Call) (now t : Instant), Run (fresh platform limits created) past p →
      NeverBack (past.map Taken.now ++ [now]) → call.Typed → now.offset.isSome = true →
      call.shown.isSome = true → p.current.isSome = true → p.updated = some t →
      p.limits.stale < since now t → ∃ u p' y, call.perform now p = .ok u p'
        ∧ (u.finished <|> u.soFar) = some y ∧ y.listenedMicros ≤ p.listenedMicros := by
  intro hall
  obtain ⟨u₁, u₂, run⟩ := run_twiceShown
  have clock : NeverBack [⟨0, some 0⟩, ⟨30000000, some 0⟩, ⟨3630000000, some 0⟩] := by
    unfold NeverBack
    decide
  obtain ⟨u, p', y, performed, hy, hle⟩ := hall _ _ _ _ _ (shows "Tune" 60) ⟨3630000000, some 0⟩
    ⟨30000000, some 0⟩ run clock (typed_shows "Tune" 60) rfl rfl (by decide +kernel)
    (by decide +kernel) (by decide +kernel)
  have hcounted :
      (((shows "Tune" 60).perform ⟨3630000000, some 0⟩ twiceShown).result.toOption.bind
      fun u => (u.finished <|> u.soFar).map Play.listenedMicros) = some 3630000000 := by
    decide +kernel
  have hbefore : twiceShown.listenedMicros = 30000000 := by decide +kernel
  rw [performed] at hcounted
  have hlistened : (u.finished <|> u.soFar).map Play.listenedMicros = some 3630000000 := hcounted
  rw [hy] at hlistened
  have hy' : y.listenedMicros = 3630000000 := Option.some.inj hlistened
  omega

end Listening.Player
