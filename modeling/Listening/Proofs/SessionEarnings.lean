import Listening.Proofs.TrackRestarts

/-!
# What a session earns with a call

A call may make the session before it longer, end it, and say where the track
is now. `Earns` says all three at once, for any call on any player that calls
have left. The session gains the time since the end of its open stretch where
the call makes that longer, and nothing otherwise: not while the player is
paused or stopped or found stale, not by a move within the track, and not by
the call with which a track begins again. A session of the track that is shown
ends only where it begins again, and that is not taken on trust: all the
reasons for it can be read off the player, `BeginsAgain`. And where a player
plays, it is where it was shown to be.

The time listened is the same whether the session is still tracked or has been
handed out, so it is looked up where the call has left it: `heardAfter`.
-/

namespace Listening

/-- A move is only seen in a stretch with a position at both ends. -/
theorem Range.exists_position_of_seek? {r : Range} {position : Option Float} {now : Instant}
    {moved : Float} (h : r.seek? position now = .ok (some moved)) :
    ∃ x reached, position = some x ∧ r.position = some reached ∧ moved = x - reached := by
  cases position with
  | none => exact nomatch Except.ok.inj h
  | some x =>
    unfold Range.seek? at h
    dsimp only at h
    split at h
    · exact nomatch Except.ok.inj h
    · rename_i hpositional
      rw [Bool.or_eq_true, not_or, Bool.not_eq_true', Bool.not_eq_false] at hpositional
      obtain ⟨reached, hreached⟩ := Option.isSome_iff_exists.mp
        (Bool.and_eq_true_iff.mp hpositional.1).2
      rw [hreached, Option.getD_some] at h
      refine ⟨x, reached, rfl, hreached, ?_⟩
      split at h
      · exact (Option.some.inj (Except.ok.inj h)).symm
      · obtain ⟨passed, -, h⟩ := exists_of_bind_eq_ok h
        have hahead := Option.ite_none_right_eq_some.mp (Except.ok.inj h)
        exact (Option.some.inj hahead.2).symm

namespace Player

variable {platform : Platform} {limits : Limits} {created now : Instant} {past : List Taken}
  {p q p' : Player} {call : Call} {u : Update} {r : Range} {name : String} {track play : Play}
  {status : Status} {x moved : Float}

/-! ## The time listened -/

/-- **The time listened of the session before a call**, as the call leaves
it. -/
def heardAfter (u : Update) (p' : Player) : Int :=
  match u.finished with
  | some y => y.listenedMicros
  | none => p'.listenedMicros

/-- A call that shows no track and hands out no finished play leaves the time
listened. -/
theorem Move.listenedMicros_of_quiet (hmove : Move call now p u p') (hs : p.Sound name)
    (quiet : call.shown = none) (unfinished : u.finished = none)
    (tracked : p.current = some track) :
    p'.listenedMicros = p.listenedMicros := by
  cases hmove with
  | rests noted quiet soFar finished => exact noted.listenedMicros
  | pauses noted idle soFar finished =>
    exact (noted.sound hs).listenedMicros_shut.trans noted.listenedMicros
  | resumes again closed => exact nomatch quiet.symm.trans again.shown
  | goesOn again opened steady => exact nomatch quiet.symm.trans again.shown
  | seeks again opened seek noRepeat => exact nomatch quiet.symm.trans again.shown
  | repeats again opened seek isRepeat => exact nomatch quiet.symm.trans again.shown
  | replaces noted doing tracked shown other => exact nomatch quiet.symm.trans shown
  | begins noted doing untracked shown => exact nomatch quiet.symm.trans shown
  | @stops q old noted tracked' stopped =>
    -- the play that was tracked is handed out
    have hplayed : q.shut.played.isSome = true := by
      rw [isSome_played, current_shut, noted.current, tracked]
      rfl
    exact absurd hplayed (Option.not_isSome_iff_eq_none.mpr unfinished)

/-- **The session is heard for as long** as the player that hands it out has
heard it. -/
theorem Credits.heardAfter_eq (h : Credits call now p u q) (hmove : Move call now p u p')
    (hs : p.Sound name) (hnow : now.offset.isSome = true) (tracked : p.current = some track) :
    heardAfter u p' = q.listenedMicros := by
  obtain ⟨y, hy⟩ : ∃ y, q.played = some y := by
    rw [← Option.isSome_iff_exists, isSome_played, h.keeps.current, tracked]
    rfl
  have hsome : p.current.isSome = true := by rw [tracked]; rfl
  rcases h.handedOut with finished | ⟨finished, soFar⟩
  · unfold heardAfter
    rw [finished, hy]
    exact listenedMicros_of_played hy
  have hafter : heardAfter u p' = p'.listenedMicros := by
    unfold heardAfter
    rw [finished]
  rcases soFar with ⟨-, quiet⟩ | soFar
  · rw [hafter, hmove.listenedMicros_of_quiet hs quiet finished tracked,
      h.unprolonged fun _ _ => Call.not_prolongs_of_quiet quiet]
  -- the session goes on, and what is handed out of it is what the player tracks
  cases hmove.course hs hnow with
  | goesOn keeps grows soFar' finished' =>
    rcases soFar' with soFar' | soFar'
    · exact nomatch (hy.symm.trans soFar.symm).trans soFar'
    · rw [hafter, ← listenedMicros_of_played hy]
      exact (listenedMicros_of_played ((soFar'.symm.trans soFar).trans hy)).symm
  | begins untracked begunWith begun soFar' finished' =>
    exact nomatch tracked.symm.trans untracked
  | follows closes begunWith begun soFar' finished' tracked' =>
    exact absurd (finished'.symm.trans finished) (closes.ne_none hsome)
  | stops closes forgotten begun soFar' finished' tracked' =>
    exact absurd (finished'.symm.trans finished) (closes.ne_none hsome)

/-! ## The end of a session of the track that is shown -/

/-- **Whether enough of the play tracked was heard** for hearing the track
again to be a repeat. -/
def HasHeardEnough (p : Player) (track : Play) : Prop :=
  ∃ hint, Threshold.repeatPlayed? track p.listened p.limits.positions.repeatAbsolute
    p.limits.positions.repeatPercent = .ok (true, hint)

/-- **The reasons for which a track begins again**: it is shown behind the
last position of the open stretch. -/
structure BeginsAgain (p : Player) (track play : Play) (r : Range)
    (x reached : Float) : Prop where
  /-- A stretch is open. -/
  opened : p.opened = some r
  /-- It has come to a position. -/
  last : r.position = some reached
  /-- The track is shown with one. -/
  position : play.position = some x
  /-- That is behind. -/
  behind : x < reached
  /-- It is close to the start of the track. -/
  nearStart : p.IsNearStart track x
  /-- The one before is close to the end, or enough was heard. -/
  nearEnd_or_enough : p.IsNearEnd track reached ∨ p.HasHeardEnough track

/-- What a repeat is a sign of. -/
theorem near_of_isRepeat? (h : p.isRepeat? track r x = .ok true) : p.IsNearStart track x
    ∧ (p.IsNearEnd track (r.position.getD 0) ∨ p.HasHeardEnough track) := by
  obtain ⟨⟨nearStart, hintStart⟩, hstart, h⟩ := exists_of_bind_eq_ok h
  cases nearStart with
  | false => exact nomatch Except.ok.inj h
  | true =>
    obtain ⟨⟨nearEnd, hintEnd⟩, hend, h⟩ := exists_of_bind_eq_ok h
    obtain ⟨⟨enough, hintEnough⟩, henough, h⟩ := exists_of_bind_eq_ok h
    refine ⟨⟨hintStart, hstart⟩, (Bool.or_eq_true_iff.mp (Except.ok.inj h)).imp ?_ ?_⟩
    · rintro rfl
      exact ⟨hintEnd, hend⟩
    · rintro rfl
      exact ⟨hintEnough, henough⟩

/-- A repeat is only asked for where the listener has moved back. -/
theorem back_of_repeated? (h : p.repeated? r (some x) moved = .ok (some track)) :
    moved < 0 ∧ p.isRepeat? track r x = .ok true := by
  unfold repeated? at h
  split at h
  · rename_i y play hy tracked
    obtain rfl := Option.some.inj hy
    split at h
    · rename_i hback
      obtain ⟨again, hagain, h⟩ := exists_of_bind_eq_ok h
      obtain ⟨rfl, he⟩ := Option.ite_none_right_eq_some.mp (Except.ok.inj h)
      obtain rfl := Option.some.inj he
      exact ⟨hback, hagain⟩
    · exact nomatch Except.ok.inj h
  · exact nomatch Except.ok.inj h

/-- What is close to an end of the track, or enough of it, does not depend on
notes. -/
theorem Notes.nearStart (h : p.Notes q) (near : q.IsNearStart track x) :
    p.IsNearStart track x := by
  unfold IsNearStart at near ⊢
  rwa [h.limits] at near

theorem Notes.nearEnd (h : p.Notes q) (near : q.IsNearEnd track x) : p.IsNearEnd track x := by
  unfold IsNearEnd at near ⊢
  rwa [h.limits] at near

theorem Notes.hasHeardEnough (h : p.Notes q) (enough : q.HasHeardEnough track) :
    p.HasHeardEnough track := by
  unfold HasHeardEnough listened at enough ⊢
  rwa [h.limits, h.ranges] at enough

/-- **A session of the track that is shown ends only where it begins
again**, with a reason. -/
theorem Move.beginsAgain (hmove : Move call now p u p') (hs : p.Sound name)
    (tracked : p.current = some track) (shown : call.shown = some (play, status))
    (same : Match.content? track play = .ok true) (ends : u.finished ≠ none ∨ ¬ p.Keeps p') :
    status = .playing ∧ ∃ r x reached, BeginsAgain p track play r x reached := by
  have hgoesOn : ∀ {P : Prop}, u.finished = none → p.Keeps p' → P :=
    fun finished keeps => absurd ends (not_or.mpr ⟨not_not.mpr finished, not_not.mpr keeps⟩)
  cases hmove with
  | rests noted quiet soFar finished => exact nomatch quiet.symm.trans shown
  | pauses noted idle soFar finished =>
    exact hgoesOn finished (noted.keeps.trans (noted.sound hs).keeps_shut)
  | resumes again closed => exact hgoesOn rfl (again.noted.keeps.trans ⟨rfl, rfl, rfl⟩)
  | goesOn again opened steady => exact hgoesOn rfl (again.noted.keeps.trans ⟨rfl, rfl, rfl⟩)
  | seeks again opened seek noRepeat =>
    exact hgoesOn rfl
      ((again.noted.keeps.trans (again.noted.sound hs).keeps_shut).trans ⟨rfl, rfl, rfl⟩)
  | @repeats q old play' r moved again opened seek isRepeat =>
    obtain rfl := Option.some.inj (tracked.symm.trans again.tracked)
    obtain ⟨rfl, rfl⟩ := Prod.mk.inj (Option.some.inj (shown.symm.trans again.shown))
    obtain ⟨x, reached, position, hreached, rfl⟩ := Range.exists_position_of_seek? seek
    rw [position] at isRepeat
    obtain ⟨back, hrepeat⟩ := back_of_repeated? isRepeat
    obtain ⟨nearStart, hnear⟩ := near_of_isRepeat? hrepeat
    rw [hreached, Option.getD_some] at hnear
    exact ⟨rfl, r, x, reached, opened, hreached, position, Number.lt_of_sub_lt_zero back,
      again.noted.nearStart nearStart,
      hnear.imp again.noted.nearEnd again.noted.hasHeardEnough⟩
  | replaces noted doing tracked' shown' other =>
    obtain rfl := Option.some.inj (tracked.symm.trans tracked')
    obtain ⟨rfl, -⟩ := Prod.mk.inj (Option.some.inj (shown.symm.trans shown'))
    exact nomatch same.symm.trans other
  | begins noted doing untracked shown' => exact nomatch tracked.symm.trans untracked
  | stops noted tracked' stopped =>
    rw [stopped] at shown
    exact nomatch shown

/-! ## Where the track is -/

/-- A player that plays is where its open stretch has come to. -/
theorem position_of_opened (hplaying : p.status = .playing) (opened : p.opened = some r) :
    p.position = r.position := by
  unfold Player.position
  rw [if_neg (by rw [hplaying]; decide), getLast?_ranges_of_opened opened]
  rfl

theorem position_openRange (hplaying : p.status = .playing) (position : Option Float)
    (now : Instant) : (p.openRange position now).position = position :=
  position_of_opened (p := p.openRange position now) hplaying rfl

theorem position_holding (hplaying : p.status = .playing) (r : Range) (position : Option Float)
    (now : Instant) : (p.holding r position now).position = position :=
  position_of_opened (p := p.holding r position now) hplaying rfl

/-- **A player that plays is where it was shown to be.** -/
theorem Move.position (hmove : Move call now p u p')
    (shown : call.shown = some (play, .playing)) :
    p'.position = play.position := by
  have htracking : ∀ {q : Player} (track : Play) (position : Option Float), q.status = .playing →
      (q.tracking track position now).position = (position <|> track.position) := by
    intro q track position hplaying
    unfold tracking
    rw [if_pos hplaying]
    exact position_openRange (p := q.beginning track now) hplaying _ now
  have hagain : ∀ {q old play'}, Again call p q old play' → play' = play :=
    fun again => (Prod.mk.inj (Option.some.inj (again.shown.symm.trans shown))).1
  cases hmove with
  | rests noted quiet soFar finished => exact nomatch quiet.symm.trans shown
  | pauses noted idle soFar finished => exact absurd rfl (idle play .playing shown).1
  | resumes again closed =>
    obtain rfl := hagain again
    exact position_openRange again.playing _ now
  | goesOn again opened steady =>
    obtain rfl := hagain again
    exact position_holding again.playing _ _ now
  | @seeks q old play' r moved again opened seek noRepeat =>
    obtain rfl := hagain again
    exact position_openRange ((status_shut q).trans again.playing) _ now
  | @repeats q old play' r moved again opened seek isRepeat =>
    obtain rfl := hagain again
    obtain ⟨x, reached, position, -, -⟩ := Range.exists_position_of_seek? seek
    rw [htracking old _ ((status_shut q).trans again.playing), position]
    rfl
  | @replaces q old play' status noted doing tracked shown' other =>
    obtain ⟨rfl, rfl⟩ := Prod.mk.inj (Option.some.inj (shown'.symm.trans shown))
    rw [htracking _ none ((status_shut _).trans ((status_heldOpen q now).trans doing))]
    rfl
  | begins noted doing untracked shown' =>
    obtain ⟨rfl, rfl⟩ := Prod.mk.inj (Option.some.inj (shown'.symm.trans shown))
    rw [htracking _ none doing]
    rfl
  | stops noted tracked stopped =>
    rw [stopped] at shown
    exact nomatch shown

/-! ## Every call -/

/-- **What a session earns with a call**, how it can end, and where the track
is then. -/
structure Earns (call : Call) (now : Instant) (p : Player) (u : Update)
    (p' : Player) : Prop where
  /-- Where the call makes the open stretch longer, the session gains the time
  since its end, or none if the clock has gone back. -/
  prolonged : p.current.isSome = true → ∀ r, p.opened = some r → call.Prolongs now p r →
    heardAfter u p' = p.listenedMicros + max 0 (now.micros - r.stop.time.micros)
  /-- In every other case it gains nothing. -/
  unprolonged : p.current.isSome = true → (∀ r, p.opened = some r → ¬ call.Prolongs now p r) →
    heardAfter u p' = p.listenedMicros
  /-- By the track tracked it is ended only where that plays and begins
  again. -/
  ends : ∀ track play status, p.current = some track → call.shown = some (play, status) →
    Match.content? track play = .ok true → u.finished ≠ none ∨ ¬ p.Keeps p' →
    status = .playing ∧ ∃ r x reached, BeginsAgain p track play r x reached
  /-- A player that plays is where it was shown to be. -/
  position : ∀ play, call.shown = some (play, .playing) → p'.position = play.position

/-- **Every move earns what it should.** -/
theorem Move.earns (hmove : Move call now p u p') (hs : p.Sound name)
    (hnow : now.offset.isSome = true) : Earns call now p u p' where
  prolonged htracked r opened prolongs := by
    obtain ⟨track, tracked⟩ := Option.isSome_iff_exists.mp htracked
    obtain ⟨q, hcredits⟩ := hmove.credits hs hnow htracked
    exact (hcredits.heardAfter_eq hmove hs hnow tracked).trans
      (hcredits.prolonged r opened prolongs)
  unprolonged htracked notProlongs := by
    obtain ⟨track, tracked⟩ := Option.isSome_iff_exists.mp htracked
    obtain ⟨q, hcredits⟩ := hmove.credits hs hnow htracked
    exact (hcredits.heardAfter_eq hmove hs hnow tracked).trans (hcredits.unprolonged notProlongs)
  ends _ _ _ tracked shown same ended := hmove.beginsAgain hs tracked shown same ended
  position _ shown := hmove.position shown

/-- **The credit rule.** Take a player in any state that calls leave a new one
in, on any clock. No call on it fails, and each earns the session before it
exactly the time since the end of the open stretch, where it makes that
longer, and otherwise nothing. -/
theorem Run.credit_rule (run : Run (fresh platform limits created) past p) (typed : call.Typed)
    (clocked : now.offset.isSome = true) :
    ∃ u p', call.perform now p = .ok u p' ∧ Earns call now p u p' := by
  obtain ⟨name, hs⟩ := run.sound
  obtain ⟨u, p', performed, -, hmove⟩ := hs.move_perform clocked typed
  exact ⟨u, p', performed, hmove.earns hs clocked⟩

/-- The tune that is near its end goes on for five seconds, and they are
counted. -/
theorem credit_rule_longNearEnd :
    ∃ past u p', Run (fresh ⟨"d", "u"⟩ {} ⟨0, some 0⟩) past longNearEnd
    ∧ (showsLong 195 .playing).perform ⟨195000000, some 0⟩ longNearEnd = .ok u p'
    ∧ heardAfter u p' = 195000000 ∧ p'.position = some 195 := by
  obtain ⟨past, run⟩ := exists_run_longNearEnd
  obtain ⟨u, p', performed, earns⟩ := run.credit_rule (typed_showsLong 195 .playing)
    (show (⟨195000000, some 0⟩ : Instant).offset.isSome = true from rfl)
  have prolongs :
      (showsLong 195 .playing).Prolongs ⟨195000000, some 0⟩ longNearEnd longStretch :=
    ⟨longTune 0, longTune 195, .playing, rfl, rfl, Or.inr ⟨rfl, rfl, rfl⟩⟩
  refine ⟨past, u, p', run, performed, ?_, earns.position (longTune 195) rfl⟩
  exact (earns.prolonged rfl longStretch rfl prolongs).trans (by decide +kernel)

end Player

end Listening
