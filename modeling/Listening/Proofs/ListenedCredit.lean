import Listening.Proofs.CountedOnce

/-!
# What a call adds to the time listened

Most calls add nothing to the time for which a play was heard. The ones that
do make its open stretch longer, up to the time of the call: another track is
shown than the one tracked, which ends then, or the same track is, it plays,
and its position is where it has come to by itself. `Call.Prolongs` is that
condition. It does not ask for how long there was no news.

`Move.credits` says what the play tracked before the call has been heard for
once the call is over, and that this is the play handed out: as the one that
ended if it has, and otherwise as the one that goes on.
-/

namespace Listening.Player

variable {platform : String} {p q p' : Player} {call : Call} {now : Instant} {u : Update}
  {r : Range} {y : Play}

/-- **Whether a call makes the open stretch longer**: a track is shown that is
not the one tracked, or it is, plays, and the listener has not moved within
it. -/
def Call.Prolongs (call : Call) (now : Instant) (p : Player) (r : Range) : Prop :=
  ∃ old play status, p.current = some old ∧ call.shown = some (play, status)
    ∧ (Match.content? old play = .ok false
      ∨ Match.content? old play = .ok true ∧ status = .playing
        ∧ r.seek? play.position now = .ok none)

/-- A call that shows no track does not. -/
theorem Call.not_prolongs_of_quiet (quiet : call.shown = none) : ¬ call.Prolongs now p r :=
  fun ⟨_, _, _, _, shown, _⟩ => nomatch quiet.symm.trans shown

/-- The track tracked makes it longer exactly if it plays and is not moved
within. -/
theorem Call.prolongs_iff_of_same {old play : Play} {status : Status}
    (tracked : p.current = some old)
    (shown : call.shown = some (play, status)) (same : Match.content? old play = .ok true) :
    call.Prolongs now p r ↔ status = .playing ∧ r.seek? play.position now = .ok none := by
  refine ⟨fun ⟨old', play', status', tracked', shown', h⟩ => ?_,
    fun h => ⟨old, play, status, tracked, shown, Or.inr ⟨same, h⟩⟩⟩
  obtain rfl := Option.some.inj (tracked.symm.trans tracked')
  obtain ⟨rfl, rfl⟩ := Prod.mk.inj (Option.some.inj (shown.symm.trans shown'))
  rcases h with other | ⟨-, h⟩
  · exact nomatch same.symm.trans other
  · exact h

/-- What is handed out of the play tracked was heard for as long as that. -/
theorem listenedMicros_of_played (h : p.played = some y) :
    y.listenedMicros = p.listenedMicros := by
  obtain ⟨track, -, rfl⟩ := Option.map_eq_some_iff.mp h
  rfl

/-- **What becomes of the session before a call**, as the call leaves it: it
is handed out, and the time listened is credited with the time since the end
of the open stretch, or with none. -/
structure Credits (call : Call) (now : Instant) (p : Player) (u : Update)
    (q : Player) : Prop where
  /-- The play is the same. -/
  keeps : p.Keeps q
  /-- It has ended, or it goes on. -/
  handedOut : u.finished = q.played
    ∨ u.finished = none ∧ (u.soFar = none ∧ call.shown = none ∨ u.soFar = q.played)
  /-- A stretch that is made longer counts until now. -/
  prolonged : ∀ r, p.opened = some r → call.Prolongs now p r →
    q.listenedMicros = p.listenedMicros + max 0 (now.micros - r.stop.time.micros)
  /-- Otherwise nothing is added. -/
  unprolonged : (∀ r, p.opened = some r → ¬ call.Prolongs now p r) →
    q.listenedMicros = p.listenedMicros

/-- A session to which nothing is added, as no stretch is made longer. -/
theorem Credits.nothing (keeps : p.Keeps q)
    (handedOut : u.finished = q.played
      ∨ u.finished = none ∧ (u.soFar = none ∧ call.shown = none ∨ u.soFar = q.played))
    (unprolonged : ∀ r, p.opened = some r → ¬ call.Prolongs now p r)
    (same : q.listenedMicros = p.listenedMicros) : Credits call now p u q :=
  ⟨keeps, handedOut, fun r hr h => absurd h (unprolonged r hr), fun _ => same⟩

/-- A session whose open stretch is made longer. -/
theorem Credits.untilNow (keeps : p.Keeps q)
    (handedOut : u.finished = q.played
      ∨ u.finished = none ∧ (u.soFar = none ∧ call.shown = none ∨ u.soFar = q.played))
    (opened : p.opened = some r) (prolongs : call.Prolongs now p r)
    (longer : q.listenedMicros = p.listenedMicros + max 0 (now.micros - r.stop.time.micros)) :
    Credits call now p u q where
  keeps := keeps
  handedOut := handedOut
  prolonged := fun r' hr' _ => by
    obtain rfl := Option.some.inj (opened.symm.trans hr')
    exact longer
  unprolonged := fun h => absurd prolongs (h r opened)

/-- **Every move credits the play tracked.** -/
theorem Move.credits (hmove : Move call now p u p') (hs : p.Sound platform)
    (hnow : now.offset.isSome = true) (htracked : p.current.isSome = true) :
    ∃ q, Credits call now p u q := by
  -- the track tracked is shown again, and the listener has moved within it
  have hmoved : ∀ {q old play r moved}, Again call p q old play → p.opened = some r →
      r.seek? play.position now = .ok (some moved) →
      ∀ r', p.opened = some r' → ¬ call.Prolongs now p r' := by
    intro q old play r moved again opened seek r' hr' prolongs
    obtain rfl := Option.some.inj (opened.symm.trans hr')
    have steady :=
      ((Call.prolongs_iff_of_same again.tracked again.shown again.same).mp prolongs).2
    exact nomatch Except.ok.inj (seek.symm.trans steady)
  cases hmove with
  | rests noted quiet soFar finished =>
    exact ⟨p', .nothing noted.keeps (Or.inr ⟨finished, soFar.imp_left (⟨·, quiet⟩)⟩)
      (fun _ _ => Call.not_prolongs_of_quiet quiet) noted.listenedMicros⟩
  | @pauses q _ noted idle soFar finished =>
    have hsq := noted.sound hs
    refine ⟨q.shut, .nothing (noted.keeps.trans hsq.keeps_shut) (Or.inr ⟨finished, soFar⟩)
      (fun r _ prolongs => ?_) (hsq.listenedMicros_shut.trans noted.listenedMicros)⟩
    obtain ⟨_, play, status, -, shown, -⟩ := id prolongs
    obtain ⟨hidle, old, tracked, same⟩ := idle play status shown
    exact hidle ((Call.prolongs_iff_of_same tracked shown same).mp prolongs).1
  | @resumes q old play again closed =>
    refine ⟨q.openRange play.position now, .nothing (again.noted.keeps.trans ⟨rfl, rfl, rfl⟩)
      (Or.inr ⟨rfl, Or.inr rfl⟩) (fun r hr => nomatch closed.symm.trans hr) ?_⟩
    rw [listenedMicros_openRange (again.noted.opened.trans closed), again.noted.listenedMicros]
  | @goesOn q old play r again opened steady =>
    refine ⟨q.holding r play.position now, .untilNow (again.noted.keeps.trans ⟨rfl, rfl, rfl⟩)
      (Or.inr ⟨rfl, Or.inr rfl⟩) opened ?_ ?_⟩
    · exact (Call.prolongs_iff_of_same again.tracked again.shown again.same).mpr ⟨rfl, steady⟩
    · rw [listenedMicros_holding (again.noted.opened.trans opened), again.noted.listenedMicros]
  | @seeks q old play r moved again opened seek noRepeat =>
    have hsq := again.noted.sound hs
    refine ⟨q.shut.openRange play.position now,
      .nothing ((again.noted.keeps.trans hsq.keeps_shut).trans ⟨rfl, rfl, rfl⟩)
        (Or.inr ⟨rfl, Or.inr rfl⟩) (hmoved again opened seek) ?_⟩
    rw [listenedMicros_openRange (opened_shut q), hsq.listenedMicros_shut,
      again.noted.listenedMicros]
  | @repeats q old play r moved again opened seek isRepeat =>
    have hsq := again.noted.sound hs
    exact ⟨q.shut, .nothing (again.noted.keeps.trans hsq.keeps_shut) (Or.inl rfl)
      (hmoved again opened seek) (hsq.listenedMicros_shut.trans again.noted.listenedMicros)⟩
  | @replaces q old play status noted doing tracked shown other =>
    have hsq := noted.sound hs
    have hkeeps := (noted.keeps.trans (Sound.keeps_heldOpen q now)).trans
      (hsq.heldOpen hnow).keeps_shut
    have hlistened := (hsq.heldOpen hnow).listenedMicros_shut
    cases hopened : p.opened with
    | none =>
      refine ⟨_, .nothing hkeeps (Or.inl rfl) (fun r hr => nomatch hopened.symm.trans hr) ?_⟩
      rw [hlistened, ← noted.listenedMicros]
      unfold Player.heldOpen
      rw [noted.opened, hopened]
    | some r =>
      refine ⟨_, .untilNow hkeeps (Or.inl rfl) hopened
        ⟨old, play, status, tracked, shown, Or.inl other⟩ ?_⟩
      have hopened' : q.opened = some r := noted.opened.trans hopened
      rw [hlistened, ← noted.listenedMicros, ← listenedMicros_holding hopened' r.position now]
      unfold Player.heldOpen
      rw [hopened']
  | begins noted doing untracked shown =>
    rw [untracked] at htracked
    exact absurd htracked Bool.false_ne_true
  | @stops q old noted tracked stopped =>
    have hsq := noted.sound hs
    have quiet : call.shown = none := by rw [stopped]; rfl
    exact ⟨q.shut, .nothing (noted.keeps.trans hsq.keeps_shut) (Or.inl rfl)
      (fun _ _ => Call.not_prolongs_of_quiet quiet)
      (hsq.listenedMicros_shut.trans noted.listenedMicros)⟩

/-- **Where a track is shown, the play tracked before is handed out**, with
the time listened as the call leaves it. -/
theorem Credits.exists_play (h : Credits call now p u q) {track : Play}
    (htracked : p.current = some track) (shown : call.shown ≠ none) :
    ∃ y, (u.finished <|> u.soFar) = some y ∧ y.listenedMicros = q.listenedMicros
      ∧ y = { track with
          playedAt := p.firstSeen
          listenedFor := .seconds q.listened
          ranges := some q.ranges } := by
  have hplayed : q.played = some { track with
      playedAt := p.firstSeen
      listenedFor := .seconds q.listened
      ranges := some q.ranges } := by
    unfold Player.played
    rw [h.keeps.current, htracked, h.keeps.firstSeen]
    rfl
  refine ⟨_, ?_, listenedMicros_of_played hplayed, rfl⟩
  rcases h.handedOut with finished | ⟨finished, soFar⟩
  · rw [finished, hplayed]
    rfl
  · rw [finished, (soFar.resolve_left fun h => shown h.2), hplayed]
    rfl

end Listening.Player
