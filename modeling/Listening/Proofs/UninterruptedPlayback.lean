import Listening.Proofs.CountedOnce
import Mathlib.Algebra.Ring.Int.Defs

/-!
# Playback without a break is counted in full

A player may be asked again and again what it plays, and show one track after
the other without a break and without a seek. Then no time gets lost, however
often it is asked and whether or not it tells positions: each play is heard
from the start of its session until the call that ends it, and the times
listened add up to the time between the first call and the last one, to the
microsecond.

`Player.HeardUntil` is the invariant: there is one stretch, it is open, and
it runs from the start of the session until the last call. A track that takes
the place of another one is what it has to be looked at for: the stretch of
the one is extended until now and the other one is opened now, so the time in
between belongs to the first.
-/

namespace Listening

/-- **A time that is filled by stretches**: by one that takes all of it, or
by none if there is no time. -/
def Range.Fills (since upTo : Instant) (rs : List Range) : Prop :=
  rs = [] ∧ since.micros = upTo.micros
    ∨ ∃ r, rs = [r] ∧ r.start.time = since ∧ r.stop.time = upTo

/-- Stretches that fill a time are as long as the time. -/
theorem Range.Fills.total_eq {since upTo : Instant} {rs : List Range}
    (h : Range.Fills since upTo rs) :
    Range.total rs = upTo.minus since := by
  rcases h with ⟨rfl, he⟩ | ⟨r, rfl, rfl, rfl⟩
  · unfold Instant.minus
    rw [Range.total_nil, he, Int.sub_self]
  · exact Range.total_singleton r

namespace Player

/-- **A player that has played without a break** since it tracks its play. -/
structure HeardUntil (p : Player) (now : Instant) : Prop where
  /-- A play is tracked. -/
  tracked : p.current.isSome = true
  /-- No stretch has ended. -/
  closed : p.closed = []
  /-- One goes on since the play is tracked. -/
  opened : ∃ r, p.opened = some r ∧ p.firstSeen = some r.start.time ∧ r.stop.time = now

section Steps

variable {platform : String} {p q p' : Player} {now before since : Instant} {r : Range}

/-- A play that was heard until now fills the time since it is tracked. -/
theorem HeardUntil.fills (h : p.HeardUntil now) (hsince : p.firstSeen = some since) :
    Range.Fills since now p.ranges := by
  obtain ⟨r, hopened, hseen, hstop⟩ := h.opened
  refine Or.inr ⟨r, ?_, Option.some.inj (hseen.symm.trans hsince), hstop⟩
  unfold Player.ranges
  rw [h.closed, hopened]
  rfl

/-- Noting down what is reported is no break. -/
theorem Notes.heardUntil (hnoted : p.Notes q) (h : p.HeardUntil now) : q.HeardUntil now := by
  obtain ⟨r, hopened, hseen, hstop⟩ := h.opened
  exact ⟨by rw [hnoted.current]; exact h.tracked, hnoted.closed.trans h.closed,
    r, hnoted.opened.trans hopened, hnoted.firstSeen.trans hseen, hstop⟩

/-- If the clock has not gone back, a stretch goes on until now. -/
theorem heldTime_of_le (h : r.stop.time.micros ≤ now.micros) : heldTime r now = now :=
  if_neg (Int.not_lt.mpr h)

/-- **The stretch goes on.** -/
theorem HeardUntil.holding (h : p.HeardUntil before) (hle : before.micros ≤ now.micros)
    (hopened : p.opened = some r) (position : Option Float) :
    (p.holding r position now).HeardUntil now := by
  obtain ⟨r', hopened', hseen, hstop⟩ := h.opened
  obtain rfl := Option.some.inj (hopened.symm.trans hopened')
  rw [← hstop] at hle
  exact ⟨h.tracked, h.closed, r.held position now, rfl, hseen, heldTime_of_le hle⟩

theorem HeardUntil.heldOpen (h : p.HeardUntil before) (hle : before.micros ≤ now.micros) :
    (p.heldOpen now).HeardUntil now := by
  obtain ⟨r, hopened, -, -⟩ := h.opened
  have hheld : p.heldOpen now = p.holding r r.position now := by
    unfold Player.heldOpen
    rw [hopened]
  rw [hheld]
  exact h.holding hle hopened r.position

/-- **The stretch is closed**, and dropped if it covers no time. -/
theorem HeardUntil.fills_shut (h : p.HeardUntil now) (hs : p.Sound platform)
    (hsince : p.firstSeen = some since) : Range.Fills since now p.shut.ranges := by
  obtain ⟨r, hopened, hseen, hstop⟩ := h.opened
  have hstart : r.start.time = since := Option.some.inj (hseen.symm.trans hsince)
  rcases hs.ranges_shut with ⟨hranges, hshort⟩ | ⟨r', position, hopened', -, hranges⟩
  · have hforward := (hs.opened r hopened).2
    have hle := hshort r hopened
    unfold Range.wallclock Instant.minus at hle
    refine Or.inl ⟨hranges.trans h.closed, ?_⟩
    rw [← hstart, ← hstop]
    omega
  · obtain rfl := Option.some.inj (hopened.symm.trans hopened')
    refine Or.inr ⟨r.finalize position, by rw [hranges, h.closed]; rfl, ?_, ?_⟩
    · cases position <;> exact hstart
    · cases position <;> exact hstop

/-- **A player that plays and begins a play** is heard from now on. -/
theorem heardUntil_tracking (hplaying : p.status = .playing) (play : Play)
    (position : Option Float) (now : Instant) :
    (p.tracking play position now).HeardUntil now := by
  unfold tracking
  rw [if_pos hplaying]
  exact ⟨rfl, rfl, _, rfl, rfl, rfl⟩

/-- **What a call does while the player plays without a break**: a play is
begun, or goes on, or another one takes its place. -/
inductive Passes (now : Instant) (p : Player) (u : Update) (p' : Player) : Prop where
  /-- The first play is begun. -/
  | begins {track : Play} (untracked : p.current = none) (begun : p.Begins now track p')
      (heard : p'.HeardUntil now) (finished : u.finished = none)
  /-- The play goes on. -/
  | goesOn (tracked : p.current.isSome = true) (keeps : p.Keeps p') (heard : p'.HeardUntil now)
      (finished : u.finished = none)
  /-- Another one takes its place, and it was heard until now. -/
  | follows {q : Player} {track : Play} (tracked : p.current.isSome = true) (keeps : p.Keeps q)
      (fills : ∀ since, p.firstSeen = some since → Range.Fills since now q.ranges)
      (begun : p.Begins now track p') (heard : p'.HeardUntil now)
      (finished : u.finished = q.played)

end Steps

/-- **A track that plays is shown**, and if it is the one tracked, the
listener has not moved within it. -/
def Taken.IsSteady (t : Taken) : Prop :=
  ∃ play, t.call = .observe play .playing
    ∧ ∀ old r, t.before.current = some old → Match.content? old play = .ok true →
      t.before.opened = some r → r.seek? play.position t.now = .ok none

/-- **Every steady move passes the time** of a player that plays without a
break. -/
theorem Move.passes {platform : String} {p p' : Player} {call : Call} {now before : Instant}
    {u : Update} (hmove : Move call now p u p') (hs : p.Sound platform)
    (hnow : now.offset.isSome = true) (hsteady : Taken.IsSteady ⟨p, call, now, u, p'⟩)
    (hheard : p.current.isSome = true → p.HeardUntil before) (hle : before.micros ≤ now.micros) :
    Passes now p u p' := by
  obtain ⟨shown, hcall, hnoSeek⟩ := hsteady
  obtain rfl : call = .observe shown .playing := hcall
  have hseek : ∀ {old play : Play} {q : Player} {r : Range} {moved : Float},
      Again (.observe shown .playing) p q old play → p.opened = some r →
      r.seek? play.position now = .ok (some moved) → False := by
    intro old play q r moved again opened seek
    obtain ⟨rfl, -⟩ := Prod.mk.inj (Option.some.inj again.shown)
    exact nomatch (hnoSeek old r again.tracked again.same opened).symm.trans seek
  cases hmove with
  | rests noted quiet soFar finished => exact nomatch quiet
  | pauses noted idle soFar finished => exact absurd rfl (idle shown .playing rfl).1
  | resumes again closed =>
    obtain ⟨r, hopened, -, -⟩ := (hheard (by rw [again.tracked]; rfl)).opened
    exact nomatch closed.symm.trans hopened
  | @goesOn q old play r again opened steady =>
    have htracked : p.current.isSome = true := by rw [again.tracked]; rfl
    exact .goesOn htracked (again.noted.keeps.trans ⟨rfl, rfl, rfl⟩)
      ((again.noted.heardUntil (hheard htracked)).holding hle
        (again.noted.opened.trans opened) _)
      rfl
  | seeks again opened seek noRepeat => exact (hseek again opened seek).elim
  | repeats again opened seek isRepeat => exact (hseek again opened seek).elim
  | @replaces q old play status noted doing tracked hshown other =>
    have htracked : p.current.isSome = true := by rw [tracked]; rfl
    obtain ⟨-, rfl⟩ := Prod.mk.inj (Option.some.inj hshown)
    have hsq := (noted.sound hs).heldOpen hnow
    have hheld := (noted.heardUntil (hheard htracked)).heldOpen hle
    have hkeeps := noted.keeps.trans (Sound.keeps_heldOpen q now)
    refine .follows htracked (hkeeps.trans hsq.keeps_shut)
      (fun since hsince => hheld.fills_shut hsq (hkeeps.firstSeen.trans hsince))
      ((hkeeps.trans hsq.keeps_shut).begins (begins_tracking play none now _))
      (heardUntil_tracking ?_ play none now) rfl
    rw [status_shut, status_heldOpen, doing]
  | @begins q play status noted doing untracked hshown =>
    obtain ⟨-, rfl⟩ := Prod.mk.inj (Option.some.inj hshown)
    exact .begins untracked (noted.keeps.begins (begins_tracking play none now q))
      (heardUntil_tracking doing play none now) rfl
  | stops noted tracked stopped => exact nomatch stopped

/-! ## Along a run -/

/-- **All time was counted** from the first call to the last. -/
structure CountsAll (past : List Taken) (p : Player) : Prop where
  /-- A play that was finished was heard from the start of its session until
  the call that finished it. -/
  finished : ∀ t ∈ past, ∀ y, t.update.finished = some y →
    ∃ o ∈ past, o.IsOpening ∧ o.after.begun = t.before.begun
      ∧ ∃ rs, y.playedAt = some o.now ∧ y.ranges = some rs
        ∧ y.listenedFor = .seconds (Range.totalSeconds rs) ∧ Range.Fills o.now t.now rs
  /-- The play tracked was heard until the last call. -/
  tracked : ∀ last, past.getLast? = some last →
    ∃ o ∈ past, o.IsOpening ∧ o.after.begun = p.begun ∧ p.firstSeen = some o.now
      ∧ Range.Fills o.now last.now p.ranges
  /-- The times listened add up to all of the time. -/
  total : ∀ first last, past.head? = some first → past.getLast? = some last →
    ((finishedIn past).map Play.listenedMicros).sum + p.listenedMicros = last.now.minus first.now

section Runs

variable {platform : String} {past : List Taken} {p q p' : Player} {call : Call}
  {now since : Instant} {u : Update} {first last t : Taken}

/-- A play that was heard since some time was heard for all the time since. -/
theorem HeardUntil.listenedMicros_eq (h : p.HeardUntil now) (hsince : p.firstSeen = some since) :
    p.listenedMicros = now.minus since :=
  (h.fills hsince).total_eq

/-- A play that is begun was not heard yet. -/
theorem Begins.listenedMicros_eq {track : Play} (h : p.Begins now track p')
    (hheard : p'.HeardUntil now) :
    p'.listenedMicros = 0 :=
  (hheard.listenedMicros_eq h.firstSeen).trans (Int.sub_self _)

/-- **What is known of a player that plays without a break**, along a run. -/
structure Unbroken (past : List Taken) (p : Player) : Prop where
  /-- No play is tracked before the first call. -/
  untracked : past = [] → p.current = none
  /-- The play tracked was heard until the last call. -/
  heard : ∀ last, past.getLast? = some last → p.HeardUntil last.now
  /-- All time was counted. -/
  counts : CountsAll past p

/-- Where a play is tracked, there was a call. -/
theorem Unbroken.exists_calls (h : Unbroken past p) (htracked : p.current.isSome = true) :
    ∃ first last, past.head? = some first ∧ past.getLast? = some last := by
  cases past with
  | nil =>
    rw [h.untracked rfl] at htracked
    exact absurd htracked Bool.false_ne_true
  | cons t rest => exact ⟨t, _, rfl, List.getLast?_eq_some_getLast (List.cons_ne_nil t rest)⟩

/-- Where no play is tracked, there was no call. -/
theorem Unbroken.eq_nil (h : Unbroken past p) (huntracked : p.current = none) : past = [] := by
  cases past with
  | nil => rfl
  | cons t rest =>
    have htracked :=
      (h.heard _ (List.getLast?_eq_some_getLast (List.cons_ne_nil t rest))).tracked
    rw [huntracked] at htracked
    exact absurd htracked Bool.false_ne_true

/-- **The session of the play that is handed out**: it began with one of the
calls, and was heard until now. -/
theorem Tallies.fills (h : Tallies past p) (htracked : p.current.isSome = true)
    (keeps : p.Keeps q)
    (hfills : ∀ since, p.firstSeen = some since → Range.Fills since now q.ranges) :
    ∃ o ∈ past, o.IsOpening ∧ o.after.begun = p.begun ∧ p.firstSeen = some o.now
      ∧ ∃ y rs, q.played = some y ∧ y.playedAt = some o.now ∧ y.ranges = some rs
        ∧ y.listenedFor = .seconds (Range.totalSeconds rs) ∧ Range.Fills o.now now rs := by
  obtain ⟨track, htrack⟩ := Option.isSome_iff_exists.mp htracked
  obtain ⟨o, ho, hopening, hbegun, hseen, -⟩ := h.opening track htrack
  exact ⟨o, ho, hopening, hbegun, hseen, _, q.ranges,
    played_eq (keeps.current.trans htrack) (keeps.firstSeen.trans hseen), rfl, rfl, rfl,
    hfills o.now hseen⟩

/-- **The session that a call leaves** began with one of the calls, and was
heard until now. -/
theorem Tallies.tracked_fills (h : Tallies past p) (hheard : p.HeardUntil now) :
    ∃ o ∈ past, o.IsOpening ∧ o.after.begun = p.begun ∧ p.firstSeen = some o.now
      ∧ Range.Fills o.now now p.ranges := by
  obtain ⟨track, htrack⟩ := Option.isSome_iff_exists.mp hheard.tracked
  obtain ⟨o, ho, hopening, hbegun, hseen, -⟩ := h.opening track htrack
  exact ⟨o, ho, hopening, hbegun, hseen, hheard.fills hseen⟩

/-- What was handed out before has been said. -/
theorem CountsAll.finished_concat (h : CountsAll past p)
    (hlast : ∀ y, t.update.finished = some y →
      ∃ o ∈ past, o.IsOpening ∧ o.after.begun = t.before.begun
        ∧ ∃ rs, y.playedAt = some o.now ∧ y.ranges = some rs
          ∧ y.listenedFor = .seconds (Range.totalSeconds rs) ∧ Range.Fills o.now t.now rs) :
    ∀ t' ∈ past ++ [t], ∀ y, t'.update.finished = some y →
      ∃ o ∈ past ++ [t], o.IsOpening ∧ o.after.begun = t'.before.begun
        ∧ ∃ rs, y.playedAt = some o.now ∧ y.ranges = some rs
          ∧ y.listenedFor = .seconds (Range.totalSeconds rs) ∧ Range.Fills o.now t'.now rs := by
  intro t' ht' y hy
  rcases List.mem_append.mp ht' with ht' | ht'
  · obtain ⟨o, ho, hsession⟩ := h.finished t' ht' y hy
    exact ⟨o, List.mem_append_left _ ho, hsession⟩
  · obtain rfl := List.mem_singleton.mp ht'
    obtain ⟨o, ho, hsession⟩ := hlast y hy
    exact ⟨o, List.mem_append_left _ ho, hsession⟩

/-- **The plays finished so far took all of the time** until the session that
goes on began. -/
theorem Unbroken.sum_finished (h : Unbroken past p) (htallies : Tallies past p)
    (htracked : p.current.isSome = true) :
    ∃ first since, past.head? = some first ∧ p.firstSeen = some since
      ∧ ((finishedIn past).map Play.listenedMicros).sum = since.minus first.now := by
  obtain ⟨first, last, hfirst, hlast⟩ := h.exists_calls htracked
  obtain ⟨o, -, -, -, hseen, -⟩ := htallies.tracked_fills (h.heard last hlast)
  have htotal := h.counts.total first last hfirst hlast
  rw [(h.heard last hlast).listenedMicros_eq hseen] at htotal
  refine ⟨first, o.now, hfirst, hseen, ?_⟩
  unfold Instant.minus at htotal ⊢
  omega

/-- **The times listened still add up** after a call that passes the time. -/
theorem Unbroken.total_of_passes (h : Unbroken past p) (htallies : Tallies past p)
    (hpasses : Passes now p u p')
    (hfirst : (past ++ [(⟨p, call, now, u, p'⟩ : Taken)]).head? = some first) :
    ((finishedIn (past ++ [⟨p, call, now, u, p'⟩])).map Play.listenedMicros).sum
      + p'.listenedMicros = now.minus first.now := by
  rw [finishedIn_concat]
  cases hpasses with
  | begins untracked begun heard finished =>
    obtain rfl := h.eq_nil untracked
    obtain rfl := Option.some.inj hfirst
    rw [finished, begun.listenedMicros_eq heard]
    exact (Int.sub_self _).symm
  | goesOn tracked keeps heard finished =>
    obtain ⟨first', since, hfirst', hseen, hsum⟩ := h.sum_finished htallies tracked
    rw [List.head?_append, hfirst'] at hfirst
    obtain rfl := Option.some.inj hfirst
    rw [finished, heard.listenedMicros_eq (keeps.firstSeen.trans hseen), Option.toList_none,
      List.append_nil, hsum]
    unfold Instant.minus
    omega
  | @follows q track tracked keeps fills begun heard finished =>
    obtain ⟨first', since, hfirst', hseen, hsum⟩ := h.sum_finished htallies tracked
    obtain ⟨o, -, -, -, hseen', y, rs, hplayed, -, hrs, -, hfills⟩ :=
      htallies.fills tracked keeps fills
    obtain rfl := Option.some.inj (hseen.symm.trans hseen')
    have hy : y.listenedMicros = now.minus o.now := by
      unfold Play.listenedMicros Play.stretches
      rw [hrs]
      exact hfills.total_eq
    rw [List.head?_append, hfirst'] at hfirst
    obtain rfl := Option.some.inj hfirst
    rw [finished, hplayed, begun.listenedMicros_eq heard, Option.toList_some, List.map_append,
      List.sum_append, List.map_singleton, List.sum_singleton, hy, hsum]
    unfold Instant.minus
    omega

/-- **A call that passes the time** leaves all of it counted. -/
theorem Unbroken.passes (h : Unbroken past p) (htallies : Tallies past p)
    (htallies' : Tallies (past ++ [⟨p, call, now, u, p'⟩]) p') (hpasses : Passes now p u p') :
    Unbroken (past ++ [⟨p, call, now, u, p'⟩]) p' := by
  have hheard : p'.HeardUntil now := by cases hpasses <;> assumption
  have hlast : ∀ last, (past ++ [(⟨p, call, now, u, p'⟩ : Taken)]).getLast? = some last →
      last = ⟨p, call, now, u, p'⟩ := fun last hlast =>
    (Option.some.inj (List.getLast?_concat.symm.trans hlast)).symm
  refine ⟨fun hnil => absurd hnil (List.append_ne_nil_of_right_ne_nil _ (List.cons_ne_nil _ _)),
    fun last h' => ?_, h.counts.finished_concat (fun y hy => ?_), fun last h' => ?_,
    fun first last hfirst h' => ?_⟩
  · rw [hlast last h']
    exact hheard
  · -- only where another play takes its place, one is handed out
    cases hpasses with
    | begins untracked begun heard finished => exact nomatch finished.symm.trans hy
    | goesOn tracked keeps heard finished => exact nomatch finished.symm.trans hy
    | follows tracked keeps fills begun heard finished =>
      obtain ⟨o, ho, hopening, hbegun, -, y', rs, hplayed, hat, hrs, hfor, hfills⟩ :=
        htallies.fills tracked keeps fills
      obtain rfl := Option.some.inj ((finished.trans hplayed).symm.trans hy)
      exact ⟨o, ho, hopening, hbegun, rs, hat, hrs, hfor, hfills⟩
  · obtain rfl := hlast last h'
    exact htallies'.tracked_fills hheard
  · rw [hlast last h']
    exact h.total_of_passes htallies hpasses hfirst

/-- **Along a run without a break all time is counted.** -/
theorem Run.unbroken {platform : Platform} {limits : Limits} {created : Instant}
    (run : Run (fresh platform limits created) past p) (clock : NeverBack (past.map Taken.now))
    (steady : ∀ t ∈ past, t.IsSteady) : Unbroken past p := by
  induction run with
  | none =>
    exact ⟨fun _ => rfl, (fun _ h => nomatch h), (fun _ h => absurd h List.not_mem_nil),
      (fun _ h => nomatch h), fun _ _ h => nomatch h⟩
  | @call past p run call typed now clocked u p' performed ih =>
    have htallies := run.tallies (tallies_fresh _ limits created)
    have htallies' := (run.call typed clocked performed).tallies (tallies_fresh _ limits created)
    rw [List.map_append] at clock
    obtain ⟨hpast, -, hlater⟩ := List.pairwise_append.mp clock
    have hunbroken := ih hpast (fun t ht => steady t (List.mem_append_left _ ht))
    obtain ⟨platform, hs⟩ := htallies.sound
    obtain ⟨-, hmove⟩ := hs.move_of_performed clocked typed performed
    have hsteady := steady _ (List.mem_append_right _ List.mem_cons_self)
    refine hunbroken.passes htallies htallies' ?_
    cases hlast : past.getLast? with
    | none =>
      have huntracked := hunbroken.untracked (List.getLast?_eq_none_iff.mp hlast)
      have hheard : p.current.isSome = true → p.HeardUntil now := fun htracked => by
        rw [huntracked] at htracked
        exact absurd htracked Bool.false_ne_true
      exact hmove.passes hs clocked hsteady hheard (Int.le_refl _)
    | some last =>
      refine hmove.passes hs clocked hsteady (fun _ => hunbroken.heard last hlast) ?_
      exact hlater last.now (List.mem_map_of_mem (List.mem_of_getLast? hlast)) now
        List.mem_cons_self

/-- **Uninterrupted playback is counted to the microsecond**, whatever tracks
and positions are shown; and whatever was shown so far, the next call
returns. -/
theorem Run.counts_all {platform : Platform} {limits : Limits} {created : Instant}
    (run : Run (fresh platform limits created) past p) (clock : NeverBack (past.map Taken.now))
    (steady : ∀ t ∈ past, t.IsSteady) :
    CountsAll past p ∧ ∀ (play : Play) (now : Instant), play.Typed → now.offset.isSome = true →
      ∃ u p', p.observe play .playing now = .ok u p' :=
  ⟨(run.unbroken clock steady).counts, fun _ _ typed clocked =>
    run.exists_perform (Call.typed_observe typed .playing) clocked⟩

end Runs

/-! ## Two tunes on end -/

/-- **A call is steady if no seek is found** in the open stretch. -/
theorem isSteady_of_forall {p p' : Player} {play : Play} {now : Instant} {u : Update}
    (h : ∀ r ∈ p.opened, (r.seek? play.position now).toOption.map Option.isNone = some true) :
    Taken.IsSteady ⟨p, .observe play .playing, now, u, p'⟩ := by
  refine ⟨play, rfl, fun _ r _ _ hopened => ?_⟩
  have hseek := h r hopened
  show r.seek? play.position now = .ok none
  cases hmoved : r.seek? play.position now with
  | error e =>
    rw [hmoved] at hseek
    exact nomatch hseek
  | ok moved =>
    rw [hmoved] at hseek
    rw [Option.isNone_iff_eq_none.mp (Option.some.inj hseek)]

/-- A player that has shown a tune, and then that it goes on, but not where. -/
def humming : Player :=
  ((Call.observe { title := .text "Tune" } .playing).perform ⟨40000001, some 0⟩ twiceShown).state

/-- The player once another tune was shown to it. -/
def jingling : Player := ((shows "Jingle" 0).perform ⟨45000000, some 0⟩ humming).state

/-- One tune is shown three times, the last time without a position, and then
another one, which goes on. -/
theorem counts_all_jingling : ∃ past, Run (fresh ⟨"d", "u"⟩ {} ⟨0, some 0⟩) past jingling
    ∧ NeverBack (past.map Taken.now) ∧ (∀ t ∈ past, t.IsSteady) ∧ CountsAll past jingling
    ∧ ∃ u p', jingling.observe (tune "Jingle" 5) .playing ⟨50000000, some 0⟩ = .ok u p' := by
  have clocked : ∀ micros, (⟨micros, some 0⟩ : Instant).offset.isSome = true := fun _ => rfl
  have typed : (Call.observe { title := .text "Tune" } .playing).Typed :=
    Call.typed_observe ⟨rfl, fun _ h => absurd h List.not_mem_nil, rfl, rfl, rfl, rfl⟩ .playing
  have run₀ : Run (fresh ⟨"d", "u"⟩ {} ⟨0, some 0⟩) [] (fresh ⟨"d", "u"⟩ {} ⟨0, some 0⟩) := .none
  obtain ⟨u₁, run₁⟩ := run₀.exists_call (typed_shows "Tune" 0) (clocked 0)
  obtain ⟨u₂, run₂⟩ := run₁.exists_call (typed_shows "Tune" 30) (clocked 30000000)
  obtain ⟨u₃, run₃⟩ := run₂.exists_call typed (clocked 40000001)
  obtain ⟨u₄, run₄⟩ := run₃.exists_call (typed_shows "Jingle" 0) (clocked 45000000)
  have clock : NeverBack [⟨0, some 0⟩, ⟨30000000, some 0⟩, ⟨40000001, some 0⟩,
      ⟨45000000, some 0⟩] := by
    unfold NeverBack
    decide
  have hsteady :
      ∀ t ∈ [(⟨fresh ⟨"d", "u"⟩ {} ⟨0, some 0⟩, shows "Tune" 0, ⟨0, some 0⟩, u₁, onceShown⟩ :
        Taken), ⟨onceShown, shows "Tune" 30, ⟨30000000, some 0⟩, u₂, twiceShown⟩,
        ⟨twiceShown, .observe { title := .text "Tune" } .playing,
          ⟨40000001, some 0⟩, u₃, humming⟩,
        ⟨humming, shows "Jingle" 0, ⟨45000000, some 0⟩, u₄, jingling⟩], t.IsSteady := by
    simp only [List.forall_mem_cons]
    refine ⟨isSteady_of_forall ?_, isSteady_of_forall ?_, isSteady_of_forall ?_,
      isSteady_of_forall ?_, fun _ h => absurd h List.not_mem_nil⟩ <;> decide +kernel
  obtain ⟨hcounts, hnext⟩ := run₄.counts_all clock hsteady
  exact ⟨_, run₄, clock, hsteady, hcounts, hnext (tune "Jingle" 5) ⟨50000000, some 0⟩
    (typed_shows "Jingle" 5 _ _ rfl) rfl⟩

end Player

end Listening
