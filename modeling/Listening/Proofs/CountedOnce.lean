import Listening.Proofs.SessionAccounts
import Mathlib.Algebra.Ring.Int.Defs

/-!
# No time is counted twice

As long as the clock does not go back, what is heard is heard one after the
other. This module says so of all the stretches that a run of calls brings:
those of the plays that were finished, in the order in which they were
finished, and then those of the play tracked. Each starts when the ones
before it have ended, none starts before its own session or ends after now,
and so the time listened, over all plays, is at most the time since the first
session began.

`Range.InOrder` is what carries that from one session to the next: stretches
that follow each other between two times. It splits wherever the row of
stretches does, so that a session ends where the next one may begin, and an
operation on a player has to be looked at only for the session that goes on.
-/

namespace Listening

namespace Range

/-- **Stretches that follow each other**, from one time on and until another,
in microseconds. -/
def InOrder : Int → List Range → Int → Prop
  | since, [], upTo => since ≤ upTo
  | since, r :: rs, upTo =>
    since ≤ r.start.time.micros ∧ r.start.time.micros ≤ r.stop.time.micros
      ∧ InOrder r.stop.time.micros rs upTo

section InOrder

variable {since upTo since' upTo' : Int} {rs rs' : List Range} {r : Range}

/-- Stretches in order take no less than no time. -/
theorem InOrder.le (h : InOrder since rs upTo) : since ≤ upTo := by
  induction rs generalizing since with
  | nil => exact h
  | cons r rs ih =>
    obtain ⟨hstart, hforward, hrest⟩ := h
    exact Int.le_trans hstart (Int.le_trans hforward (ih hrest))

/-- Stretches in order are so also between times further apart. -/
theorem InOrder.widen (h : InOrder since rs upTo) (hsince : since' ≤ since)
    (hupTo : upTo ≤ upTo') :
    InOrder since' rs upTo' := by
  induction rs generalizing since since' with
  | nil => exact Int.le_trans hsince (Int.le_trans h hupTo)
  | cons r rs ih =>
    obtain ⟨hstart, hforward, hrest⟩ := h
    exact ⟨Int.le_trans hsince hstart, hforward, ih hrest (Int.le_refl _)⟩

/-- **A row of stretches can be split anywhere**, at some time in between. -/
theorem inOrder_append : InOrder since (rs ++ rs') upTo
    ↔ ∃ between, InOrder since rs between ∧ InOrder between rs' upTo := by
  induction rs generalizing since with
  | nil =>
    refine ⟨fun h => ⟨since, Int.le_refl _, h⟩, ?_⟩
    rintro ⟨between, hle, h⟩
    exact h.widen hle (Int.le_refl _)
  | cons r rs ih =>
    constructor
    · rintro ⟨hstart, hforward, hrest⟩
      obtain ⟨between, hfront, hback⟩ := ih.mp hrest
      exact ⟨between, ⟨hstart, hforward, hfront⟩, hback⟩
    · rintro ⟨between, ⟨hstart, hforward, hfront⟩, hback⟩
      exact ⟨hstart, hforward, ih.mpr ⟨between, hfront, hback⟩⟩

/-- **Each stretch lies between the two times.** -/
theorem InOrder.within (h : InOrder since rs upTo) (hr : r ∈ rs) :
    since ≤ r.start.time.micros ∧ r.start.time.micros ≤ r.stop.time.micros
      ∧ r.stop.time.micros ≤ upTo := by
  obtain ⟨front, back, rfl⟩ := List.append_of_mem hr
  obtain ⟨between, hfront, hstart, hforward, hback⟩ := inOrder_append.mp h
  exact ⟨Int.le_trans hfront.le hstart, hforward, hback.le⟩

/-- **Each stretch starts when the ones before it have ended.** -/
theorem InOrder.pairwise (h : InOrder since rs upTo) :
    rs.Pairwise fun r r' => r.stop.time.micros ≤ r'.start.time.micros := by
  induction rs generalizing since with
  | nil => exact List.Pairwise.nil
  | cons r rs ih => exact List.pairwise_cons.mpr ⟨fun r' hr' => (h.2.2.within hr').1, ih h.2.2⟩

/-- **Together they take no more than the time between.** -/
theorem InOrder.total_le (h : InOrder since rs upTo) : total rs ≤ upTo - since := by
  induction rs generalizing since with
  | nil => exact Int.sub_nonneg_of_le h
  | cons r rs ih =>
    obtain ⟨hstart, hforward, hrest⟩ := h
    have hle := ih hrest
    show r.wallclock + total rs ≤ upTo - since
    unfold wallclock Instant.minus
    omega

end InOrder

end Range

/-- The stretches of a play that was handed out. -/
def Play.stretches (y : Play) : List Range := y.ranges.getD []

/-- How long a play that was handed out was heard, in microseconds. -/
def Play.listenedMicros (y : Play) : Int := Range.total y.stretches

/-- The time listened to some plays is that of all their stretches. -/
theorem Play.sum_listenedMicros (ys : List Play) :
    (ys.map Play.listenedMicros).sum = Range.total (ys.flatMap Play.stretches) := by
  induction ys with
  | nil => rfl
  | cons y ys ih =>
    rw [List.map_cons, List.sum_cons, ih, List.flatMap_cons, Range.total_append]
    rfl

/-! ## What the operations do to the order -/

namespace Player

open Range (InOrder)

section Operations

variable {platform : String} {p q p' : Player} {now : Instant} {since upTo : Int} {r : Range}

theorem Notes.ranges (h : p.Notes q) : q.ranges = p.ranges := by
  unfold Player.ranges
  rw [h.closed, h.opened]

/-- Closing the open stretch leaves the order. -/
theorem Sound.inOrder_shut (hs : p.Sound platform) (h : InOrder since p.ranges upTo) :
    InOrder since p.shut.ranges upTo := by
  obtain ⟨between, hclosed, hopen⟩ := Range.inOrder_append.mp h
  rcases hs.ranges_shut with ⟨hranges, -⟩ | ⟨r, position, hopened, -, hranges⟩
  · rw [hranges]
    exact hclosed.widen (Int.le_refl _) hopen.le
  · rw [hopened] at hopen
    rw [hranges]
    refine Range.inOrder_append.mpr ⟨between, hclosed, ?_⟩
    cases position <;> exact hopen

/-- **Opening a stretch now** leaves it. -/
theorem inOrder_openRange (h : InOrder since p.ranges now.micros) (position : Option Float) :
    InOrder since (p.openRange position now).ranges now.micros := by
  obtain ⟨between, hclosed, hopen⟩ := Range.inOrder_append.mp h
  exact Range.inOrder_append.mpr ⟨between, hclosed, hopen.le, Int.le_refl _, Int.le_refl _⟩

/-- **Going on with the open stretch** until now leaves it. -/
theorem inOrder_holding (hopened : p.opened = some r) (h : InOrder since p.ranges now.micros)
    (position : Option Float) : InOrder since (p.holding r position now).ranges now.micros := by
  unfold Player.ranges at h
  rw [hopened] at h
  obtain ⟨between, hclosed, hstart, hforward, hended⟩ := Range.inOrder_append.mp h
  refine Range.inOrder_append.mpr ⟨between, hclosed, hstart,
    Int.le_trans hforward (stop_le_heldTime r now), ?_⟩
  show (heldTime r now).micros ≤ now.micros
  unfold heldTime
  split
  · exact hended
  · exact Int.le_refl _

theorem inOrder_heldOpen (h : InOrder since p.ranges now.micros) :
    InOrder since (p.heldOpen now).ranges now.micros := by
  unfold Player.heldOpen
  cases hopened : p.opened with
  | none => exact h
  | some r => exact inOrder_holding hopened h r.position

/-- **A player that has begun a play** was not heard before. -/
theorem inOrder_tracking (play : Play) (position : Option Float) (now : Instant) (p : Player) :
    InOrder now.micros (p.tracking play position now).ranges now.micros := by
  unfold tracking
  split
  · exact ⟨Int.le_refl _, Int.le_refl _, Int.le_refl _⟩
  · exact Int.le_refl _

/-- **Whether stretches that follow each other until now still do.** -/
def StaysInOrder (now : Instant) (p q : Player) : Prop :=
  ∀ since, InOrder since p.ranges now.micros → InOrder since q.ranges now.micros

/-- **What a call does to the stretches of a session**: it goes on, one
begins, or it ends and there may be another one. -/
inductive Advance (now : Instant) (p : Player) (u : Update) (p' : Player) : Prop where
  /-- It goes on; where no play is tracked, nothing is heard. -/
  | goesOn (keeps : p.Keeps p') (order : StaysInOrder now p p')
      (idle : p.current = none → p.ranges = [] → p'.ranges = []) (finished : u.finished = none)
  /-- One begins where there was none. -/
  | begins {track : Play} (begun : p.Begins now track p')
      (fresh : InOrder now.micros p'.ranges now.micros) (untracked : p.current = none)
      (finished : u.finished = none)
  /-- It ends, and another one begins. -/
  | follows {q : Player} {track : Play} (keeps : p.Keeps q) (order : StaysInOrder now p q)
      (begun : p.Begins now track p') (fresh : InOrder now.micros p'.ranges now.micros)
      (tracked : p.current.isSome = true) (finished : u.finished = q.played)
  /-- It ends, and there is none. -/
  | stops {q : Player} (keeps : p.Keeps q) (order : StaysInOrder now p q)
      (forgotten : p'.current = none) (untimed : p'.firstSeen = none)
      (begun : p'.begun = p.begun)
      (silent : p'.ranges = []) (tracked : p.current.isSome = true)
      (finished : u.finished = q.played)

/-- Closing the open stretch of a player with other notes. -/
theorem Notes.staysInOrder_shut (hnoted : p.Notes q) (hs : q.Sound platform) (now : Instant) :
    StaysInOrder now p q.shut := by
  intro since h
  rw [← hnoted.ranges] at h
  exact hs.inOrder_shut h

/-- **Every move is an advance.** -/
theorem Move.advance {call : Call} {u : Update} (hmove : Move call now p u p')
    (hs : p.Sound platform) (hnow : now.offset.isSome = true) : Advance now p u p' := by
  have htracked : ∀ {old : Play}, p.current = some old → ∀ {P : Prop}, p.current = none → P :=
    fun h _ hnone => nomatch hnone.symm.trans h
  cases hmove with
  | rests noted quiet soFar finished =>
    refine .goesOn noted.keeps (fun since h => ?_) (fun _ hsilent => ?_) finished
    · rwa [noted.ranges]
    · rwa [noted.ranges]
  | @pauses q _ noted idle soFar finished =>
    have hsq := noted.sound hs
    refine .goesOn (noted.keeps.trans hsq.keeps_shut) (noted.staysInOrder_shut hsq now)
      (fun _ hsilent => ?_) finished
    obtain ⟨hclosed, hopened⟩ := List.append_eq_nil_iff.mp hsilent
    rw [Option.toList_eq_nil_iff, ← noted.opened] at hopened
    rw [← hsilent, ← noted.ranges]
    unfold Player.shut
    rw [hopened]
  | @resumes q old play again closed =>
    refine .goesOn (again.noted.keeps.trans ⟨rfl, rfl, rfl⟩) (fun since h => ?_)
      (fun hnone _ => htracked again.tracked hnone) rfl
    rw [← again.noted.ranges] at h
    exact inOrder_openRange h play.position
  | @goesOn q old play r again opened steady =>
    refine .goesOn (again.noted.keeps.trans ⟨rfl, rfl, rfl⟩) (fun since h => ?_)
      (fun hnone _ => htracked again.tracked hnone) rfl
    rw [← again.noted.ranges] at h
    exact inOrder_holding (again.noted.opened.trans opened) h play.position
  | @seeks q old play r moved again opened seek noRepeat =>
    have hsq := again.noted.sound hs
    refine .goesOn ((again.noted.keeps.trans hsq.keeps_shut).trans ⟨rfl, rfl, rfl⟩)
      (fun since h => ?_) (fun hnone _ => htracked again.tracked hnone) rfl
    exact inOrder_openRange (again.noted.staysInOrder_shut hsq now since h) play.position
  | @repeats q old play r moved again opened seek isRepeat =>
    have hsq := again.noted.sound hs
    have hkeeps := again.noted.keeps.trans hsq.keeps_shut
    exact .follows hkeeps (again.noted.staysInOrder_shut hsq now)
      (hkeeps.begins (begins_tracking old play.position now q.shut))
      (inOrder_tracking old play.position now q.shut) (by rw [again.tracked]; rfl) rfl
  | @replaces q old play status noted doing tracked shown other =>
    have hsq := noted.sound hs
    have hkeeps := (noted.keeps.trans (Sound.keeps_heldOpen q now)).trans
      (hsq.heldOpen hnow).keeps_shut
    refine .follows hkeeps (fun since h => ?_) (hkeeps.begins (begins_tracking play none now _))
      (inOrder_tracking play none now _) (by rw [tracked]; rfl) rfl
    rw [← noted.ranges] at h
    exact (hsq.heldOpen hnow).inOrder_shut (inOrder_heldOpen h)
  | @begins q play status noted doing untracked shown =>
    exact .begins (noted.keeps.begins (begins_tracking play none now q))
      (inOrder_tracking play none now q) untracked rfl
  | @stops q old noted tracked stopped =>
    have hsq := noted.sound hs
    have hkeeps := noted.keeps.trans hsq.keeps_shut
    exact .stops hkeeps (noted.staysInOrder_shut hsq now) rfl rfl hkeeps.begun rfl
      (by rw [tracked]; rfl) rfl

end Operations

/-! ## Along a run -/

instance : DecidablePred Taken.IsOpening :=
  fun t => inferInstanceAs (Decidable (t.after.begun = t.before.begun + 1))

/-- **A clock that does not go back.** -/
def NeverBack (times : List Instant) : Prop := times.Pairwise fun s t => s.micros ≤ t.micros

/-- **The plays that were finished** by some calls, in that order. -/
def finishedIn (past : List Taken) : List Play := past.filterMap fun t => t.update.finished

/-- The call that began the first session. -/
def firstOpening? (past : List Taken) : Option Taken := past.find? fun t => decide t.IsOpening

/-- **All that was heard** in some calls that leave a player: the stretches of
the plays that were finished, and those of the play tracked. -/
def heardIn (past : List Taken) (p : Player) : List Range :=
  (finishedIn past).flatMap Play.stretches ++ p.ranges

/-- **A finished play is listened to within its session**: none of its
stretches starts before it, and its time is that of its stretches. -/
def IsWithin (y : Play) : Prop :=
  ∃ start rs, y.playedAt = some start ∧ y.ranges = some rs
    ∧ y.listenedFor = .seconds (Range.totalSeconds rs)
    ∧ ∀ r ∈ rs, start.micros ≤ r.start.time.micros

/-- **Nothing was counted twice** until now. -/
structure CountsOnce (past : List Taken) (p : Player) (now : Instant) : Prop where
  /-- Each stretch starts when the ones before it have ended. -/
  successive : (heardIn past p).Pairwise fun r r' => r.stop.time.micros ≤ r'.start.time.micros
  /-- None ends before it starts, or after now. -/
  ended : ∀ r ∈ heardIn past p,
    r.start.time.micros ≤ r.stop.time.micros ∧ r.stop.time.micros ≤ now.micros
  /-- None of a finished play starts before its session. -/
  finished : ∀ y ∈ finishedIn past, IsWithin y
  /-- Nor does one of the play tracked. -/
  tracked : ∀ r ∈ p.ranges,
    ∃ start, p.firstSeen = some start ∧ start.micros ≤ r.start.time.micros
  /-- The time listened to all plays is at most the time since the first
  session began. -/
  total : ∀ o, firstOpening? past = some o →
    ((finishedIn past).map Play.listenedMicros).sum + p.listenedMicros ≤ now.minus o.now
  /-- If none has begun, nothing was heard. -/
  silent : firstOpening? past = none → heardIn past p = []

section Runs

variable {platform : String} {past : List Taken} {start p q p' : Player} {call : Call}
  {now now' : Instant} {u : Update} {t o : Taken}

theorem finishedIn_concat (past : List Taken) (t : Taken) :
    finishedIn (past ++ [t]) = finishedIn past ++ t.update.finished.toList := by
  unfold finishedIn
  rw [List.filterMap_append, List.filterMap_cons, List.filterMap_nil]
  cases t.update.finished <;> rfl

/-- The first session stays the first. -/
theorem firstOpening?_concat_of_some (h : firstOpening? past = some o) :
    firstOpening? (past ++ [t]) = some o := by
  unfold firstOpening? at h ⊢
  rw [List.find?_append, h]
  rfl

/-- Where there was none, it is the one that begins now. -/
theorem firstOpening?_concat_of_none (h : firstOpening? past = none) :
    firstOpening? (past ++ [t]) = if t.IsOpening then some t else none := by
  unfold firstOpening? at h ⊢
  rw [List.find?_append, h, Option.none_or, List.find?_singleton]
  by_cases ht : t.IsOpening
  · rw [if_pos ht, if_pos (decide_eq_true ht)]
  · rw [if_neg ht, if_neg (by rwa [decide_eq_true_iff])]

/-- **What is known of the order** along a run, until now. -/
structure Ordered (past : List Taken) (p : Player) (now : Instant) : Prop where
  /-- Where no play is tracked, nothing is heard. -/
  idle : p.current = none → p.ranges = []
  /-- The finished plays were listened to within their sessions. -/
  finished : ∀ y ∈ finishedIn past, IsWithin y
  /-- Before the first session, no play is tracked and none was finished. -/
  unbegun : firstOpening? past = none → p.current = none ∧ finishedIn past = []
  /-- The stretches follow each other from the first session on, and those of
  the play tracked from its session on. -/
  order : ∀ o, firstOpening? past = some o → ∃ since,
    InOrder o.now.micros ((finishedIn past).flatMap Play.stretches) since
      ∧ InOrder since p.ranges now.micros
      ∧ ∀ seen, p.firstSeen = some seen → seen.micros = since

/-- Nothing is known of a new player. -/
theorem ordered_fresh (platform : Platform) (limits : Limits) (created now : Instant) :
    Ordered [] (fresh platform limits created) now :=
  ⟨fun _ => rfl, fun _ h => absurd h List.not_mem_nil, fun _ => ⟨rfl, rfl⟩, fun _ h => nomatch h⟩

/-- Time may pass. -/
theorem Ordered.later (h : Ordered past p now) (hle : now.micros ≤ now'.micros) :
    Ordered past p now' where
  idle := h.idle
  finished := h.finished
  unbegun := h.unbegun
  order := fun o ho => by
    obtain ⟨since, hpast, hcurrent, hseen⟩ := h.order o ho
    exact ⟨since, hpast, hcurrent.widen (Int.le_refl _) hle, hseen⟩

/-- If a play is tracked, a session has begun. -/
theorem Ordered.exists_firstOpening? (h : Ordered past p now)
    (htracked : p.current.isSome = true) :
    ∃ o, firstOpening? past = some o := by
  cases hfirst : firstOpening? past with
  | some o => exact ⟨o, rfl⟩
  | none =>
    rw [(h.unbegun hfirst).1] at htracked
    exact absurd htracked Bool.false_ne_true

/-- **The session goes on.** -/
theorem Ordered.goesOn (h : Ordered past p now) (keeps : p.Keeps p')
    (order : StaysInOrder now p p') (idle : p.current = none → p.ranges = [] → p'.ranges = [])
    (hfinished : u.finished = none) : Ordered (past ++ [⟨p, call, now, u, p'⟩]) p' now := by
  have hplays : finishedIn (past ++ [⟨p, call, now, u, p'⟩]) = finishedIn past := by
    rw [finishedIn_concat, hfinished]
    exact List.append_nil _
  have hquiet : ¬ Taken.IsOpening ⟨p, call, now, u, p'⟩ := by
    show p'.begun ≠ p.begun + 1
    rw [keeps.begun]
    exact Nat.ne_of_lt (Nat.lt_succ_self _)
  have hfirst : firstOpening? (past ++ [⟨p, call, now, u, p'⟩]) = firstOpening? past := by
    cases hpast : firstOpening? past with
    | some o => exact firstOpening?_concat_of_some hpast
    | none => rw [firstOpening?_concat_of_none hpast, if_neg hquiet]
  refine ⟨fun hnone => ?_, ?_, ?_, fun o ho => ?_⟩
  · rw [keeps.current] at hnone
    exact idle hnone (h.idle hnone)
  · rw [hplays]
    exact h.finished
  · rw [hfirst, hplays, keeps.current]
    exact h.unbegun
  · rw [hfirst] at ho
    rw [hplays, keeps.firstSeen]
    obtain ⟨since, hpast, hcurrent, hseen⟩ := h.order o ho
    exact ⟨since, hpast, order since hcurrent, hseen⟩

/-- **A session begins** where there was none. -/
theorem Ordered.begins (h : Ordered past p now) {track : Play} (begun : p.Begins now track p')
    (fresh : InOrder now.micros p'.ranges now.micros) (hfinished : u.finished = none) :
    Ordered (past ++ [⟨p, call, now, u, p'⟩]) p' now := by
  have hplays : finishedIn (past ++ [⟨p, call, now, u, p'⟩]) = finishedIn past := by
    rw [finishedIn_concat, hfinished]
    exact List.append_nil _
  have hopening : Taken.IsOpening ⟨p, call, now, u, p'⟩ := begun.begun
  have hseen : ∀ seen, p'.firstSeen = some seen → seen.micros = now.micros := fun seen hseen =>
    congrArg Instant.micros (Option.some.inj (hseen.symm.trans begun.firstSeen))
  refine ⟨(fun hnone => nomatch begun.current.symm.trans hnone), ?_, fun hnone => ?_,
    fun o ho => ?_⟩
  · rw [hplays]
    exact h.finished
  · cases hpast : firstOpening? past with
    | some o => exact nomatch (firstOpening?_concat_of_some hpast).symm.trans hnone
    | none =>
      rw [firstOpening?_concat_of_none hpast, if_pos hopening] at hnone
      exact nomatch hnone
  · rw [hplays]
    cases hpast : firstOpening? past with
    | some o' =>
      obtain rfl := Option.some.inj ((firstOpening?_concat_of_some hpast).symm.trans ho)
      obtain ⟨since, hpast', hcurrent, -⟩ := h.order o' hpast
      exact ⟨now.micros, hpast'.widen (Int.le_refl _) hcurrent.le, fresh, hseen⟩
    | none =>
      rw [firstOpening?_concat_of_none hpast, if_pos hopening] at ho
      obtain rfl := Option.some.inj ho
      rw [(h.unbegun hpast).2]
      exact ⟨now.micros, Int.le_refl _, fresh, hseen⟩

/-- **The play that is handed out when a session ends** was listened to
within it, and after the plays before. -/
theorem Ordered.closes (h : Ordered past p now) (hs : p.Sound platform)
    (htracked : p.current.isSome = true) (keeps : p.Keeps q) (order : StaysInOrder now p q) :
    ∃ o y, firstOpening? past = some o ∧ q.played = some y ∧ IsWithin y
      ∧ InOrder o.now.micros ((finishedIn past ++ [y]).flatMap Play.stretches) now.micros := by
  obtain ⟨o, ho⟩ := h.exists_firstOpening? htracked
  obtain ⟨track, htrack⟩ := Option.isSome_iff_exists.mp htracked
  obtain ⟨seen, hseen, -⟩ := hs.started track htrack
  obtain ⟨since, hpast, hcurrent, hsince⟩ := h.order o ho
  have hplayed := played_eq (keeps.current.trans htrack) (keeps.firstSeen.trans hseen)
  have hranges := order since hcurrent
  refine ⟨o, _, ho, hplayed, ⟨seen, q.ranges, rfl, rfl, rfl, fun r hr => ?_⟩, ?_⟩
  · rw [hsince seen hseen]
    exact (hranges.within hr).1
  · rw [List.flatMap_append, List.flatMap_singleton]
    exact Range.inOrder_append.mpr ⟨since, hpast, hranges⟩

/-- **A session ends**, and there may be another one. -/
theorem Ordered.ends (h : Ordered past p now) (hs : p.Sound platform)
    (htracked : p.current.isSome = true) (keeps : p.Keeps q) (order : StaysInOrder now p q)
    (hfinished : u.finished = q.played) (idle : p'.current = none → p'.ranges = [])
    (fresh : InOrder now.micros p'.ranges now.micros)
    (hseen : ∀ seen, p'.firstSeen = some seen → seen.micros = now.micros) :
    Ordered (past ++ [⟨p, call, now, u, p'⟩]) p' now := by
  obtain ⟨o, y, ho, hy, hwithin, hheard⟩ := h.closes hs htracked keeps order
  have hplays : finishedIn (past ++ [⟨p, call, now, u, p'⟩]) = finishedIn past ++ [y] := by
    rw [finishedIn_concat, hfinished, hy]
    rfl
  have hfirst := firstOpening?_concat_of_some (t := ⟨p, call, now, u, p'⟩) ho
  refine ⟨idle, fun y' hy' => ?_, (fun hnone => nomatch hfirst.symm.trans hnone),
    fun o' ho' => ?_⟩
  · rw [hplays] at hy'
    rcases List.mem_append.mp hy' with hy' | hy'
    · exact h.finished y' hy'
    · rw [List.mem_singleton.mp hy']
      exact hwithin
  · obtain rfl := Option.some.inj (hfirst.symm.trans ho')
    rw [hplays]
    exact ⟨now.micros, hheard, fresh, hseen⟩

/-- What an advance leaves is known. -/
theorem Ordered.advance (h : Ordered past p now) (hs : p.Sound platform)
    (hadvance : Advance now p u p') : Ordered (past ++ [⟨p, call, now, u, p'⟩]) p' now := by
  cases hadvance with
  | goesOn keeps order idle finished => exact h.goesOn keeps order idle finished
  | begins begun fresh untracked finished => exact h.begins begun fresh finished
  | follows keeps order begun fresh tracked finished =>
    exact h.ends hs tracked keeps order finished
      (fun hnone => nomatch begun.current.symm.trans hnone) fresh
      (fun seen hseen => congrArg Instant.micros
        (Option.some.inj (hseen.symm.trans begun.firstSeen)))
  | stops keeps order forgotten untimed begun silent tracked finished =>
    refine h.ends hs tracked keeps order finished (fun _ => silent) ?_
      (fun seen hseen => nomatch untimed.symm.trans hseen)
    rw [silent]
    exact Int.le_refl _

/-- **Along a run the order is known**, as long as the clock does not go
back. -/
theorem Run.ordered {platform : Platform} {limits : Limits} {created : Instant}
    (run : Run (fresh platform limits created) past p)
    (clock : NeverBack (past.map Taken.now ++ [now])) : Ordered past p now := by
  induction run generalizing now with
  | none => exact ordered_fresh platform limits created now
  | @call past p run call typed now₀ clocked u p' performed ih =>
    rw [List.map_append] at clock
    obtain ⟨hpast, -, hlast⟩ := List.pairwise_append.mp clock
    have hle : now₀.micros ≤ now.micros :=
      hlast now₀ (List.mem_append_right _ List.mem_cons_self) now List.mem_cons_self
    obtain ⟨name, hs⟩ := run.sound
    obtain ⟨-, hmove⟩ := hs.move_of_performed clocked typed performed
    exact ((ih hpast).advance hs (hmove.advance hs clocked)).later hle

/-- What is known of the order says that nothing was counted twice. -/
theorem Ordered.countsOnce (h : Ordered past p now) (hs : p.Sound platform) :
    CountsOnce past p now := by
  have hseen : ∀ r ∈ p.ranges, ∃ seen, p.firstSeen = some seen := fun r hr => by
    cases hcurrent : p.current with
    | none => rw [h.idle hcurrent] at hr; exact absurd hr List.not_mem_nil
    | some track =>
      obtain ⟨seen, hseen, -⟩ := hs.started track hcurrent
      exact ⟨seen, hseen⟩
  cases hfirst : firstOpening? past with
  | none =>
    obtain ⟨hidle, hnone⟩ := h.unbegun hfirst
    have hheard : heardIn past p = [] := by
      unfold heardIn
      rw [hnone, h.idle hidle]
      rfl
    refine ⟨?_, ?_, h.finished, ?_, (fun o ho => nomatch hfirst.symm.trans ho), fun _ => hheard⟩
    · rw [hheard]
      exact List.Pairwise.nil
    · rw [hheard]
      exact fun r hr => absurd hr List.not_mem_nil
    · rw [h.idle hidle]
      exact fun r hr => absurd hr List.not_mem_nil
  | some o =>
    obtain ⟨since, hpast, hcurrent, hsince⟩ := h.order o hfirst
    have hheard : InOrder o.now.micros (heardIn past p) now.micros :=
      Range.inOrder_append.mpr ⟨since, hpast, hcurrent⟩
    refine ⟨hheard.pairwise, fun r hr => (hheard.within hr).2, h.finished, fun r hr => ?_,
      fun o' ho' => ?_, (fun hnone => nomatch hfirst.symm.trans hnone)⟩
    · obtain ⟨seen, hseen⟩ := hseen r hr
      exact ⟨seen, hseen, by rw [hsince seen hseen]; exact (hcurrent.within hr).1⟩
    · obtain rfl := Option.some.inj (hfirst.symm.trans ho')
      have htotal := hheard.total_le
      unfold heardIn at htotal
      rw [Range.total_append] at htotal
      rw [Play.sum_listenedMicros]
      exact htotal

/-- **No time is counted twice** in any run of calls on a new player whose
clock does not go back; and whatever was done so far, the next call
returns. -/
theorem Run.counts_once {platform : Platform} {limits : Limits} {created : Instant}
    (run : Run (fresh platform limits created) past p)
    (clock : NeverBack (past.map Taken.now ++ [now])) :
    CountsOnce past p now ∧ ∀ call : Call, call.Typed → now.offset.isSome = true →
      ∃ u p', call.perform now p = .ok u p' := by
  obtain ⟨name, hs⟩ := run.sound
  exact ⟨(run.ordered clock).countsOnce hs, fun call typed clocked =>
    run.exists_perform typed clocked⟩

end Runs

/-- A tune that begins again after half a minute, up to some seconds later. -/
theorem counts_once_shownAgain : ∃ past, Run (fresh ⟨"d", "u"⟩ {} ⟨0, some 0⟩) past shownAgain
    ∧ NeverBack (past.map Taken.now ++ [⟨40000000, some 0⟩])
    ∧ CountsOnce past shownAgain ⟨40000000, some 0⟩
    ∧ ∃ u p', (shows "Jingle" 0).perform ⟨40000000, some 0⟩ shownAgain = .ok u p' := by
  obtain ⟨u₁, u₂, u₃, run⟩ := run_shownAgain
  have clock : NeverBack [⟨0, some 0⟩, ⟨30000000, some 0⟩, ⟨31000000, some 0⟩,
      ⟨40000000, some 0⟩] := by
    unfold NeverBack
    decide
  obtain ⟨hcounts, hnext⟩ := run.counts_once clock
  exact ⟨_, run, clock, hcounts, hnext (shows "Jingle" 0) (typed_shows "Jingle" 0) rfl⟩

end Player

end Listening
