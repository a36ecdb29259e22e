import Listening.Proofs.ListReplays
import Listening.Proofs.RememberedLists

/-!
# What a look can come to

A look at a list ends in one of few ways, and a `Verdict` is all of them. The
list is like the known one, and only the time of the look is noted; or it is
rejected, and nothing is noted at all; or it is accepted, and is what is known
from then on. Which lists are rejected is decided by comparing them, before
anything is changed: `Rejects`. A look that fails does so over the time that
has passed since the last one, which is asked for before the list is accepted,
and so it leaves the history as it was, too.

Only a list that is accepted can bring plays, and only from its top on: the
plays on top of the known ones, or a known one that has moved there. Some of
those on top may be taken for skipped, but never the newest.
-/

namespace Listening.History

/-! ## Plays from the top -/

/-- What fits is some of the items, in their order. -/
theorem sublist_fit {α β : Type} [LE β] [DecidableLE β] [Sub β] (budget : β)
    (items : List (α × Option β)) : (fit budget items).1.Sublist (items.map Prod.fst) := by
  induction items generalizing budget with
  | nil => exact List.Sublist.refl _
  | cons item rest ih =>
    obtain ⟨a, cost⟩ := item
    cases cost with
    | none => exact (ih budget).cons_cons a
    | some cost =>
      unfold fit
      split
      · exact (ih (budget - cost)).cons_cons a
      · exact (ih budget).cons a

/-- Items that are read with a value each are the items. -/
theorem map_fst_of_mapM_eq_ok {α β : Type} {f : α → Except Fault β} {as : List α}
    {bs : List (α × β)} (h : as.mapM (fun a => (f a).map fun b => (a, b)) = .ok bs) :
    bs.map Prod.fst = as := by
  have hread := map_eq_of_mapM_eq_ok h
  clear h
  induction as generalizing bs with
  | nil => rw [List.map_eq_nil_iff.mp hread.symm, List.map_nil]
  | cons a rest ih =>
    obtain ⟨b, bs', rfl, hb, hbs⟩ := List.map_eq_cons_iff.mp hread.symm
    have hfst : b.1 = a := by
      dsimp only at hb
      cases ha : f a with
      | error e => rw [ha] at hb; exact nomatch hb
      | ok c =>
        rw [ha] at hb
        exact congrArg Prod.fst (Except.ok.inj hb)
    rw [List.map_cons, hfst, ih hbs.symm]

/-- **Plays that are not taken for skipped** are some of those added, and the
newest among them. -/
theorem sublist_of_unskipped? {h : History} {added plays : List Play} {now : Instant}
    (hplays : h.unskipped? added now = .ok plays) :
    plays.Sublist added ∧ plays.head? = added.head? := by
  unfold unskipped? at hplays
  split at hplays
  · rename_i newest second older t hobserved
    obtain ⟨budget, -, hplays⟩ := exists_of_bind_eq_ok hplays
    obtain ⟨costs, hcosts, hplays⟩ := exists_of_bind_eq_ok hplays
    obtain ⟨lines, -, hplays⟩ := exists_of_bind_eq_ok hplays
    obtain rfl := Except.ok.inj hplays
    have hkept := sublist_fit budget costs
    rw [map_fst_of_mapM_eq_ok hcosts] at hkept
    refine ⟨(List.reverse_sublist.mp ?_).cons_cons newest, rfl⟩
    rwa [List.reverse_reverse]
  · obtain rfl := Except.ok.inj hplays
    exact ⟨List.Sublist.refl _, rfl⟩

/-- **A finding of plays from the top of a list on**, if of any. -/
structure FromTop (candidate : List Play) (now : Instant) (finding : Finding) : Prop where
  /-- It is of some plays of the list, the first among them, and each with the
  time of the look for its own if it has none. -/
  plays : ∃ found, found.Sublist candidate ∧ (found ≠ [] → found.head? = candidate.head?)
    ∧ finding.plays = found.map (stamp now)
  /-- If there are any, the list could be made sense of, and has changed at its
  top. -/
  sound : finding.plays ≠ [] → finding.consistent = true ∧ finding.place = some .prepend

/-- A finding of nothing. -/
theorem FromTop.of_nothing {candidate : List Play} {finding : Finding}
    (hnothing : finding.plays = []) (now : Instant) : FromTop candidate now finding where
  plays := ⟨[], List.nil_sublist candidate, fun h => absurd rfl h, hnothing⟩
  sound h := absurd hnothing h

/-- A finding of the plays that were added on top and not skipped. -/
theorem FromTop.of_prepend {h : History} {candidate plays : List Play} {now : Instant}
    {growth : Growth} (hontop : growth.isPrepend = true)
    (hplays : h.unskipped? (growth.plays candidate) now = .ok plays) {finding : Finding}
    (hfound : finding.plays = plays.map (stamp now)) (hconsistent : finding.consistent = true)
    (hplace : finding.place = growth.place?) : FromTop candidate now finding := by
  obtain ⟨count, rfl⟩ : ∃ count, growth = .prepend count := by
    cases growth with
    | prepend count => exact ⟨count, rfl⟩
    | none => exact absurd hontop Bool.false_ne_true
    | insert => exact absurd hontop Bool.false_ne_true
    | append count => exact absurd hontop Bool.false_ne_true
  obtain ⟨hpart, hnewest⟩ := sublist_of_unskipped? hplays
  refine ⟨⟨plays, hpart.trans (List.take_sublist count candidate), fun hsome => ?_, hfound⟩,
    fun _ => ⟨hconsistent, hplace⟩⟩
  cases count with
  | zero => exact absurd (List.sublist_nil.mp hpart) hsome
  | succ count => rw [hnewest]; cases candidate <;> rfl

/-- Plays that are found have a time. -/
theorem FromTop.timed {candidate : List Play} {now : Instant} {finding : Finding}
    (h : FromTop candidate now finding) : ∀ p ∈ finding.plays, p.playedAt.isSome = true := by
  obtain ⟨found, -, -, hplays⟩ := h.plays
  intro p hp
  obtain ⟨q, -, rfl⟩ := List.mem_map.mp (hplays ▸ hp)
  unfold stamp
  cases q.playedAt <;> rfl

/-! ## Verdicts -/

/-- **Which lists are rejected**: one that was accepted before the last one,
and one that is shorter than the known list unless plays were added at one end
of that, and no others. -/
inductive Rejects (h : History) (known candidate : List Play) : Prop where
  /-- It is remembered from before. -/
  | stale (signature : Signature) (isOfList : signature? candidate = .ok signature)
      (isEarlier : signature ∈ h.seen.dropLast) : Rejects h known candidate
  /-- It is shorter, and no play was added. -/
  | lost (shorter : candidate.length < known.length) (d : ListDiff)
      (isOfLists : ListDiff.ofPlays? known candidate = .ok d)
      (nothingAdded : ∀ e ∈ d.entries, e.isAdded = false) : Rejects h known candidate
  /-- It is shorter, and plays were not only added at one end. -/
  | unclear (shorter : candidate.length < known.length) (growth : Growth)
      (isOfLists : Growth.ofPlays? known candidate = .ok growth)
      (notClean : growth.isClean = false) : Rejects h known candidate

/-- The time that has passed since the last look cannot be told. -/
def ClockDiffers (h : History) (now : Instant) : Prop :=
  ∃ t, h.observedAt = some t ∧ Instant.comparable now t = false

/-- **What a look can come to** at a list, when another is known. -/
inductive Verdict (h : History) (known candidate : List Play) (now : Instant) :
    Step History Finding → Prop where
  /-- The list is like the known one. -/
  | alike {finding : Finding} (nothing : finding.plays = [])
      (same : (Play.identities known == Play.identities candidate) = true) :
      Verdict h known candidate now (.ok finding { h with observedAt := some now })
  /-- It is rejected. -/
  | rejected {finding : Finding} (nothing : finding.plays = [])
      (differs : (Play.identities known == Play.identities candidate) = false)
      (rejects : Rejects h known candidate) : Verdict h known candidate now (.ok finding h)
  /-- It is accepted. -/
  | accepted {finding : Finding} (fromTop : FromTop candidate now finding)
      (differs : (Play.identities known == Play.identities candidate) = false)
      (accepts : ¬ Rejects h known candidate) :
      Verdict h known candidate now (.ok finding (h.afterAccepting candidate now))
  /-- The look fails. -/
  | failed (untold : ClockDiffers h now) (fault : Fault) :
      Verdict h known candidate now (.fail fault h)

section Verdict

variable {h : History} {known candidate : List Play} {now : Instant}
  (hcandidate : ∀ p ∈ candidate, p.Comparable)
include hcandidate

/-- **Whether a list of comparable plays is rejected** is told by comparing
identities. -/
theorem rejects_iff (h : History) (hknown : ∀ p ∈ known, p.Typed) : Rejects h known candidate
    ↔ h.isEarlier (Play.identities candidate) = true
      ∨ candidate.length < known.length
        ∧ ((ListDiff.ofKeys (Play.identities known)
              (Play.identities candidate)).entries.any (·.isAdded) = false
          ∨ (Growth.ofKeys (Play.identities known) (Play.identities candidate)).isClean
            = false) := by
  have htyped : ∀ p ∈ candidate, p.Typed := fun p hp => (hcandidate p hp).toTyped
  have hseen : h.isEarlier (Play.identities candidate) = true
      ↔ Play.identities candidate ∈ h.seen.dropLast := isEarlier_identities_iff hcandidate
  have hdiff := ListDiff.ofPlays?_of_typed hknown htyped false
  have hgrowth := Growth.ofPlays?_of_typed hknown htyped
  constructor
  · intro hrejects
    cases hrejects with
    | stale signature isOfList isEarlier =>
      obtain rfl := Except.ok.inj ((signature?_of_typed htyped).symm.trans isOfList)
      exact Or.inl (hseen.mpr isEarlier)
    | lost shorter d isOfLists nothingAdded =>
      obtain rfl := Except.ok.inj (hdiff.symm.trans isOfLists)
      refine Or.inr ⟨shorter, Or.inl (List.any_eq_false.mpr fun e he => ?_)⟩
      rw [nothingAdded e he]
      exact Bool.false_ne_true
    | unclear shorter growth isOfLists notClean =>
      obtain rfl := Except.ok.inj (hgrowth.symm.trans isOfLists)
      exact Or.inr ⟨shorter, Or.inr notClean⟩
  · rintro (hearlier | ⟨hshorter, hnone | hunclean⟩)
    · exact .stale _ (signature?_of_typed htyped) (hseen.mp hearlier)
    · exact .lost hshorter _ hdiff fun e he =>
        Bool.eq_false_iff.mpr (List.any_eq_false.mp hnone e he)
    · exact .unclear hshorter _ hgrowth hunclean

/-- **Plays added at one end** are accepted, and some of those on top may be
found, if it can be told how much time has passed. -/
theorem grown_cases (h : History) (now : Instant) (growth : Growth)
    (entries : List ListDiff.Entry) :
    (∃ finding, h.grown growth entries candidate now
        = .ok finding (h.afterAccepting candidate now) ∧ FromTop candidate now finding)
      ∨ ClockDiffers h now ∧ ∃ fault, h.grown growth entries candidate now = .fail fault h := by
  have htyped : ∀ p ∈ candidate, p.Typed := fun p hp => (hcandidate p hp).toTyped
  unfold grown
  by_cases hontop : growth.isPrepend = true
  · rw [if_pos hontop]
    cases hplays : h.unskipped? (growth.plays candidate) now with
    | ok plays =>
      rw [Step.of_ok, Step.andThen_ok, accept_of_typed h htyped now, Step.andThen_ok]
      exact Or.inl ⟨_, rfl, FromTop.of_prepend hontop hplays rfl rfl rfl⟩
    | error fault =>
      refine Or.inr ⟨?_, fault, rfl⟩
      by_contra htold
      obtain ⟨plays, hok, -⟩ := exists_unskipped? (typed_plays_growth htyped growth)
        (fun t ht => Bool.not_eq_false _ |>.mp fun e => htold ⟨t, ht, e⟩)
      exact nomatch hplays.symm.trans hok
  · rw [if_neg hontop, accept_of_typed h htyped now, Step.andThen_ok]
    exact Or.inl ⟨_, rfl, FromTop.of_nothing rfl now⟩

/-- **A play moved to an end** is accepted, and found if it is on top. -/
theorem exists_bumped_fromTop (h : History) (now : Instant) (bump : Bump)
    (entries : List ListDiff.Entry) :
    ∃ finding, h.bumped bump entries candidate now
        = .ok finding (h.afterAccepting candidate now) ∧ FromTop candidate now finding := by
  unfold bumped
  rw [accept_of_typed h (fun p hp => (hcandidate p hp).toTyped) now, Step.andThen_ok]
  by_cases htop : bump = .toTop
  · subst htop
    rw [if_pos rfl]
    refine ⟨_, rfl, ⟨_, ?_, ?_, rfl⟩, fun _ => ⟨rfl, rfl⟩⟩
    · cases candidate with
      | nil => exact List.Sublist.refl _
      | cons p rest => exact (List.nil_sublist rest).cons_cons p
    · intro _
      cases candidate <;> rfl
  · rw [if_neg htop]
    exact ⟨_, rfl, FromTop.of_nothing rfl now⟩

variable (hknown : ∀ p ∈ known, p.Typed)
  (hother : (Play.identities known == Play.identities candidate) = false)
  (hunseen : h.isEarlier (Play.identities candidate) = false)
include hknown hother hunseen

/-- **The verdict on a list that is new**, by its difference to the known
one. -/
theorem verdict_changed : Verdict h known candidate now (h.changed known candidate
    (ListDiff.ofKeys (Play.identities known) (Play.identities candidate)) now) := by
  have htyped : ∀ p ∈ candidate, p.Typed := fun p hp => (hcandidate p hp).toTyped
  have hrejects := rejects_iff hcandidate h hknown
  have hbump : Bump.ofKeys (Play.identities known) (Play.identities candidate) ≠ .none →
      ¬ candidate.length < known.length := by
    intro hmoved hshorter
    refine hmoved (if_pos (Or.inl fun e => ?_))
    rw [Play.identities, Play.identities, List.length_map, List.length_map] at e
    exact Nat.ne_of_gt hshorter e
  rw [hunseen] at hrejects
  unfold changed
  rw [Growth.ofPlays?_of_typed hknown htyped, Bump.ofPlays?_of_typed hknown htyped]
  simp only [Step.of_ok, Step.andThen_ok]
  generalize ListDiff.ofKeys (Play.identities known) (Play.identities candidate)
    = d at hrejects ⊢
  generalize Growth.ofKeys (Play.identities known) (Play.identities candidate) = growth
    at hrejects ⊢
  generalize Bump.ofKeys (Play.identities known) (Play.identities candidate) = bump at hbump ⊢
  by_cases hlost :
      (decide (candidate.length < known.length) && !d.entries.any (·.isAdded)) = true
  · rw [if_pos hlost]
    rw [Bool.and_eq_true, decide_eq_true_eq, Bool.not_eq_true'] at hlost
    exact .rejected rfl hother (hrejects.mpr (Or.inr ⟨hlost.1, Or.inl hlost.2⟩))
  rw [if_neg hlost]
  rw [Bool.and_eq_true, decide_eq_true_eq, Bool.not_eq_true', not_and] at hlost
  by_cases hclean : growth.isClean = true
  · have haccepts : ¬ Rejects h known candidate := by
      rw [hrejects]
      rintro (e | ⟨hshorter, hnone | hunclean⟩)
      · exact Bool.false_ne_true e
      · exact hlost hshorter hnone
      · exact Bool.false_ne_true (hunclean.symm.trans hclean)
    rw [if_pos hclean]
    rcases grown_cases hcandidate h now growth d.entries with
      ⟨finding, hgrown, hfound⟩ | ⟨huntold, fault, hgrown⟩
    · rw [hgrown]
      exact .accepted hfound hother haccepts
    · rw [hgrown]
      exact .failed huntold fault
  rw [if_neg hclean]
  by_cases hmoved : bump ≠ .none
  · obtain ⟨finding, hbumped, hfound⟩ := exists_bumped_fromTop hcandidate h now bump d.entries
    rw [if_pos hmoved, hbumped]
    refine .accepted hfound hother fun hr => ?_
    rcases hrejects.mp hr with e | ⟨hshorter, -⟩
    · exact Bool.false_ne_true e
    · exact hbump hmoved hshorter
  rw [if_neg hmoved]
  by_cases hshorter : candidate.length < known.length
  · rw [decide_eq_true hshorter]
    exact .rejected rfl hother
      (hrejects.mpr (Or.inr ⟨hshorter, Or.inr (Bool.eq_false_iff.mpr hclean)⟩))
  · rw [decide_eq_false hshorter]
    unfold jumbled
    rw [if_neg Bool.false_ne_true, accept_of_typed h htyped now, Step.andThen_ok]
    refine .accepted (FromTop.of_nothing rfl now) hother fun hr => ?_
    rcases hrejects.mp hr with e | ⟨hshort, -⟩
    · exact Bool.false_ne_true e
    · exact hshorter hshort

end Verdict

/-! ## Every look -/

section Looks

variable {h : History} {known fetched : List Play}

/-- **Every look comes to a verdict** on the list. -/
theorem verdict_evaluate (hknown : h.known = some known) (hold : ∀ p ∈ known, p.Typed)
    (hfetched : ∀ p ∈ fetched, p.Comparable) (now : Instant) :
    Verdict h known (h.ordered fetched) now (h.evaluate fetched now) := by
  have htyped : ∀ p ∈ fetched, p.Typed := fun p hp => (hfetched p hp).toTyped
  have hcandidate : ∀ p ∈ h.ordered fetched, p.Comparable :=
    fun p hp => hfetched p (mem_ordered.mp hp)
  cases halike : Play.identities known == Play.identities (h.ordered fetched) with
  | true =>
    obtain ⟨finding, hnothing, -, hlook⟩ := evaluate_of_alike hknown hold htyped halike now
    rw [hlook]
    exact .alike hnothing halike
  | false =>
    rw [evaluate_of_other hknown hold htyped halike]
    cases hseen : h.isEarlier (Play.identities (h.ordered fetched)) with
    | true =>
      rw [if_pos rfl]
      exact .rejected rfl halike ((rejects_iff hcandidate h hold).mpr (Or.inl hseen))
    | false =>
      rw [if_neg Bool.false_ne_true]
      exact verdict_changed hcandidate hold halike hseen

/-- **What holds of a look** at a list, with what it finds and the history it
leaves, when another list is known. -/
structure Lawful (h : History) (known candidate : List Play) (now : Instant) (finding : Finding)
    (h' : History) : Prop where
  /-- What is found is plays from the top of the list on. -/
  fromTop : FromTop candidate now finding
  /-- Every play found has a time. -/
  timed : ∀ p ∈ finding.plays, p.playedAt.isSome = true
  /-- Where plays are found, the list is what is known from then on. -/
  known_of_found : finding.plays ≠ [] → h'.known = some candidate
  /-- A list that could not be made sense of brings nothing. -/
  nothing_of_inconsistent : finding.consistent = false → finding.plays = []
  /-- A list like the known one changes nothing but the time of the look. -/
  alike : (Play.identities known == Play.identities candidate) = true →
    h' = { h with observedAt := some now }
  /-- Of another one nothing is noted exactly if it is rejected. -/
  unchanged_iff : (Play.identities known == Play.identities candidate) = false →
    (h'.known = h.known ∧ h'.seen = h.seen ∧ h'.observedAt = h.observedAt
      ↔ Rejects h known candidate)
  /-- Otherwise it is known, remembered, and the last one looked at. -/
  accepted : (Play.identities known == Play.identities candidate) = false →
    ¬ Rejects h known candidate → h' = h.afterAccepting candidate now

/-- A verdict is lawful. -/
theorem Verdict.lawful {candidate : List Play} {now : Instant} {finding : Finding} {h' : History}
    (hknown : h.known = some known) (hcandidate : ∀ p ∈ candidate, p.Comparable)
    {x : Step History Finding} (verdict : Verdict h known candidate now x)
    (hx : x = .ok finding h') : Lawful h known candidate now finding h' := by
  cases verdict with
  | alike nothing same =>
    obtain ⟨rfl, rfl⟩ := Step.ok_inj hx
    exact {
      fromTop := .of_nothing nothing now
      timed := (FromTop.of_nothing nothing now : FromTop candidate now _).timed
      known_of_found := fun hfound => absurd nothing hfound
      nothing_of_inconsistent := fun _ => nothing
      alike := fun _ => rfl
      unchanged_iff := fun e => nomatch same.symm.trans e
      accepted := fun e => nomatch same.symm.trans e }
  | rejected nothing differs rejects =>
    obtain ⟨rfl, rfl⟩ := Step.ok_inj hx
    exact {
      fromTop := .of_nothing nothing now
      timed := (FromTop.of_nothing nothing now : FromTop candidate now _).timed
      known_of_found := fun hfound => absurd nothing hfound
      nothing_of_inconsistent := fun _ => nothing
      alike := fun e => nomatch e.symm.trans differs
      unchanged_iff := fun _ => iff_of_true ⟨rfl, rfl, rfl⟩ rejects
      accepted := fun _ haccepts => absurd rejects haccepts }
  | accepted fromTop differs accepts =>
    obtain ⟨rfl, rfl⟩ := Step.ok_inj hx
    refine {
      fromTop
      timed := fromTop.timed
      known_of_found := fun _ => rfl
      nothing_of_inconsistent := fun e => by_contra fun hfound =>
        Bool.false_ne_true (e.symm.trans (fromTop.sound hfound).1)
      alike := fun e => nomatch e.symm.trans differs
      unchanged_iff := fun _ => iff_of_false (fun ⟨he, _⟩ => ?_) accepts
      accepted := fun _ _ => rfl }
    -- the list would be the known one, and agree with it
    obtain rfl := Option.some.inj (he.trans hknown)
    rw [(beq_identities_of_isDefined (isDefined_of_comparable hcandidate)).mpr rfl] at differs
    exact nomatch differs
  | failed untold fault => exact absurd hx Step.fail_ne_ok

/-- **Every look finds plays from the top or nothing, and rejects a list as a
whole.** A history that was built by looking and knows a list looks at any
other list of comparable plays as the laws say. A look can only fail because
the time that has passed since the last one cannot be told, and then it leaves
the history as it was. -/
theorem evaluate_lawful (reached : Reachable h) (hknown : h.known = some known)
    (hfetched : ∀ p ∈ fetched, p.Comparable) (now : Instant) :
    (∃ finding h', h.evaluate fetched now = .ok finding h'
        ∧ Lawful h known (h.ordered fetched) now finding h')
      ∨ ClockDiffers h now ∧ ∃ fault, h.evaluate fetched now = .fail fault h := by
  have hcandidate : ∀ p ∈ h.ordered fetched, p.Comparable :=
    fun p hp => hfetched p (mem_ordered.mp hp)
  have verdict := verdict_evaluate hknown (reached.typed hknown) hfetched now
  have lawful : ∀ finding h', h.evaluate fetched now = .ok finding h' →
      Lawful h known (h.ordered fetched) now finding h' :=
    fun _ _ hlook => verdict.lawful hknown hcandidate hlook
  generalize h.evaluate fetched now = x at verdict lawful ⊢
  cases verdict with
  | alike nothing same => exact Or.inl ⟨_, _, rfl, lawful _ _ rfl⟩
  | rejected nothing differs rejects => exact Or.inl ⟨_, _, rfl, lawful _ _ rfl⟩
  | accepted fromTop differs accepts => exact Or.inl ⟨_, _, rfl, lawful _ _ rfl⟩
  | failed untold fault => exact Or.inr ⟨untold, fault, rfl⟩

open ComparablePlay (plays) in
/-- A new song on top of the newest of three known ones: the look does not
fail, and the shorter list is judged as any other. -/
theorem lawful_shorter_songs :
    ∃ finding h', (knowing (["c", "b", "a"].map song)).evaluate
        (plays (["d", "c"].map song)) ⟨1, some 0⟩ = .ok finding h'
      ∧ Lawful (knowing (["c", "b", "a"].map song)) (plays (["c", "b", "a"].map song))
        (plays (["d", "c"].map song)) ⟨1, some 0⟩ finding h' := by
  have hcomparable : ∀ p ∈ plays (["d", "c"].map song), p.Comparable := by
    intro p hp
    obtain ⟨q, -, rfl⟩ := List.mem_map.mp hp
    exact q.2
  have hlook := evaluate_lawful (reachable_knowing (["c", "b", "a"].map song))
    (by rw [knowing_eq]) hcomparable ⟨1, some 0⟩
  rcases hlook with ⟨finding, h', hlook, hlawful⟩ | ⟨⟨t, hobserved, huntold⟩, -⟩
  · rw [ordered, if_pos (by rw [knowing_eq])] at hlawful
    exact ⟨finding, h', hlook, hlawful⟩
  · rw [knowing_eq] at hobserved
    obtain rfl := Option.some.inj hobserved
    cases huntold

end Looks

end Listening.History
