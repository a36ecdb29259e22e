import Listening.Proofs.IdentityMarks

/-!
# A look at a list, said at once

A look at a list of typed plays cannot fail, as long as it is made at a time
that can be compared with the last one. This module says what it brings, for
any history that was built by looking: one that was taken up new and has
looked at lists, or begun anew with them, in any order and at any times.
Whatever such a history knows is typed, since it is one of the lists.
-/

namespace Listening.History

/-! ## Histories that have looked at lists -/

/-- **A history that typed plays have been looked at with**, whatever has
come of it. -/
inductive Reachable : History → Prop where
  /-- One that knows nothing yet. -/
  | fresh (newestFirst : Bool) (memory : Int) (tolerance : Float) :
      Reachable { newestFirst, memory, tolerance }
  /-- One that has looked at a list. -/
  | evaluated {h : History} (reached : Reachable h) {fetched : List Play}
      (typed : ∀ p ∈ fetched, p.Typed) (now : Instant) :
      Reachable (h.evaluate fetched now).state
  /-- One that was begun anew with a list. -/
  | restored {h : History} (reached : Reachable h) {plays : List Play}
      (typed : ∀ p ∈ plays, p.Typed) (observedAt : Instant) :
      Reachable (h.restore plays observedAt).state

/-- **What is known after a look** at a list: what was known, or the list. -/
def KnowsOf (h : History) (candidate : List Play) (h' : History) : Prop :=
  h'.known = h.known ∨ h'.known = some candidate

section KnowsOf

variable {h s : History} {known candidate : List Play} {now : Instant}

theorem knowsOf_accept (h s : History) (candidate : List Play) (now : Instant) :
    h.KnowsOf candidate (s.accept candidate now).state := by
  unfold accept
  exact Step.state_andThen (P := h.KnowsOf candidate) (Or.inr rfl) (fun _ _ hs => hs)

theorem KnowsOf.grown (hs : h.KnowsOf candidate s) (growth : Growth)
    (entries : List ListDiff.Entry) (now : Instant) :
    h.KnowsOf candidate (s.grown growth entries candidate now).state := by
  unfold History.grown
  split
  · exact Step.state_andThen hs (fun _ s' _ =>
      Step.state_andThen (knowsOf_accept h s' candidate now) (fun _ _ hs' => hs'))
  · exact Step.state_andThen (knowsOf_accept h s candidate now) (fun _ _ hs' => hs')

theorem knowsOf_bumped (h s : History) (bump : Bump) (entries : List ListDiff.Entry)
    (candidate : List Play) (now : Instant) :
    h.KnowsOf candidate (s.bumped bump entries candidate now).state := by
  refine Step.state_andThen (knowsOf_accept h s candidate now) (fun _ s' hs' => ?_)
  split <;> exact hs'

theorem KnowsOf.jumbled (hs : h.KnowsOf candidate s) (d : ListDiff) (shrunk : Bool)
    (now : Instant) : h.KnowsOf candidate (s.jumbled d shrunk candidate now).state := by
  refine Step.state_andThen ?_ (fun _ _ hs' => hs')
  split
  · exact hs
  · exact knowsOf_accept h s candidate now

theorem KnowsOf.changed (hs : h.KnowsOf candidate s) (known : List Play) (d : ListDiff)
    (now : Instant) : h.KnowsOf candidate (s.changed known candidate d now).state := by
  unfold History.changed
  dsimp only
  split
  · exact hs
  · refine Step.state_andThen hs (fun growth s' hs' => ?_)
    split
    · exact hs'.grown growth d.entries now
    · refine Step.state_andThen hs' (fun bump s'' hs'' => ?_)
      split
      · exact knowsOf_bumped h s'' bump d.entries candidate now
      · exact hs''.jumbled d _ now

/-- **A look leaves what was known or takes the list for it.** -/
theorem knowsOf_evaluate (h : History) (fetched : List Play) (now : Instant) :
    h.KnowsOf (h.ordered fetched) (h.evaluate fetched now).state := by
  unfold evaluate
  split
  · exact Step.state_andThen (knowsOf_accept h h _ now) (fun _ _ hs => hs)
  · refine Step.state_andThen (P := h.KnowsOf (h.ordered fetched)) (Or.inl rfl)
      (fun d s hs => ?_)
    split
    · exact hs
    · refine Step.state_andThen hs (fun signature s' hs' => ?_)
      split
      · exact hs'
      · exact hs'.changed _ d now

end KnowsOf

/-- A list that was turned round holds the same plays. -/
theorem mem_ordered {h : History} {plays : List Play} {p : Play} :
    p ∈ h.ordered plays ↔ p ∈ plays := by
  unfold ordered
  split
  · rfl
  · exact List.mem_reverse

/-- **What is known is typed.** -/
theorem Reachable.typed {h : History} (reached : Reachable h) {known : List Play}
    (hknown : h.known = some known) : ∀ p ∈ known, p.Typed := by
  induction reached generalizing known with
  | fresh newestFirst memory tolerance => exact nomatch hknown
  | @evaluated h reached fetched typed now ih =>
    rcases knowsOf_evaluate h fetched now with he | he
    · exact ih (he.symm.trans hknown)
    · obtain rfl := Option.some.inj (he.symm.trans hknown)
      exact fun p hp => typed p (mem_ordered.mp hp)
  | @restored h reached plays typed observedAt ih =>
    rcases knowsOf_accept h { h with seen := [] } (h.ordered plays) observedAt with he | he
    · exact ih (he.symm.trans hknown)
    · obtain rfl := Option.some.inj (he.symm.trans hknown)
      exact fun p hp => typed p (mem_ordered.mp hp)

/-! ## Plays that were skipped -/

/-- What is kept and what is dropped are the items. -/
theorem perm_fit {α β : Type} [LE β] [DecidableLE β] [Sub β] (budget : β)
    (items : List (α × Option β)) :
    ((fit budget items).1 ++ (fit budget items).2).Perm (items.map Prod.fst) := by
  induction items generalizing budget with
  | nil => exact List.Perm.refl _
  | cons item rest ih =>
    obtain ⟨a, cost⟩ := item
    cases cost with
    | none => exact (ih budget).cons a
    | some cost =>
      unfold fit
      split
      · exact (ih (budget - cost)).cons a
      · exact List.perm_middle.trans ((ih budget).cons a)

/-- **No look fails over plays that were skipped**, and the newest play is
never taken for one. -/
theorem exists_unskipped? {h : History} {added : List Play} (htyped : ∀ p ∈ added, p.Typed)
    {now : Instant} (hclock : ∀ t, h.observedAt = some t → Instant.comparable now t = true) :
    ∃ plays, h.unskipped? added now = .ok plays ∧ plays.head? = added.head? := by
  unfold unskipped?
  split
  · rename_i newest second older t hobserved
    have hbudget : h.budget? t now
        = .ok (Instant.seconds (now.micros - t.micros) + h.tolerance) := by
      unfold budget?
      rw [Instant.minus?_of_comparable (hclock t hobserved)]
      rfl
    have holder : ∀ p ∈ (second :: older).reverse, p.Typed :=
      fun p hp => htyped p (List.mem_cons_of_mem newest (List.mem_reverse.mp hp))
    obtain ⟨costs, hcosts⟩ : ∃ costs, (second :: older).reverse.mapM
        (fun p => p.duration.number?.map fun cost => (p, cost)) = .ok costs := by
      refine exists_mapM_eq_ok (fun p hp => ?_)
      obtain ⟨x, hx⟩ := Amount.number?_of_isNumeric (holder p hp).duration
      exact ⟨(p, x), by rw [hx]; rfl⟩
    obtain ⟨lines, hlines⟩ : ∃ lines,
      (fit (Instant.seconds (now.micros - t.micros) + h.tolerance)
        costs).2.mapM Play.describe? = .ok lines := by
      refine exists_mapM_eq_ok (fun p hp => ?_)
      obtain ⟨item, hitem, rfl⟩ := List.mem_map.mp
        ((perm_fit _ costs).subset (List.mem_append_right _ hp))
      obtain ⟨q, hq, he⟩ := exists_mem_of_mapM_eq_ok hcosts hitem
      obtain ⟨x, hx⟩ := Amount.number?_of_isNumeric (holder q hq).duration
      rw [hx] at he
      obtain rfl := Except.ok.inj he
      exact (holder q hq).exists_describe?
    simp only [hbudget, hcosts, hlines, Bind.bind, Except.bind]
    exact ⟨_, rfl, rfl⟩
  · exact ⟨_, rfl, rfl⟩

/-! ## A look that changes what is known -/

section Looks

variable {h : History} {known candidate : List Play} {now : Instant}

/-- The history that has accepted a list of typed plays. -/
def afterAccepting (h : History) (candidate : List Play) (now : Instant) : History :=
  { h with
    known := some candidate
    observedAt := some now
    seen := Window.lastOf h.capacity (h.seen ++ [Play.identities candidate]) }

theorem accept_of_typed (h : History) (hcandidate : ∀ p ∈ candidate, p.Typed) (now : Instant) :
    h.accept candidate now = .ok () (h.afterAccepting candidate now) := by
  unfold accept
  simp only [signature?_of_typed hcandidate, Step.andThen, Step.of]
  rfl

/-- Whether a list is like the known one is whether their identities agree. -/
theorem outcome_ofKeys_eq_equal_iff : (ListDiff.ofKeys (Play.identities known)
      (Play.identities candidate)).outcome = .equal
    ↔ (Play.identities known == Play.identities candidate) = true := by
  rw [ListDiff.ofKeys_identities, (ListDiff.isMatching_ofKeys _ _ false).unchanged,
    marks_eq_marks_iff]

section Fetched

variable {fetched : List Play}

/-- **A look goes by the difference** to what is known. -/
theorem evaluate_of_diff (htyped : ∀ p ∈ fetched, p.Typed) (hknown : h.known = some known)
    {d : ListDiff} (hd : ListDiff.ofPlays? known (h.ordered fetched) = .ok d) (now : Instant) :
    h.evaluate fetched now
      = if d.outcome = .equal then
          .ok ⟨[], true, false, .none, none, none, d.entries⟩ { h with observedAt := some now }
        else if h.isEarlier (Play.identities (h.ordered fetched)) then
          .ok
            ⟨[], false, false, .none, none,
              some "History is identical to an earlier snapshot, upstream returned stale data",
              d.entries⟩ h
        else h.changed known (h.ordered fetched) d now := by
  have hcandidate : ∀ p ∈ h.ordered fetched, p.Typed := fun p hp => htyped p (mem_ordered.mp hp)
  unfold evaluate
  simp only [hknown, hd, signature?_of_typed hcandidate, Step.of_ok, Step.andThen_ok]

variable (hknown : h.known = some known) (hold : ∀ p ∈ known, p.Typed)
  (htyped : ∀ p ∈ fetched, p.Typed)
include hknown hold htyped

/-- **A look at a list like the known one** brings nothing. -/
theorem evaluate_of_alike
    (halike : (Play.identities known == Play.identities (h.ordered fetched)) = true)
    (now : Instant) :
    ∃ finding : Finding, finding.plays = [] ∧ finding.accepted = false
      ∧ h.evaluate fetched now = .ok finding { h with observedAt := some now } := by
  have hcandidate : ∀ p ∈ h.ordered fetched, p.Typed := fun p hp => htyped p (mem_ordered.mp hp)
  have hlook := evaluate_of_diff htyped hknown
    (ListDiff.ofPlays?_of_typed hold hcandidate false) now
  rw [if_pos (outcome_ofKeys_eq_equal_iff.mpr halike)] at hlook
  exact ⟨_, rfl, rfl, hlook⟩

variable (hother : (Play.identities known == Play.identities (h.ordered fetched)) = false)
include hother

/-- **A look at another list** goes on if it is none of those remembered. -/
theorem evaluate_of_other (now : Instant) :
    h.evaluate fetched now
      = if h.isEarlier (Play.identities (h.ordered fetched)) then
          .ok
            ⟨[], false, false, .none, none,
              some "History is identical to an earlier snapshot, upstream returned stale data",
              (ListDiff.ofKeys (Play.identities known)
                (Play.identities (h.ordered fetched))).entries⟩ h
        else h.changed known (h.ordered fetched)
          (ListDiff.ofKeys (Play.identities known) (Play.identities (h.ordered fetched)))
          now := by
  have hcandidate : ∀ p ∈ h.ordered fetched, p.Typed := fun p hp => htyped p (mem_ordered.mp hp)
  have hdiffers : (ListDiff.ofKeys (Play.identities known)
      (Play.identities (h.ordered fetched))).outcome ≠ .equal := by
    rw [Ne, outcome_ofKeys_eq_equal_iff, hother]
    exact Bool.false_ne_true
  rw [evaluate_of_diff htyped hknown (ListDiff.ofPlays?_of_typed hold hcandidate false) now,
    if_neg hdiffers]

/-- A look goes on at a list that is neither the known one nor one of those
remembered. -/
theorem evaluate_of_changed
    (hunseen : h.isEarlier (Play.identities (h.ordered fetched)) = false) (now : Instant) :
    h.evaluate fetched now
      = h.changed known (h.ordered fetched)
        (ListDiff.ofKeys (Play.identities known) (Play.identities (h.ordered fetched))) now := by
  rw [evaluate_of_other hknown hold htyped hother, hunseen, if_neg Bool.false_ne_true]

end Fetched

/-- What has been added to a list is part of it. -/
theorem mem_of_mem_plays_growth {growth : Growth} {p : Play} (hp : p ∈ growth.plays candidate) :
    p ∈ candidate := by
  cases growth with
  | none => exact absurd hp List.not_mem_nil
  | insert => exact absurd hp List.not_mem_nil
  | prepend count => exact List.mem_of_mem_take hp
  | append count => exact List.mem_of_mem_drop hp

/-- What has been added to a typed list is typed. -/
theorem typed_plays_growth (hcandidate : ∀ p ∈ candidate, p.Typed) (growth : Growth) :
    ∀ p ∈ growth.plays candidate, p.Typed :=
  fun p hp => hcandidate p (mem_of_mem_plays_growth hp)

/-- **Plays added at one end** are accepted, and of those on top the first is
new. -/
theorem exists_grown (hcandidate : ∀ p ∈ candidate, p.Typed)
    (hclock : ∀ t, h.observedAt = some t → Instant.comparable now t = true) (growth : Growth)
    (entries : List ListDiff.Entry) :
    ∃ finding, h.grown growth entries candidate now
        = .ok finding (h.afterAccepting candidate now)
      ∧ (growth.isPrepend = true → finding.consistent = true
        ∧ finding.plays.head? = (growth.plays candidate).head?.map (stamp now)) := by
  unfold grown
  by_cases hontop : growth.isPrepend = true
  · obtain ⟨plays, hplays, hnewest⟩ :=
      exists_unskipped? (typed_plays_growth hcandidate growth) hclock
    rw [if_pos hontop]
    simp only [hplays, Step.of, Step.andThen, accept_of_typed h hcandidate now, Step.ok]
    exact ⟨_, rfl, fun _ => ⟨rfl, by rw [List.head?_map, hnewest]⟩⟩
  · rw [if_neg hontop, accept_of_typed h hcandidate now]
    exact ⟨_, rfl, fun he => absurd he hontop⟩

/-- **A play moved to an end** is accepted, and on top it is new. -/
theorem exists_bumped (hcandidate : ∀ p ∈ candidate, p.Typed) (bump : Bump)
    (entries : List ListDiff.Entry) (now : Instant) :
    ∃ finding, h.bumped bump entries candidate now
        = .ok finding (h.afterAccepting candidate now)
      ∧ (bump = .toTop → finding.consistent = true
        ∧ finding.plays.head? = candidate.head?.map (stamp now)) := by
  unfold bumped
  rw [accept_of_typed h hcandidate now, Step.andThen_ok]
  by_cases htop : bump = .toTop
  · rw [if_pos htop]
    refine ⟨_, rfl, fun _ => ⟨rfl, ?_⟩⟩
    rw [htop]
    cases candidate <;> rfl
  · rw [if_neg htop]
    exact ⟨_, rfl, fun he => absurd he htop⟩

/-- A list that is out of order is accepted, unless plays are missing. -/
theorem exists_jumbled (hcandidate : ∀ p ∈ candidate, p.Typed) (d : ListDiff) (now : Instant) :
    ∃ finding, h.jumbled d false candidate now
      = .ok finding (h.afterAccepting candidate now) := by
  unfold jumbled
  rw [if_neg Bool.false_ne_true, accept_of_typed h hcandidate now]
  exact ⟨_, rfl⟩

/-- **A list no shorter than the known one is accepted**, whatever has become
of it; and if plays were added on top, or nothing was added and one was moved
there, the first play is new. -/
theorem changed_of_length_le (hknown : ∀ p ∈ known, p.Typed)
    (hcandidate : ∀ p ∈ candidate, p.Typed) (hlength : known.length ≤ candidate.length)
    (hclock : ∀ t, h.observedAt = some t → Instant.comparable now t = true) (d : ListDiff) :
    ∃ finding, h.changed known candidate d now
        = .ok finding (h.afterAccepting candidate now)
      ∧ ((∃ count, Growth.ofKeys (Play.identities known) (Play.identities candidate)
              = .prepend (count + 1))
          ∨ Growth.ofKeys (Play.identities known) (Play.identities candidate) = .none
            ∧ Bump.ofKeys (Play.identities known) (Play.identities candidate) = .toTop →
        finding.consistent = true
          ∧ finding.plays.head? = candidate.head?.map (stamp now)) := by
  have hcond :
      ¬ (decide (candidate.length < known.length) && !d.entries.any (·.isAdded)) = true := by
    rw [decide_eq_false (Nat.not_lt_of_le hlength)]
    exact Bool.false_ne_true
  unfold changed
  rw [if_neg hcond, Growth.ofPlays?_of_typed hknown hcandidate,
    Bump.ofPlays?_of_typed hknown hcandidate]
  simp only [Step.of, Step.andThen]
  generalize Growth.ofKeys (Play.identities known) (Play.identities candidate) = growth
  generalize Bump.ofKeys (Play.identities known) (Play.identities candidate) = bump
  by_cases hclean : growth.isClean = true
  · obtain ⟨finding, hgrown, hfound⟩ := exists_grown hcandidate hclock growth d.entries
    refine ⟨finding, (if_pos hclean).trans hgrown, ?_⟩
    rintro (⟨count, rfl⟩ | ⟨rfl, -⟩)
    · obtain ⟨hconsistent, hplays⟩ := hfound rfl
      exact ⟨hconsistent, by rw [hplays]; cases candidate <;> rfl⟩
    · exact absurd hclean Bool.false_ne_true
  · by_cases hmoved : bump ≠ .none
    · obtain ⟨finding, hbumped, hfound⟩ := exists_bumped (h := h) hcandidate bump d.entries now
      refine ⟨finding, (if_neg hclean).trans ((if_pos hmoved).trans hbumped), ?_⟩
      rintro (⟨count, rfl⟩ | ⟨-, htop⟩)
      · exact absurd rfl hclean
      · exact hfound htop
    · obtain ⟨finding, hjumbled⟩ := exists_jumbled (h := h) hcandidate d now
      rw [decide_eq_false (Nat.not_lt_of_le hlength)]
      refine ⟨finding, (if_neg hclean).trans ((if_neg hmoved).trans hjumbled), ?_⟩
      rintro (⟨count, rfl⟩ | ⟨-, rfl⟩)
      · exact absurd rfl hclean
      · exact absurd (fun e => nomatch e) hmoved

end Looks

end Listening.History
