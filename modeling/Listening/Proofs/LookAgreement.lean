import Listening.Proofs.ListEvaluation

/-!
# What a look depends on

Of the plays it knows, a history only sees what they are plays of: two histories
that know plays of the same tracks (`Play.SameTracks`) and take the same look
find the same, and the same becomes of what they know. `History.Agree` says so
for every way a look may end, and `History.agree_evaluate` for the look itself,
with two conditions. The histories must drop the same plays as skipped, which
also depends on the time of the last look; and they must agree about whether
the list is an earlier one, which depends on what else they remember. Taken
with itself, a history agrees with no condition: this is what a look may do to
a history that need not have been built by looking.
-/

namespace Listening

/-! ## Lists of the same tracks -/

/-- **Two lists of plays of the same tracks**, one by one: the plays have the
same identities, and are the same labels of an index. -/
structure Play.SameTracks (ps qs : List Play) : Prop where
  /-- The identities are the same. -/
  identities : ps.map Play.identity? = qs.map Play.identity?
  /-- So are the labels. -/
  labels : ps.map Play.label? = qs.map Play.label?

section SameTracks

variable {ps qs : List Play}

theorem Play.SameTracks.refl (ps : List Play) : Play.SameTracks ps ps := ⟨rfl, rfl⟩

theorem Play.SameTracks.symm (h : Play.SameTracks ps qs) : Play.SameTracks qs ps :=
  ⟨h.identities.symm, h.labels.symm⟩

theorem Play.SameTracks.length_eq (h : Play.SameTracks ps qs) : ps.length = qs.length := by
  have := congrArg List.length h.labels
  rwa [List.length_map, List.length_map] at this

theorem Play.SameTracks.isEmpty_eq (h : Play.SameTracks ps qs) : ps.isEmpty = qs.isEmpty := by
  have := congrArg List.isEmpty h.labels
  rwa [List.isEmpty_map, List.isEmpty_map] at this

theorem Play.SameTracks.reverse (h : Play.SameTracks ps qs) :
    Play.SameTracks ps.reverse qs.reverse := by
  refine ⟨?_, ?_⟩
  · rw [List.map_reverse, h.identities, ← List.map_reverse]
  · rw [List.map_reverse, h.labels, ← List.map_reverse]

/-- **The difference to another list** is the same. -/
theorem ListDiff.ofPlays?_congr (h : Play.SameTracks ps qs) (new : List Play) (fromEnd : Bool) :
    ListDiff.ofPlays? ps new fromEnd = ListDiff.ofPlays? qs new fromEnd := by
  have hunits : ps.map (fun _ => ()) = qs.map fun _ => () := by
    rw [List.map_const', List.map_const', h.length_eq]
  unfold ListDiff.ofPlays?
  rw [h.isEmpty_eq, hunits, mapM_congr h.labels]

/-- How another list has grown is the same. -/
theorem Growth.ofPlays?_congr (h : Play.SameTracks ps qs) (new : List Play) :
    Growth.ofPlays? ps new = Growth.ofPlays? qs new := by
  unfold Growth.ofPlays?
  rw [ListDiff.ofPlays?_congr h, ListDiff.ofPlays?_congr h]

/-- Whether one play was moved is the same. -/
theorem Bump.ofPlays?_congr (h : Play.SameTracks ps qs) (new : List Play) :
    Bump.ofPlays? ps new = Bump.ofPlays? qs new := by
  unfold Bump.ofPlays?
  rw [h.length_eq, h.isEmpty_eq, ListDiff.ofPlays?_congr h]

end SameTracks

namespace History

variable {h k : History} {known known' candidate fetched : List Play} {now : Instant}

/-! ## Why a look fails -/

/-- **Why a look at typed plays fails**: what is known is not typed, or the
time cannot be compared with that of the last look. -/
inductive Obstructed (h : History) (now : Instant) : Prop where
  /-- A play that is known is not typed. -/
  | known (known : List Play) (isKnown : h.known = some known) (untyped : ¬ ∀ p ∈ known, p.Typed)
  /-- The times cannot be compared. -/
  | clock (t : Instant) (observed : h.observedAt = some t)
      (incomparable : Instant.comparable now t = false)

/-- **What becomes of two histories** that take one look each: both fail, both
keep what they know, or both accept the list; and they find the same. -/
inductive Agree (candidate : List Play) (now : Instant) (h k : History) :
    Step History Finding → Step History Finding → Prop where
  /-- Both fail. -/
  | failed (e : Fault) (why : Obstructed h now) : Agree candidate now h k (.fail e h) (.fail e k)
  /-- Nothing changes. -/
  | left (finding : Finding) (kept : finding.accepted = false) :
      Agree candidate now h k (.ok finding h) (.ok finding k)
  /-- The time is noted down. -/
  | noted (finding : Finding) (kept : finding.accepted = false) :
      Agree candidate now h k (.ok finding { h with observedAt := some now })
        (.ok finding { k with observedAt := some now })
  /-- The list is accepted. -/
  | accepted (finding : Finding) (taken : finding.accepted = true) :
      Agree candidate now h k (.ok finding (h.afterAccepting candidate now))
        (.ok finding (k.afterAccepting candidate now))

section Agree

variable (hcandidate : ∀ p ∈ candidate, p.Typed)
include hcandidate

/-- **A clean addition** is accepted by both, unless the first cannot tell the
time since its last look. -/
theorem agree_grown {growth : Growth}
    (hskipped : k.unskipped? (growth.plays candidate) now
      = h.unskipped? (growth.plays candidate) now) (entries : List ListDiff.Entry) :
    Agree candidate now h k (h.grown growth entries candidate now)
      (k.grown growth entries candidate now) := by
  unfold grown
  by_cases hontop : growth.isPrepend = true
  · rw [if_pos hontop, if_pos hontop, hskipped]
    cases hplays : h.unskipped? (growth.plays candidate) now with
    | ok plays =>
      simp only [Step.of_ok, Step.andThen_ok, accept_of_typed _ hcandidate]
      exact .accepted _ rfl
    | error e =>
      refine .failed e ?_
      by_contra hclear
      obtain ⟨plays, hplays', -⟩ := exists_unskipped? (typed_plays_growth hcandidate growth)
        (fun t ht => (Bool.not_eq_false _).mp fun he => hclear (.clock t ht he))
      exact nomatch hplays.symm.trans hplays'
  · rw [if_neg hontop, if_neg hontop]
    simp only [accept_of_typed _ hcandidate, Step.andThen_ok]
    exact .accepted _ rfl

/-- A single move is accepted by both. -/
theorem agree_bumped (bump : Bump) (entries : List ListDiff.Entry) (now : Instant) :
    Agree candidate now h k (h.bumped bump entries candidate now)
      (k.bumped bump entries candidate now) := by
  unfold bumped
  simp only [accept_of_typed _ hcandidate, Step.andThen_ok]
  split <;> exact .accepted _ rfl

/-- A list that is out of order is accepted by both, unless plays are missing.
-/
theorem agree_jumbled (d : ListDiff) (shrunk : Bool) (now : Instant) :
    Agree candidate now h k (h.jumbled d shrunk candidate now)
      (k.jumbled d shrunk candidate now) := by
  cases shrunk with
  | true => exact .left _ rfl
  | false =>
    unfold jumbled
    simp only [Bool.false_eq_true, if_false, accept_of_typed _ hcandidate, Step.andThen_ok]
    exact .accepted _ rfl

/-- **A list that differs from what is known** has the same end for both. -/
theorem agree_changed (hknown : h.known = some known) (hsame : Play.SameTracks known known')
    (hskipped : ∀ growth : Growth, k.unskipped? (growth.plays candidate) now
      = h.unskipped? (growth.plays candidate) now) (d : ListDiff) :
    Agree candidate now h k (h.changed known candidate d now)
      (k.changed known' candidate d now) := by
  unfold changed
  dsimp only
  rw [← hsame.length_eq, ← Growth.ofPlays?_congr hsame, ← Bump.ofPlays?_congr hsame]
  split
  · exact .left _ rfl
  · cases hgrowth : Growth.ofPlays? known candidate with
    | error e =>
      refine .failed e (.known known hknown fun htyped => ?_)
      exact nomatch hgrowth.symm.trans (Growth.ofPlays?_of_typed htyped hcandidate)
    | ok growth =>
      simp only [Step.of_ok, Step.andThen_ok]
      split
      · exact agree_grown hcandidate (hskipped growth) d.entries
      · cases hbump : Bump.ofPlays? known candidate with
        | error e =>
          refine .failed e (.known known hknown fun htyped => ?_)
          exact nomatch hbump.symm.trans (Bump.ofPlays?_of_typed htyped hcandidate)
        | ok bump =>
          simp only [Step.of_ok, Step.andThen_ok]
          split
          · exact agree_bumped hcandidate bump d.entries now
          · exact agree_jumbled hcandidate d _ now

end Agree

/-! ## Stale lists -/

/-- **A look that reports a stale list.** -/
def ReportsStale (h : History) (fetched : List Play) (now : Instant) : Prop :=
  (h.evaluate fetched now).result.toOption.bind Finding.reason
    = some "History is identical to an earlier snapshot, upstream returned stale data"

instance (h : History) (fetched : List Play) (now : Instant) :
    Decidable (h.ReportsStale fetched now) :=
  inferInstanceAs (Decidable (_ = _))

section Evaluate

variable (hfetched : ∀ p ∈ fetched, p.Typed)
include hfetched

/-- **The first list** is accepted and brings nothing. -/
theorem exists_evaluate_of_unknown (hknown : h.known = none) (now : Instant) :
    ∃ finding, h.evaluate fetched now = .ok finding (h.afterAccepting (h.ordered fetched) now)
      ∧ finding.accepted = true ∧ finding.plays = [] := by
  have hcandidate : ∀ p ∈ h.ordered fetched, p.Typed :=
    fun p hp => hfetched p (mem_ordered.mp hp)
  unfold evaluate
  simp only [hknown, accept_of_typed _ hcandidate, Step.andThen_ok]
  exact ⟨_, rfl, rfl, rfl⟩

/-- **Two histories that know plays of the same tracks** agree, if they do about
the plays that were skipped, and about whether the list is an earlier one – or
the first does not say so. -/
theorem agree_evaluate (hnewest : k.newestFirst = h.newestFirst) (now : Instant)
    (hh : h.known = some known) (hk : k.known = some known')
    (hsame : Play.SameTracks known known')
    (hskipped : ∀ growth : Growth, k.unskipped? (growth.plays (h.ordered fetched)) now
      = h.unskipped? (growth.plays (h.ordered fetched)) now)
    (hearlier : k.isEarlier (Play.identities (h.ordered fetched))
        = h.isEarlier (Play.identities (h.ordered fetched))
      ∨ ¬ h.ReportsStale fetched now
        ∧ (k.isEarlier (Play.identities (h.ordered fetched)) = true
          → h.isEarlier (Play.identities (h.ordered fetched)) = true)) :
    Agree (h.ordered fetched) now h k (h.evaluate fetched now) (k.evaluate fetched now) := by
  have hcandidate : ∀ p ∈ h.ordered fetched, p.Typed :=
    fun p hp => hfetched p (mem_ordered.mp hp)
  have hordered : k.ordered fetched = h.ordered fetched := by
    rw [ordered, hnewest]
    rfl
  cases hd : ListDiff.ofPlays? known (h.ordered fetched) with
  | error e =>
    have hh' : h.evaluate fetched now = .fail e h := by
      unfold evaluate
      simp only [hh, hd]
      rfl
    have hk' : k.evaluate fetched now = .fail e k := by
      unfold evaluate
      simp only [hk, hordered, ← ListDiff.ofPlays?_congr hsame, hd]
      rfl
    rw [hh', hk']
    refine .failed e (.known known hh fun htyped => ?_)
    exact nomatch hd.symm.trans (ListDiff.ofPlays?_of_typed htyped hcandidate false)
  | ok d =>
    have hd' : ListDiff.ofPlays? known' (k.ordered fetched) = .ok d := by
      rw [hordered, ← ListDiff.ofPlays?_congr hsame, hd]
    have hlook := evaluate_of_diff hfetched hh hd now
    rw [hlook, evaluate_of_diff hfetched hk hd' now, hordered]
    by_cases hequal : d.outcome = .equal
    · rw [if_pos hequal, if_pos hequal]
      exact .noted _ rfl
    · rw [if_neg hequal, if_neg hequal]
      rw [if_neg hequal] at hlook
      by_cases hstale : h.isEarlier (Play.identities (h.ordered fetched)) = true
      · rw [if_pos hstale] at hlook
        rcases hearlier with he | ⟨hsilent, -⟩
        · rw [if_pos hstale, if_pos (he.trans hstale)]
          exact .left _ rfl
        · refine absurd ?_ hsilent
          unfold ReportsStale
          rw [hlook]
          rfl
      · have hstale' : ¬ k.isEarlier (Play.identities (h.ordered fetched)) = true := fun he =>
          hstale (hearlier.elim (fun heq => heq.symm.trans he) fun hsilent => hsilent.2 he)
        rw [if_neg hstale, if_neg hstale']
        exact agree_changed hcandidate hh hsame hskipped d

end Evaluate

end History
end Listening
