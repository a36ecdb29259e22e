import Listening.Proofs.KeptLists

/-!
# Restarts

A follower that is begun anew with the file of another knows plays of the same
tracks. It does not know the same plays, it remembers only the last list, it
last looked at another time, and of an empty list it knows nothing at all.
Does any of this show? `History.InStep` is the relation between the two
histories. What one remembers in addition only matters where it says that a
list is stale; the time of the last look only matters for plays with a length;
and a list that follows an empty one brings nothing, be the empty one known or
not. So a look at plays without a length that is not reported to be stale
brings the same to both and leaves them in step (`InStep.evaluate`), and so do
all that follow: a restart loses nothing (`Follower.restart_loses_nothing`).
-/

namespace Listening

/-! ## The last items -/

namespace Window

/-- The last items of a row that ends another are the last ones of that, too. -/
theorem lastOf_suffix {α : Type} {as bs : List α} (h : as <:+ bs) (count : Nat) :
    lastOf count as <:+ lastOf count bs := by
  obtain ⟨front, rfl⟩ := h
  unfold lastOf
  rw [List.length_append, List.drop_append]
  exact ⟨_, congrArg _ (congrArg (List.drop · as) (by omega))⟩

end Window

/-! ## An empty list that is known -/

/-- What differs from an empty list has not been updated. -/
theorem ListDiff.outcome_ofKeys_nil {κ : Type} [BEq κ] (new : List κ) (fromEnd : Bool) :
    (ListDiff.ofKeys [] new fromEnd).outcome ≠ .updated := by
  unfold ListDiff.ofKeys
  dsimp only
  split
  · exact fun e => nomatch e
  · exact fun e => nomatch e

/-- Nothing has grown out of an empty list. -/
theorem Growth.ofPlays?_nil (new : List Play) : Growth.ofPlays? [] new = .ok .none := by
  have hdiff : ∀ fromEnd, ListDiff.ofPlays? [] new fromEnd
      = .ok (ListDiff.ofKeys [] (new.map fun _ => ()) fromEnd) := fun _ => rfl
  have hnone : ∀ fromEnd, ofDiff (ListDiff.ofKeys [] (new.map fun _ => ()) fromEnd) new.length
      = .none := by
    intro fromEnd
    unfold ofDiff
    rw [if_pos]
    rw [Bool.or_eq_true, decide_eq_true_iff]
    exact Or.inl (ListDiff.outcome_ofKeys_nil _ fromEnd)
  unfold Growth.ofPlays?
  rw [hdiff, hdiff]
  simp only [Bind.bind, Except.bind, hnone]
  rfl

/-- Nothing in an empty list was moved. -/
theorem Bump.ofPlays?_nil (new : List Play) : Bump.ofPlays? [] new = .ok .none :=
  if_pos (Or.inr rfl)

namespace History

variable {h k : History} {fetched : List Play} {now : Instant}

/-- A list that differs from an empty one is out of order. -/
theorem changed_of_empty (candidate : List Play) (d : ListDiff) (now : Instant) :
    h.changed [] candidate d now = h.jumbled d false candidate now := by
  have hlonger : ¬ candidate.length < ([] : List Play).length := Nat.not_lt_zero _
  unfold changed
  rw [decide_eq_false hlonger, Growth.ofPlays?_nil, Bump.ofPlays?_nil]
  rfl

/-- **To a history that knows an empty list**, any other one is out of order. -/
theorem evaluate_of_empty (hknown : h.known = some []) (hfetched : ∀ p ∈ fetched, p.Typed)
    (hfresh : ¬ h.ReportsStale fetched now) :
    ∃ finding, finding.plays = []
      ∧ (h.ordered fetched = []
          ∧ h.evaluate fetched now = .ok finding { h with observedAt := some now }
        ∨ h.evaluate fetched now
          = .ok finding (h.afterAccepting (h.ordered fetched) now)) := by
  have hcandidate : ∀ p ∈ h.ordered fetched, p.Typed :=
    fun p hp => hfetched p (mem_ordered.mp hp)
  obtain ⟨d, hd⟩ : ∃ d, d = ListDiff.ofKeys (Play.identities [])
      (Play.identities (h.ordered fetched)) := ⟨_, rfl⟩
  have hdiff : ListDiff.ofPlays? [] (h.ordered fetched) = .ok d := by
    rw [hd]
    exact ListDiff.ofPlays?_of_typed (fun p hp => absurd hp List.not_mem_nil) hcandidate false
  have hlook := evaluate_of_diff hfetched hknown hdiff now
  by_cases hequal : d.outcome = .equal
  · rw [if_pos hequal] at hlook
    refine ⟨_, ?_, Or.inl ⟨?_, hlook⟩⟩
    · rfl
    · rw [hd, outcome_ofKeys_eq_equal_iff, beq_identities_iff] at hequal
      exact List.map_eq_nil_iff.mp hequal.1.symm
  · rw [if_neg hequal] at hlook
    by_cases hstale : h.isEarlier (Play.identities (h.ordered fetched)) = true
    · rw [if_pos hstale] at hlook
      refine absurd ?_ hfresh
      unfold ReportsStale
      rw [hlook]
      rfl
    · rw [if_neg hstale] at hlook
      obtain ⟨finding, hnothing, hjumbled⟩ : ∃ finding : Finding, finding.plays = []
          ∧ h.jumbled d false (h.ordered fetched) now
            = .ok finding (h.afterAccepting (h.ordered fetched) now) := by
        unfold jumbled
        rw [if_neg Bool.false_ne_true, accept_of_typed h hcandidate now]
        refine ⟨_, ?_, rfl⟩
        rfl
      refine ⟨finding, hnothing, Or.inr ?_⟩
      rw [hlook, changed_of_empty, hjumbled]

/-! ## Two histories in step -/

/-- **What two histories know alike**: plays of the same tracks, or nothing, or
the first one an empty list and the second nothing. -/
inductive KnowsAlike (h k : History) : Prop where
  /-- Plays of the same tracks. -/
  | both (known known' : List Play) (first : h.known = some known)
    (second : k.known = some known')
      (same : Play.SameTracks known known')
  /-- Nothing. -/
  | neither (first : h.known = none) (second : k.known = none)
  /-- An empty list is remembered, but not restored. -/
  | empty (first : h.known = some []) (seen : [[]] <:+ h.seen) (second : k.known = none)
      (unseen : k.seen = [])

/-- **Two histories in step**, the second of which may remember less. -/
structure InStep (h k : History) : Prop where
  /-- They read lists alike. -/
  newestFirst : k.newestFirst = h.newestFirst
  /-- They remember as many of them. -/
  memory : k.memory = h.memory
  /-- They know plays of the same tracks. -/
  known : KnowsAlike h k
  /-- What the second remembers, the first remembers last. -/
  seen : k.seen <:+ h.seen
  /-- The first looked at a time with an offset. -/
  observed : ∀ t, h.observedAt = some t → t.offset.isSome = true
  /-- So did the second. -/
  observed' : ∀ t, k.observedAt = some t → t.offset.isSome = true

/-- **Two histories in step still are** when both have accepted a list. -/
theorem InStep.afterAccepting (hs : InStep h k) (candidate : List Play)
    (hclock : now.offset.isSome = true) :
    InStep (h.afterAccepting candidate now) (k.afterAccepting candidate now) where
  newestFirst := hs.newestFirst
  memory := hs.memory
  known := .both candidate candidate rfl rfl (.refl candidate)
  seen := by
    have hcapacity : k.capacity = h.capacity := by
      unfold capacity
      rw [hs.memory]
    show Window.lastOf k.capacity _ <:+ Window.lastOf h.capacity _
    rw [hcapacity]
    obtain ⟨front, hfront⟩ := hs.seen
    refine Window.lastOf_suffix ⟨front, ?_⟩ h.capacity
    rw [← hfront, List.append_assoc]
  observed := fun _ ht => Option.some.inj ht ▸ hclock
  observed' := fun _ ht => Option.some.inj ht ▸ hclock

/-- Two histories in step still are when both have noted down the time. -/
theorem InStep.observe (hs : InStep h k) (hclock : now.offset.isSome = true) :
    InStep { h with observedAt := some now } { k with observedAt := some now } where
  newestFirst := hs.newestFirst
  memory := hs.memory
  known := by
    cases hs.known with
    | both known known' first second same => exact .both known known' first second same
    | neither first second => exact .neither first second
    | empty first seen second unseen => exact .empty first seen second unseen
  seen := hs.seen
  observed := fun _ ht => Option.some.inj ht ▸ hclock
  observed' := fun _ ht => Option.some.inj ht ▸ hclock

/-- The first has seen its empty list once more, and the second has accepted
it. -/
theorem InStep.ofEmpty (hs : InStep h k) (first : h.known = some []) (seen : [[]] <:+ h.seen)
    (unseen : k.seen = []) (hclock : now.offset.isSome = true) :
    InStep { h with observedAt := some now } (k.afterAccepting [] now) where
  newestFirst := hs.newestFirst
  memory := hs.memory
  known := .both [] [] first rfl (.refl [])
  seen := by
    show Window.lastOf k.capacity (k.seen ++ [[]]) <:+ h.seen
    rw [unseen, List.nil_append, Window.lastOf_singleton k.capacity_pos]
    exact seen
  observed := fun _ ht => Option.some.inj ht ▸ hclock
  observed' := fun _ ht => Option.some.inj ht ▸ hclock

/-- A list that is no earlier one for the first is none for the second. -/
theorem InStep.isEarlier_of (hs : InStep h k) {signature : Signature}
    (hearlier : k.isEarlier signature = true) : h.isEarlier signature = true := by
  unfold isEarlier at hearlier ⊢
  rw [List.contains_iff_exists_mem_beq] at hearlier ⊢
  obtain ⟨earlier, hmem, hbeq⟩ := hearlier
  obtain ⟨front, hfront⟩ := hs.seen
  refine ⟨earlier, ?_, hbeq⟩
  rw [← hfront, List.dropLast_append]
  split
  · rename_i hempty
    rw [List.isEmpty_iff.mp hempty] at hmem
    exact absurd hmem List.not_mem_nil
  · exact List.mem_append_right _ hmem

/-- Plays without a length are all kept by both. -/
theorem InStep.unskipped?_eq (hs : InStep h k) {added : List Play}
    (hlengthless : ∀ p ∈ added, p.duration = .absent) (hclock : now.offset.isSome = true) :
    k.unskipped? added now = h.unskipped? added now := by
  have hcomparable : ∀ {t : Instant}, t.offset.isSome = true →
      Instant.comparable now t = true := by
    intro t ht
    unfold Instant.comparable
    rw [hclock, ht]
    rfl
  rw [unskipped?_of_lengthless hlengthless fun t ht => hcomparable (hs.observed t ht),
    unskipped?_of_lengthless hlengthless fun t ht => hcomparable (hs.observed' t ht)]

/-- **Histories that agree stay in step**, and find the same. -/
theorem InStep.of_agree (hs : InStep h k) (hclock : now.offset.isSome = true)
    {candidate : List Play} {a b : Step History Finding} (hagree : Agree candidate now h k a b) :
    InStep a.state b.state ∧ b.result.map Finding.plays = a.result.map Finding.plays := by
  cases hagree with
  | failed e why => exact ⟨hs, rfl⟩
  | left finding kept => exact ⟨hs, rfl⟩
  | noted finding kept => exact ⟨hs.observe hclock, rfl⟩
  | accepted finding taken => exact ⟨hs.afterAccepting candidate hclock, rfl⟩

/-- **A look keeps two histories in step**, and brings the same to both, if the
plays have no length and the first does not report a stale list. -/
theorem InStep.evaluate (hs : InStep h k) (hfetched : ∀ p ∈ fetched, p.Typed)
    (hlengthless : ∀ p ∈ fetched, p.duration = .absent) (hclock : now.offset.isSome = true)
    (hfresh : ¬ h.ReportsStale fetched now) :
    InStep (h.evaluate fetched now).state (k.evaluate fetched now).state
      ∧ (k.evaluate fetched now).result.map Finding.plays
        = (h.evaluate fetched now).result.map Finding.plays := by
  have hordered : k.ordered fetched = h.ordered fetched := by
    unfold ordered
    rw [hs.newestFirst]
  have hadded : ∀ growth : Growth, ∀ p ∈ growth.plays (h.ordered fetched),
      p.duration = .absent :=
    fun growth p hp => hlengthless p (mem_ordered.mp (mem_of_mem_plays_growth hp))
  cases hs.known with
  | both known known' first second same =>
    -- only here does it matter what else is remembered and when the last look was
    exact hs.of_agree hclock (agree_evaluate hfetched hs.newestFirst now first second same
      (fun growth => hs.unskipped?_eq (hadded growth) hclock)
      (Or.inr ⟨hfresh, hs.isEarlier_of⟩))
  | neither first second =>
    obtain ⟨finding, hlook, -, hnothing⟩ := exists_evaluate_of_unknown hfetched first now
    obtain ⟨finding', hlook', -, hnothing'⟩ := exists_evaluate_of_unknown hfetched second now
    rw [hlook, hlook', hordered]
    refine ⟨hs.afterAccepting _ hclock, ?_⟩
    show Except.ok finding'.plays = Except.ok finding.plays
    rw [hnothing, hnothing']
  | empty first seen second unseen =>
    obtain ⟨finding, hnothing, hlook⟩ := evaluate_of_empty first hfetched hfresh
    obtain ⟨finding', hlook', -, hnothing'⟩ := exists_evaluate_of_unknown hfetched second now
    have hsame : Except.ok finding'.plays = (Except.ok finding.plays : Except Fault _) := by
      rw [hnothing, hnothing']
    -- seen once more, the empty list is like the known one to the first and new to the second
    rcases hlook with ⟨hempty, hlook⟩ | hlook
    · rw [hlook, hlook', hordered, hempty]
      exact ⟨hs.ofEmpty first seen unseen hclock, hsame⟩
    · rw [hlook, hlook', hordered]
      exact ⟨hs.afterAccepting _ hclock, hsame⟩

/-! ## Looks that do not fail -/

/-- **A history that no look at typed plays fails for.** -/
structure Clear (h : History) : Prop where
  /-- What it knows is typed. -/
  typed : ∀ known, h.known = some known → ∀ p ∈ known, p.Typed
  /-- It looked at a time with an offset. -/
  observed : ∀ t, h.observedAt = some t → t.offset.isSome = true

/-- A list of typed plays that is accepted is typed. -/
theorem Clear.afterAccepting (h : History) (hfetched : ∀ p ∈ fetched, p.Typed)
    (hclock : now.offset.isSome = true) : Clear (h.afterAccepting (h.ordered fetched) now) where
  typed := fun known hknown p hp => by
    obtain rfl := Option.some.inj hknown
    exact hfetched p (mem_ordered.mp hp)
  observed := fun _ ht => Option.some.inj ht ▸ hclock

/-- **Every look at typed plays ends**, and so will the next one. -/
theorem Clear.evaluate (hc : Clear h) (hfetched : ∀ p ∈ fetched, p.Typed)
    (hclock : now.offset.isSome = true) :
    ∃ finding h', h.evaluate fetched now = .ok finding h' ∧ Clear h' := by
  have haccepted := Clear.afterAccepting h hfetched hclock
  cases hknown : h.known with
  | none =>
    obtain ⟨finding, hlook, -, -⟩ := exists_evaluate_of_unknown hfetched hknown now
    exact ⟨finding, _, hlook, haccepted⟩
  | some known =>
    have hagree := agree_evaluate hfetched rfl now hknown hknown (.refl known)
      (fun _ => rfl) (Or.inl rfl)
    generalize h.evaluate fetched now = look at hagree
    cases hagree with
    | failed e why =>
      cases why with
      | known known' isKnown untyped => exact absurd (hc.typed known' isKnown) untyped
      | clock t observed incomparable =>
        unfold Instant.comparable at incomparable
        rw [hclock, hc.observed t observed] at incomparable
        exact nomatch incomparable
    | left finding kept => exact ⟨finding, h, rfl, hc⟩
    | noted finding kept =>
      exact ⟨finding, _, rfl, hc.typed, fun _ ht => Option.some.inj ht ▸ hclock⟩
    | accepted finding taken => exact ⟨finding, _, rfl, haccepted⟩

end History

namespace Follower

open History (signature? InStep)

/-- **What looks deliver**, one after the other: the new listens, or a fault. -/
def deliveries : List (List Play × Instant) → Follower → List (Except Fault (List Play))
  | [], _ => []
  | row :: rows, f =>
    (f.process row.1 row.2).result :: deliveries rows (f.process row.1 row.2).state

/-- What a look delivers are the plays that were found, and the history is as
the look leaves it. -/
theorem process_eq (f : Follower) (plays : List Play) (now : Instant) :
    (f.process plays now).result
        = (f.history.evaluate plays now).result.map History.Finding.plays
      ∧ (f.process plays now).state.history = (f.history.evaluate plays now).state := by
  obtain ⟨result, h', hlook⟩ : ∃ result h', f.history.evaluate plays now = ⟨result, h'⟩ :=
    ⟨_, _, rfl⟩
  rw [hlook]
  cases result with
  | ok finding =>
    rw [process_of_ok hlook]
    exact ⟨rfl, rfl⟩
  | error e =>
    rw [process_of_fail hlook]
    exact ⟨rfl, rfl⟩

/-- Saving leaves the history as it is. -/
theorem history_save {ω : Type} (f : Follower) (write : Path → String → ω → ω) (outside : ω) :
    (f.save write outside).1.history = f.history := by
  unfold save
  cases f.file <;> rfl

/-- **A run of looks that never reports a stale list.** -/
def NeverStale : List (List Play × Instant) → Follower → Prop
  | [], _ => True
  | row :: rows, f =>
    ¬ f.history.ReportsStale row.1 row.2 ∧ NeverStale rows (f.process row.1 row.2).state

instance decidableNeverStale :
    (rows : List (List Play × Instant)) → (f : Follower) → Decidable (NeverStale rows f)
  | [], _ => isTrue trivial
  | row :: rows, f =>
    have := decidableNeverStale rows (f.process row.1 row.2).state
    inferInstanceAs (Decidable (_ ∧ _))

/-- **Followers in step deliver the same**, look by look. -/
theorem deliveries_eq {f g : Follower} (hs : InStep f.history g.history)
    {rows : List (List Play × Instant)} (hrows : ∀ row ∈ rows, IsLook row)
    (hlengthless : ∀ row ∈ rows, ∀ p ∈ row.1, p.duration = .absent)
    (hfresh : NeverStale rows f) : deliveries rows g = deliveries rows f := by
  induction rows generalizing f g with
  | nil => rfl
  | cons row rows ih =>
    have hrow := hrows row List.mem_cons_self
    obtain ⟨hs', hresult⟩ := hs.evaluate (fun p hp => (hrow.plays p hp).1)
      (hlengthless row List.mem_cons_self) hrow.clock hfresh.1
    rw [← (process_eq f row.1 row.2).2, ← (process_eq g row.1 row.2).2] at hs'
    have hrest := ih hs' (fun r hr => hrows r (List.mem_cons_of_mem row hr))
      (fun r hr => hlengthless r (List.mem_cons_of_mem row hr)) hfresh.2
    unfold deliveries
    rw [hrest, (process_eq f row.1 row.2).1, (process_eq g row.1 row.2).1, hresult]

/-- **Where no look fails, all deliver.** -/
theorem exists_delivery {f : Follower} (hc : f.history.Clear)
    {rows : List (List Play × Instant)} (hrows : ∀ row ∈ rows, IsLook row) :
    ∀ delivery ∈ deliveries rows f, ∃ plays, delivery = .ok plays := by
  induction rows generalizing f with
  | nil => exact fun _ h => absurd h List.not_mem_nil
  | cons row rows ih =>
    have hrow := hrows row List.mem_cons_self
    obtain ⟨finding, h', hlook, hc'⟩ := hc.evaluate (fun p hp => (hrow.plays p hp).1) hrow.clock
    intro delivery hdelivery
    rcases List.mem_cons.mp hdelivery with rfl | hdelivery
    · rw [(process_eq f row.1 row.2).1, hlook]
      exact ⟨_, rfl⟩
    · refine ih ?_ (fun r hr => hrows r (List.mem_cons_of_mem row hr)) delivery hdelivery
      rw [(process_eq f row.1 row.2).2, hlook]
      exact hc'

section Restart

variable {settings : History} {name : String} {f : Follower} {file : StateFile}

/-- **A follower that begins with what was kept** is in step with the one that
kept it. -/
theorem Mirrored.restart (hm : Mirrored settings name f file) (hknown : settings.known = none)
    (hobserved : settings.observedAt = none) (hseen : settings.seen = []) {fresh : StateFile}
    (hfresh : fresh.document = file.document) {now : Instant}
    (hclock : now.offset.isSome = true) :
    ∃ g, start? settings name (some fresh) now = .ok g ∧ InStep f.history g.history := by
  have hkept := hm.keeps
  rw [← hfresh] at hkept
  cases hkept with
  | nothing isKnown isSeen isKept =>
    refine ⟨_, start?_of_nothing isKept, hm.newestFirst.symm, hm.memory.symm,
      .neither isKnown hknown, ?_, hm.observed, fun t ht => ?_⟩
    · rw [hseen]
      exact List.nil_suffix
    · exact nomatch hobserved.symm.trans ht
  | list known plays signature isKnown isKept same signed isSeen =>
    by_cases hnone : plays = []
    · -- an empty list is kept, but to begin with it is to begin with nothing
      have hempty : known = [] := by
        have hsame := (sameTracks_known same hm.newestFirst).length_eq
        rw [hnone] at hsame
        refine List.eq_nil_of_length_eq_zero (hsame.symm.trans ?_)
        unfold History.ordered
        split <;> rfl
      have hsigned : signature = [] := by
        rw [hempty] at signed
        exact (Except.ok.inj signed).symm
      have hkept : (StateFile.plays? fresh.document name).getD [] = [] := by
        rw [isKept, hnone]
        rfl
      refine ⟨_, start?_of_nothing hkept, hm.newestFirst.symm, hm.memory.symm,
        .empty (hempty ▸ isKnown) (hsigned ▸ isSeen) hknown hseen, ?_, hm.observed,
        fun t ht => ?_⟩
      · rw [hseen]
        exact List.nil_suffix
      · exact nomatch hobserved.symm.trans ht
    · have hsame := sameTracks_known same hm.newestFirst
      have hsigned := (History.signature?_congr hsame).trans signed
      have hstart : start? settings name (some fresh) now = _ := start?_of_kept isKept hnone
      rw [hsigned] at hstart
      refine ⟨_, hstart, hm.newestFirst.symm, hm.memory.symm,
        .both known (settings.ordered plays) isKnown rfl hsame.symm, isSeen, hm.observed,
        fun t ht => ?_⟩
      exact Option.some.inj ht ▸ hclock

/-- **Where only typed plays were kept, no look fails**, neither the first nor
any later one. -/
theorem clear_of_start (hknown : settings.known = none) (hobserved : settings.observedAt = none)
    {now : Instant} (hclock : now.offset.isSome = true)
    (hstart : start? settings name (some file) now = .ok f)
    (htyped : ∀ plays, StateFile.plays? file.document name = some plays → ∀ p ∈ plays, p.Typed) :
    f.history.Clear := by
  rcases start?_eq_ok hstart with ⟨rfl, -⟩ | ⟨plays, signature, hkept, -, rfl⟩
  · exact ⟨fun _ h => (nomatch hknown.symm.trans h), fun _ h => (nomatch hobserved.symm.trans h)⟩
  · refine ⟨fun known h p hp => ?_, fun _ ht => Option.some.inj ht ▸ hclock⟩
    obtain rfl := Option.some.inj h
    exact htyped plays hkept p (History.mem_ordered.mp hp)

/-- A follower goes on so. -/
theorem clear_afterLooks (hc : f.history.Clear) {rows : List (List Play × Instant)}
    (hrows : ∀ row ∈ rows, IsLook row) : (f.afterLooks rows).1.history.Clear := by
  induction rows using List.reverseRecOn with
  | nil => exact hc
  | append_singleton rows row ih =>
    have hc' := ih fun row hrow => hrows row (List.mem_append_left _ hrow)
    have hrow := hrows row (List.mem_append_right _ List.mem_cons_self)
    obtain ⟨finding, h', hlook, hc''⟩ :=
      hc'.evaluate (fun p hp => (hrow.plays p hp).1) hrow.clock
    rw [afterLooks_append_singleton]
    unfold attend
    rw [history_save, (process_eq _ row.1 row.2).2, hlook]
    exact hc''

end Restart

/-! ## Restarts -/

/-- **A file that holds what is known**: the list that is read from it has the
identities of the known one, put back in the order of the source. -/
def HoldsKnown (f : Follower) (fresh : StateFile) : Prop :=
  ∃ known plays signature, f.history.known = some known
    ∧ StateFile.plays? fresh.document f.name = some plays
    ∧ signature? plays = .ok signature
    ∧ signature? (f.history.ordered known) = .ok signature

/-- **A follower that stands in for another**: from looks at plays without a
length, of which the other never reports a stale one, both deliver the same,
look by look. -/
def StandsInFor (g f : Follower) : Prop :=
  ∀ rows, (∀ row ∈ rows, IsLook row) → (∀ row ∈ rows, ∀ p ∈ row.1, p.duration = .absent) →
    NeverStale rows f → deliveries rows g = deliveries rows f

/-- **A restart loses nothing.** A follower begins with a file, takes any number
of looks, and saves after each. From the first one on the file holds what is
known; and a follower that begins with the file, read anew at whatever time,
stands in for the one that goes on. Where the file held only typed plays at
first, each look delivers. -/
theorem restart_loses_nothing {newestFirst : Bool} {memory : Int} {tolerance : Float}
    {name : String} {file : StateFile} {start : Instant} {f : Follower}
    (hstart : start? { newestFirst, memory, tolerance } name (some file) start = .ok f)
    (hclock : start.offset.isSome = true) {rows : List (List Play × Instant)}
    (hrows : ∀ row ∈ rows, IsLook row) :
    ∃ kept, (f.afterLooks rows).1.file = some kept
      ∧ IsWritten file kept (f.afterLooks rows).2
      ∧ ∀ fresh : StateFile, fresh.document = kept.document →
        (rows ≠ [] → (f.afterLooks rows).1.HoldsKnown fresh)
        ∧ ∀ restart : Instant, restart.offset.isSome = true →
          ∃ g, start? { newestFirst, memory, tolerance } name (some fresh) restart = .ok g
            ∧ g.StandsInFor (f.afterLooks rows).1
            ∧ ((∀ plays, StateFile.plays? file.document name = some plays →
                ∀ p ∈ plays, p.Typed) →
              ∀ more, (∀ row ∈ more, IsLook row) →
                ∀ delivery ∈ deliveries more (f.afterLooks rows).1,
                  ∃ plays, delivery = .ok plays) := by
  obtain ⟨kept, hm, hwritten, hsome⟩ :=
    (Mirrored.start rfl rfl rfl hclock hstart).afterLooks hrows
  refine ⟨kept, hm.isFile, hwritten, fun fresh hfresh =>
    ⟨fun hne => ?_, fun restart hrestart => ?_⟩⟩
  · obtain ⟨known, plays, signature, hknown, hkept, hsigned, hsigned'⟩ :=
      hm.exists_signature (hsome hne)
    exact ⟨known, plays, signature, hknown, by rw [hfresh, hm.isName]; exact hkept, hsigned,
      hsigned'⟩
  · obtain ⟨g, hg, hs⟩ := hm.restart rfl rfl rfl hfresh hrestart
    refine ⟨g, hg, fun more hmore hlengthless hfresh' =>
      deliveries_eq hs hmore hlengthless hfresh', fun htyped more hmore => ?_⟩
    exact exists_delivery (clear_afterLooks (clear_of_start rfl rfl hclock hstart htyped) hrows)
      hmore

/-! ## A restart after two songs -/

/-- A follower of a list of which nothing is kept. -/
def newcomer : Follower := ⟨{}, "history", some { path := ⟨"", ["state.json"]⟩ }⟩

/-- A look at a list of songs. -/
def lookAt (names : List String) (micros : Int) : List Play × Instant :=
  (ComparablePlay.plays (names.map History.song), ⟨micros, some 0⟩)

theorem isLook_lookAt (names : List String) (micros : Int) : IsLook (lookAt names micros) := by
  refine ⟨fun p hp => ?_, rfl⟩
  obtain ⟨q, hq, rfl⟩ := List.mem_map.mp hp
  obtain ⟨name, -, rfl⟩ := List.mem_map.mp hq
  exact ⟨(History.song name).2.toTyped, fun t ht => nomatch ht⟩

theorem lengthless_lookAt (names : List String) (micros : Int) :
    ∀ p ∈ (lookAt names micros).1, p.duration = .absent := by
  intro p hp
  obtain ⟨q, hq, rfl⟩ := List.mem_map.mp hp
  obtain ⟨name, -, rfl⟩ := List.mem_map.mp hq
  rfl

/-- Two songs are listed, and after a restart a third is listed above the newer
one. The restarted follower delivers it, as the other one would have. -/
theorem restart_loses_nothing_songs :
    ∃ kept g, (newcomer.afterLooks [lookAt ["b", "a"] 1]).1.file = some kept
      ∧ (newcomer.afterLooks [lookAt ["b", "a"] 1]).1.HoldsKnown kept
      ∧ start? {} "history" (some kept) ⟨2, some 0⟩ = .ok g
      ∧ deliveries [lookAt ["c", "b"] 3] g
        = deliveries [lookAt ["c", "b"] 3] (newcomer.afterLooks [lookAt ["b", "a"] 1]).1
      ∧ (deliveries [lookAt ["c", "b"] 3] g).map (fun d => d.toOption.map List.length)
        = [some 1] := by
  have hstart : start? {} "history" newcomer.file ⟨0, some 0⟩ = .ok newcomer :=
    start?_of_nothing rfl
  have hbefore : ∀ row ∈ [lookAt ["b", "a"] 1], IsLook row := fun row hrow =>
    List.mem_singleton.mp hrow ▸ isLook_lookAt _ _
  obtain ⟨kept, hkept, -, hrestart⟩ := restart_loses_nothing hstart rfl hbefore
  obtain ⟨hholds, hg⟩ := hrestart kept rfl
  obtain ⟨g, hg, hstands, -⟩ := hg ⟨2, some 0⟩ rfl
  have hsame := hstands [lookAt ["c", "b"] 3]
    (fun row hrow => List.mem_singleton.mp hrow ▸ isLook_lookAt _ _)
    (fun row hrow => List.mem_singleton.mp hrow ▸ lengthless_lookAt _ _) (by decide +kernel)
  refine ⟨kept, g, hkept, hholds (List.cons_ne_nil _ _), hg, hsame, ?_⟩
  rw [hsame]
  decide +kernel

end Follower

end Listening
