import Listening.Proofs.DiffPlaces

/-!
# How a list has grown, said of the lists

`Growth` says how a list has grown by looking at a difference – at places
that were added, kept and deleted. What it says can be put in terms of the
lists alone: `Growth.Prepends` and `Growth.Appends` are the two ways to
extend a list at one end while entries drop off the other, and a list is
found to have grown in one of these ways exactly if it has.

A repeated entry makes this less than obvious. It may be paired with the
wrong occurrence, and then nothing is in order; pairing from the front goes
right when no new entry was there before, and pairing from the end when no
entry that dropped off is still there. One of the two is asked for on top,
and the second at the bottom.
-/

namespace Listening.Growth

open ListDiff

variable {κ : Type}

/-- **New entries on top.** The new list is `count` entries followed by the
first `kept` entries of the previous one, and either no new entry was there
before or no entry that dropped off is still there. -/
structure Prepends (prev new : List κ) (count kept : Nat) : Prop where
  /-- There are new entries. -/
  count_pos : 0 < count
  /-- Something is kept. -/
  kept_pos : 0 < kept
  /-- Only what was there can be kept. -/
  kept_le : kept ≤ prev.length
  /-- The new list is made of the new entries and the ones that are kept. -/
  split : ∃ top, top.length = count ∧ new = top ++ prev.take kept
    ∧ (top.Disjoint prev ∨ (prev.drop kept).Disjoint new)

/-- **New entries at the bottom.** The new list is the previous one without
its first `dropped` entries, followed by others, and no entry that dropped
off is still there. -/
structure Appends (prev new bottom : List κ) (dropped : Nat) : Prop where
  /-- There are new entries. -/
  bottom_ne_nil : bottom ≠ []
  /-- Something is kept. -/
  dropped_lt : dropped < prev.length
  /-- The new list is made of the ones that are kept and the new entries. -/
  split : new = prev.drop dropped ++ bottom
  /-- What dropped off is gone. -/
  disjoint : (prev.take dropped).Disjoint new

/-- **No more of anything**: there was nothing before, or no key occurs more
often than it did. -/
def IsNoMore [BEq κ] (prev new : List κ) : Prop :=
  prev = [] ∨ ∀ key, new.count key ≤ prev.count key

/-- How a list of keys has grown. -/
def ofKeys [BEq κ] (prev new : List κ) : Growth :=
  let found := ofDiff (ListDiff.ofKeys prev new) new.length
  if found.isPrepend then found
  else
    let fromTail := ofDiff (ListDiff.ofKeys prev new true) new.length
    if fromTail.isPrepend then fromTail else found

/-! ## Rows of places -/

/-- A row of numbers increases at every step if and only if it is sorted. -/
theorem increases_iff (l : List Nat) : increases l = true ↔ l.Pairwise (· < ·) := by
  induction l with
  | nil => exact iff_of_true rfl List.Pairwise.nil
  | cons a rest ih =>
    cases rest with
    | nil => exact iff_of_true rfl (List.pairwise_singleton _ a)
    | cons _ rest =>
      rw [increases, Bool.and_eq_true, decide_eq_true_iff, ih]
      constructor
      · rintro ⟨hab, hrest⟩
        refine List.pairwise_cons.mpr ⟨fun c hc => ?_, hrest⟩
        rcases List.mem_cons.mp hc with rfl | hc
        · exact hab
        · exact Nat.lt_trans hab ((List.pairwise_cons.mp hrest).1 c hc)
      · intro h
        exact ⟨(List.pairwise_cons.mp h).1 _ List.mem_cons_self, (List.pairwise_cons.mp h).2⟩

/-- A sorted row that holds the numbers below `n` is the row of the numbers
below `n`. -/
theorem eq_range_of_perm {l : List Nat} {n : Nat} (hp : l.Perm (List.range n))
    (hs : l.Pairwise (· < ·)) : l = List.range n :=
  hp.eq_of_pairwise (fun a _ _ _ hab hba => absurd (Nat.lt_trans hab hba) (Nat.lt_irrefl a)) hs
    List.pairwise_lt_range

/-- The two halves of the row of the numbers below `n`. -/
theorem eq_range_and_eq_range'_of_append {front back : List Nat} {n : Nat}
    (h : front ++ back = List.range n) :
    front = List.range front.length ∧ back = List.range' front.length (n - front.length) := by
  have hlen : front.length + back.length = n := by
    rw [← List.length_append, h, List.length_range]
  have hsplit :
      List.range n = List.range front.length ++ List.range' front.length back.length := by
    rw [← hlen, List.range_eq_range', List.range_eq_range', ← List.range'_append_1, Nat.zero_add]
  rw [hsplit] at h
  obtain ⟨hf, hb⟩ := List.append_inj h (by rw [List.length_range])
  exact ⟨hf, by rw [← hlen, Nat.add_sub_cancel_left]; exact hb⟩

/-! ## What a difference says about growth -/

/-- **What is kept is the top of the previous list**: kept places are in
order, and all deleted ones are above them. -/
structure IsTop (d : ListDiff) : Prop where
  /-- Something is kept. -/
  ne_nil : d.keptPlaces ≠ []
  /-- It is in order. -/
  sorted : d.keptPlaces.Pairwise (· < ·)
  /-- What is deleted was after it. -/
  lt_deleted : ∀ i ∈ d.keptPlaces, ∀ j ∈ d.deletedPlaces, i < j

/-- **What is kept is the bottom of the previous list**: kept places are in
order, and all deleted ones are below them. -/
structure IsBottom (d : ListDiff) : Prop where
  /-- Something is kept. -/
  ne_nil : d.keptPlaces ≠ []
  /-- It is in order. -/
  sorted : d.keptPlaces.Pairwise (· < ·)
  /-- What is deleted was before it. -/
  deleted_lt : ∀ j ∈ d.deletedPlaces, ∀ i ∈ d.keptPlaces, j < i

/-- What is kept is the top of the previous list if and only if what is
deleted comes after the last place that is kept. -/
theorem isTop_iff {d : ListDiff} {last : Nat} (h : d.keptPlaces.getLast? = some last) :
    IsTop d ↔ increases d.keptPlaces = true ∧ d.deletedPlaces.all (last < ·) = true := by
  have hne : d.keptPlaces ≠ [] := by
    intro e
    rw [e] at h
    exact nomatch h
  have hlast : d.keptPlaces.getLast hne = last := by
    rw [List.getLast?_eq_some_getLast hne] at h
    exact Option.some.inj h
  rw [increases_iff, List.all_eq_true]
  simp only [decide_eq_true_eq]
  constructor
  · intro ht
    exact ⟨ht.sorted, fun j hj => ht.lt_deleted last (List.mem_of_getLast? h) j hj⟩
  · rintro ⟨hsorted, hbelow⟩
    refine ⟨hne, hsorted, fun i hi j hj => Nat.lt_of_le_of_lt ?_ (hbelow j hj)⟩
    rw [← hlast]
    exact (hsorted.imp Nat.le_of_lt).rel_getLast hi

/-- What is kept is the bottom of the previous list if and only if what is
deleted comes before the first place that is kept. -/
theorem isBottom_iff {d : ListDiff} {first : Nat} (h : d.keptPlaces.head? = some first) :
    IsBottom d ↔ increases d.keptPlaces = true ∧ d.deletedPlaces.all (· < first) = true := by
  obtain ⟨rest, hrest⟩ : ∃ rest, d.keptPlaces = first :: rest := List.head?_eq_some_iff.mp h
  rw [increases_iff, List.all_eq_true]
  simp only [decide_eq_true_eq]
  constructor
  · intro hb
    exact ⟨hb.sorted, fun j hj => hb.deleted_lt j hj first (List.mem_of_mem_head? h)⟩
  · rintro ⟨hsorted, habove⟩
    refine ⟨by rw [hrest]; exact List.cons_ne_nil first rest, hsorted, fun j hj i hi => ?_⟩
    rw [hrest] at hsorted hi
    rcases List.mem_cons.mp hi with rfl | hi
    · exact habove j hj
    · exact Nat.lt_trans (habove j hj) ((List.pairwise_cons.mp hsorted).1 i hi)

/-- **What is found if something was added.** -/
theorem ofDiff_of_added {d : ListDiff} (ho : d.outcome = .updated) (ha : d.addedPlaces ≠ [])
    (length : Nat) :
    (IsTop d ∧ d.addedPlaces = List.range d.addedPlaces.length
        ∧ ofDiff d length = .prepend d.addedPlaces.length)
      ∨ (¬ (IsTop d ∧ d.addedPlaces = List.range d.addedPlaces.length) ∧ IsBottom d
        ∧ d.addedPlaces = List.range' (length - d.addedPlaces.length) d.addedPlaces.length
        ∧ ofDiff d length = .append d.addedPlaces.length)
      ∨ (¬ (IsTop d ∧ d.addedPlaces = List.range d.addedPlaces.length)
        ∧ ¬ (IsBottom d
          ∧ d.addedPlaces = List.range' (length - d.addedPlaces.length) d.addedPlaces.length)
        ∧ ofDiff d length = .insert) := by
  have hcond : ¬ (decide (d.outcome ≠ .updated) || d.addedPlaces.isEmpty) = true := by
    simpa [ho] using ha
  unfold ofDiff
  rw [if_neg hcond]
  cases hk : d.keptPlaces with
  | nil =>
    have htop : ¬ IsTop d := fun h => h.ne_nil hk
    have hbottom : ¬ IsBottom d := fun h => h.ne_nil hk
    exact Or.inr (Or.inr ⟨fun h => htop h.1, fun h => hbottom h.1, rfl⟩)
  | cons first rest =>
    obtain ⟨last, hlast⟩ : ∃ last, (first :: rest).getLast? = some last :=
      ⟨_, List.getLast?_eq_some_getLast (List.cons_ne_nil first rest)⟩
    rw [isTop_iff (by rw [hk]; exact hlast), isBottom_iff (by rw [hk]; rfl), hk, hlast]
    simp only [List.head?_cons]
    cases increases (first :: rest)
    · simp
    · simp only [Bool.not_true, Bool.false_eq_true, if_false, Bool.and_eq_true, beq_iff_eq,
        true_and]
      by_cases ht : d.addedPlaces = List.range d.addedPlaces.length
          ∧ (d.deletedPlaces.all (last < ·)) = true
      · rw [if_pos ht]
        exact Or.inl ⟨ht.2, ht.1, rfl⟩
      · rw [if_neg ht]
        have ht' := fun h => ht (And.symm h)
        by_cases hb : d.addedPlaces
              = List.range' (length - d.addedPlaces.length) d.addedPlaces.length
            ∧ (d.deletedPlaces.all (· < first)) = true
        · rw [if_pos hb]
          exact Or.inr (Or.inl ⟨ht', hb.2, hb.1, rfl⟩)
        · rw [if_neg hb]
          exact Or.inr (Or.inr ⟨ht', fun h => hb (And.symm h), rfl⟩)

/-! ## From a difference to the lists -/

/-- Two sorted rows, one below the other, that hold the numbers below `n`
are the two halves of their row. -/
theorem eq_range_and_eq_range'_of_perm {front back : List Nat} {n : Nat}
    (hp : (front ++ back).Perm (List.range n)) (hf : front.Pairwise (· < ·))
    (hb : back.Pairwise (· < ·)) (hlt : ∀ i ∈ front, ∀ j ∈ back, i < j) :
    front = List.range front.length ∧ back = List.range' front.length (n - front.length) :=
  eq_range_and_eq_range'_of_append
    (eq_range_of_perm hp (List.pairwise_append.mpr ⟨hf, hb, hlt⟩))

section Lawful

variable [BEq κ] [LawfulBEq κ] {prev new : List κ} {fromEnd : Bool}

omit [LawfulBEq κ] in
/-- A new place is added or kept, not both. -/
theorem ne_of_mem_addedPlaces {i j : Nat}
    (hi : i ∈ (ListDiff.ofKeys prev new fromEnd).addedPlaces)
    (hj : j ∈ (ListDiff.ofKeys prev new fromEnd).pairs.map Prod.snd) : i ≠ j := by
  have hnodup := (perm_addedPlaces prev new fromEnd).nodup_iff.mpr List.nodup_range
  exact (List.nodup_append.mp hnodup).2.2 i hi j hj

/-- At both places of a pair stands the same key. -/
theorem getElem?_of_mem_pairs {p : Nat × Nat}
    (h : p ∈ (ListDiff.ofKeys prev new fromEnd).pairs) : new[p.2]? = prev[p.1]? := by
  rw [pairs_ofKeys] at h
  obtain ⟨e, he, hkept⟩ := List.mem_filterMap.mp h
  cases e with
  | kept i j =>
    obtain rfl := Option.some.inj hkept
    obtain ⟨key, hp, hn⟩ := sameKey_of_mem_present he
    exact hn.trans hp.symm
  | added j => exact nomatch hkept
  | deleted i => exact nomatch hkept

/-- **Keys agree along the pairs.** Where the kept places are a stretch of
the previous list and a stretch of the new one, the same keys stand along
both. -/
theorem getElem?_of_pairs {i₀ j₀ m : Nat}
    (hprev : (ListDiff.ofKeys prev new fromEnd).pairs.map Prod.fst = List.range' i₀ m)
    (hnew : (ListDiff.ofKeys prev new fromEnd).pairs.map Prod.snd = List.range' j₀ m)
    {k : Nat} (hk : k < m) : new[j₀ + k]? = prev[i₀ + k]? := by
  have hzip : (i₀ + k, j₀ + k) ∈ (List.range' i₀ m).zip (List.range' j₀ m) := by
    refine List.mem_iff_getElem.mpr ⟨k, by simpa using hk, ?_⟩
    simp
  rw [← List.zip_of_prod hprev hnew] at hzip
  exact getElem?_of_mem_pairs hzip

omit [LawfulBEq κ] in
/-- Where added entries come first, the others follow them. -/
theorem snd_pairs_of_added_first {count : Nat}
    (hadded : (ListDiff.ofKeys prev new fromEnd).addedPlaces = List.range count) :
    (ListDiff.ofKeys prev new fromEnd).pairs.map Prod.snd
      = List.range' count (new.length - count) := by
  have hlt : ∀ i ∈ (ListDiff.ofKeys prev new fromEnd).addedPlaces,
      ∀ j ∈ (ListDiff.ofKeys prev new fromEnd).pairs.map Prod.snd, i < j := by
    intro i hi j hj
    rw [hadded, List.mem_range] at hi
    refine Nat.lt_of_lt_of_le hi (Nat.le_of_not_lt (fun hj' => ?_))
    exact ne_of_mem_addedPlaces (by rw [hadded]; exact List.mem_range.mpr hj') hj rfl
  have hsplit := (eq_range_and_eq_range'_of_perm (perm_addedPlaces prev new fromEnd)
    (pairwise_addedPlaces prev new fromEnd) (pairwise_pairs prev new fromEnd) hlt).2
  rwa [hadded, List.length_range] at hsplit

omit [LawfulBEq κ] in
/-- Where added entries come last, the others precede them. -/
theorem snd_pairs_of_added_last {count : Nat}
    (hadded : (ListDiff.ofKeys prev new fromEnd).addedPlaces
      = List.range' (new.length - count) count) :
    (ListDiff.ofKeys prev new fromEnd).pairs.map Prod.snd
      = List.range' 0 (new.length - count) := by
  have hperm := perm_addedPlaces prev new fromEnd
  have hlen := hperm.length_eq
  rw [List.length_append, hadded, List.length_range', List.length_range] at hlen
  have hlt : ∀ j ∈ (ListDiff.ofKeys prev new fromEnd).pairs.map Prod.snd,
      ∀ i ∈ (ListDiff.ofKeys prev new fromEnd).addedPlaces, j < i := by
    intro j hj i hi
    have hjn : j < new.length :=
      List.mem_range.mp (hperm.mem_iff.mp (List.mem_append_right _ hj))
    rw [hadded, List.mem_range'_1] at hi
    refine Nat.lt_of_lt_of_le (Nat.lt_of_not_le (fun hj' => ?_)) hi.1
    refine ne_of_mem_addedPlaces ?_ hj rfl
    rw [hadded, List.mem_range'_1]
    omega
  have hsplit := (eq_range_and_eq_range'_of_perm (List.perm_append_comm.trans hperm)
    (pairwise_pairs prev new fromEnd) (pairwise_addedPlaces prev new fromEnd) hlt).1
  rw [hsplit, List.range_eq_range']
  exact congrArg (List.range' 0) (by omega)

/-- Where the top of the previous list is kept, it is that many entries of
it. -/
theorem fst_pairs_of_isTop (h : IsTop (ListDiff.ofKeys prev new fromEnd)) :
    ∃ kept, 0 < kept ∧ kept ≤ prev.length
      ∧ (ListDiff.ofKeys prev new fromEnd).pairs.map Prod.fst = List.range' 0 kept := by
  have hperm := perm_keptPlaces prev new fromEnd
  have hlen := hperm.length_eq
  rw [List.length_append, List.length_range] at hlen
  refine ⟨_, List.length_pos_of_ne_nil h.ne_nil, by omega, ?_⟩
  rw [← keptPlaces_eq, ← List.range_eq_range']
  exact (eq_range_and_eq_range'_of_perm hperm h.sorted
    (pairwise_deletedPlaces prev new fromEnd) h.lt_deleted).1

/-- Where the bottom of the previous list is kept, it is all but some entries
of it. -/
theorem fst_pairs_of_isBottom (h : IsBottom (ListDiff.ofKeys prev new fromEnd)) :
    ∃ dropped, dropped < prev.length
      ∧ (ListDiff.ofKeys prev new fromEnd).pairs.map Prod.fst
        = List.range' dropped (prev.length - dropped) := by
  have hperm := List.perm_append_comm.trans (perm_keptPlaces prev new fromEnd)
  have hlen := hperm.length_eq
  have hpos := List.length_pos_of_ne_nil h.ne_nil
  rw [List.length_append, List.length_range] at hlen
  refine ⟨(ListDiff.ofKeys prev new fromEnd).deletedPlaces.length, by omega, ?_⟩
  rw [← keptPlaces_eq]
  exact (eq_range_and_eq_range'_of_perm hperm (pairwise_deletedPlaces prev new fromEnd)
    h.sorted h.deleted_lt).2

omit [LawfulBEq κ] in
/-- Both rows of places of the pairs are as long as there are pairs. -/
theorem eq_of_pairs {i₀ j₀ m m' : Nat}
    (hprev : (ListDiff.ofKeys prev new fromEnd).pairs.map Prod.fst = List.range' i₀ m)
    (hnew : (ListDiff.ofKeys prev new fromEnd).pairs.map Prod.snd = List.range' j₀ m') :
    m = m' := by
  have hp := congrArg List.length hprev
  have hn := congrArg List.length hnew
  rw [List.length_map, List.length_range'] at hp hn
  exact hp.symm.trans hn

/-- **What a prepend is a sign of.** The new list is some entries followed by
the first ones of the previous list. From the front, the first occurrence of
every key is kept if any is, so no new entry was there before; from the end,
the last one is, so no entry that dropped off is still there. -/
theorem prepends_of_isTop {count : Nat} (hcount : 0 < count)
    (htop : IsTop (ListDiff.ofKeys prev new fromEnd))
    (hadded : (ListDiff.ofKeys prev new fromEnd).addedPlaces = List.range count) :
    ∃ kept, Prepends prev new count kept := by
  obtain ⟨kept, hpos, hle, hfst⟩ := fst_pairs_of_isTop htop
  have hsnd := snd_pairs_of_added_first hadded
  obtain rfl : kept = new.length - count := eq_of_pairs hfst hsnd
  have hsame : new.drop count = prev.take (new.length - count) := by
    refine List.ext_getElem? (fun k => ?_)
    rw [List.getElem?_drop, List.getElem?_take]
    by_cases hk : k < new.length - count
    · rw [if_pos hk, getElem?_of_pairs hfst hsnd hk, Nat.zero_add]
    · rw [if_neg hk]
      exact List.getElem?_eq_none (by omega)
  have hfst' : ∀ p ∈ (ListDiff.ofKeys prev new fromEnd).pairs, p.1 < new.length - count := by
    intro p hp
    have := List.mem_map_of_mem (f := Prod.fst) hp
    rw [hfst, List.mem_range'_1] at this
    omega
  have hsnd' : ∀ p ∈ (ListDiff.ofKeys prev new fromEnd).pairs, count ≤ p.2 := by
    intro p hp
    have := List.mem_map_of_mem (f := Prod.snd) hp
    rw [hsnd, List.mem_range'_1] at this
    exact this.1
  refine ⟨new.length - count, hcount, hpos, hle, new.take count,
    List.length_take_of_le (by omega), by rw [← hsame, List.take_append_drop], ?_⟩
  cases fromEnd with
  | false =>
    -- a new entry that was there before has a pair at its place or above, among the new ones
    refine Or.inl (fun key htop hprev => ?_)
    obtain ⟨j, hj, hjkey⟩ := List.mem_take_iff_getElem.mp htop
    obtain ⟨i, hikey⟩ := List.mem_iff_getElem?.mp hprev
    obtain ⟨p, hp, -, hpj⟩ := exists_mem_pairs_le hikey
      (List.getElem?_eq_some_iff.mpr ⟨by omega, hjkey⟩)
    have := hsnd' p hp
    omega
  | true =>
    -- an entry that dropped off and is still there has a pair beyond what is kept
    refine Or.inr (fun key hdrop hnew => ?_)
    obtain ⟨i, hikey⟩ := List.mem_iff_getElem?.mp hdrop
    obtain ⟨j, hjkey⟩ := List.mem_iff_getElem?.mp hnew
    rw [List.getElem?_drop] at hikey
    obtain ⟨p, hp, hpi, -⟩ := exists_mem_pairs_ge hikey hjkey
    have := hfst' p hp
    omega

/-- **What an append is a sign of.** -/
theorem appends_of_isBottom {count : Nat} (hcount : 0 < count)
    (hbottom : IsBottom (ListDiff.ofKeys prev new))
    (hadded : (ListDiff.ofKeys prev new).addedPlaces
      = List.range' (new.length - count) count) :
    ∃ bottom dropped, bottom.length = count ∧ Appends prev new bottom dropped := by
  obtain ⟨dropped, hlt, hfst⟩ := fst_pairs_of_isBottom hbottom
  have hsnd := snd_pairs_of_added_last hadded
  have hlen : prev.length - dropped = new.length - count := eq_of_pairs hfst hsnd
  have hsame : new.take (new.length - count) = prev.drop dropped := by
    refine List.ext_getElem? (fun k => ?_)
    rw [List.getElem?_drop, List.getElem?_take]
    by_cases hk : k < new.length - count
    · have := getElem?_of_pairs hfst (hlen ▸ hsnd) (hlen ▸ hk)
      rw [if_pos hk, ← this, Nat.zero_add]
    · rw [if_neg hk]
      exact (List.getElem?_eq_none (by omega)).symm
  refine ⟨new.drop (new.length - count), dropped, ?_, ?_, hlt, ?_, ?_⟩
  · rw [List.length_drop]
    omega
  · intro h
    have := congrArg List.length h
    rw [List.length_drop, List.length_nil] at this
    omega
  · rw [← hsame, List.take_append_drop]
  · intro key htake hnew
    obtain ⟨i, hi, hikey⟩ := List.mem_take_iff_getElem.mp htake
    obtain ⟨j, hjkey⟩ := List.mem_iff_getElem?.mp hnew
    obtain ⟨p, hp, hpi, -⟩ := exists_mem_pairs_le
      (List.getElem?_eq_some_iff.mpr ⟨by omega, hikey⟩) hjkey
    have := List.mem_map_of_mem (f := Prod.fst) hp
    rw [hfst, List.mem_range'_1] at this
    omega

/-! ## From the lists to a difference -/

omit [BEq κ] [LawfulBEq κ] in
/-- The places of added entries are where they are. -/
theorem filterMap_addedPlace?_added (ps : List (κ × Nat)) :
    (ps.map fun q => Entry.added q.2).filterMap Entry.addedPlace? = ps.map Prod.snd := by
  rw [List.filterMap_map, ← List.filterMap_eq_map]
  rfl

omit [BEq κ] [LawfulBEq κ] in
theorem filterMap_kept?_added (ps : List (κ × Nat)) :
    (ps.map fun q => Entry.added q.2).filterMap Entry.kept? = [] := by
  refine List.filterMap_eq_nil_iff.mpr (fun e he => ?_)
  obtain ⟨p, -, rfl⟩ := List.mem_map.mp he
  rfl

omit [BEq κ] [LawfulBEq κ] in
theorem filterMap_addedPlace?_kept (ps qs : List (κ × Nat)) :
    (List.zipWith (fun p q => Entry.kept p.2 q.2) ps qs).filterMap Entry.addedPlace? = [] := by
  refine List.filterMap_eq_nil_iff.mpr (fun e he => ?_)
  obtain ⟨i, hi, rfl⟩ := List.mem_iff_getElem.mp he
  rw [List.getElem_zipWith]
  rfl

omit [BEq κ] [LawfulBEq κ] in
/-- The previous places of kept entries are where they were. -/
theorem filterMap_kept?_kept {ps qs : List (κ × Nat)} (h : ps.map Prod.fst = qs.map Prod.fst) :
    ((List.zipWith (fun p q => Entry.kept p.2 q.2) ps qs).filterMap Entry.kept?).map Prod.fst
      = ps.map Prod.snd := by
  induction ps generalizing qs with
  | nil => rfl
  | cons p ps ih =>
    cases qs with
    | nil => exact nomatch h
    | cons q qs => exact congrArg (p.2 :: ·) (ih (List.cons.inj h).2)

omit [LawfulBEq κ] in
/-- The places of a difference, read off a pairing. -/
theorem places_of_pair {es : List Entry} {left : List (κ × Nat)}
    (h : pair (turned fromEnd prev.zipIdx) (turned fromEnd new.zipIdx) = (es, left)) :
    (ListDiff.ofKeys prev new fromEnd).addedPlaces
        = turned fromEnd (es.filterMap Entry.addedPlace?)
      ∧ (ListDiff.ofKeys prev new fromEnd).keptPlaces
        = turned fromEnd ((es.filterMap Entry.kept?).map Prod.fst)
      ∧ (ListDiff.ofKeys prev new fromEnd).deletedPlaces
        = turned fromEnd (left.map Prod.snd) := by
  rw [addedPlaces_ofKeys, keptPlaces_eq, pairs_ofKeys, deletedPlaces_ofKeys,
    present, leftOver, h,
    filterMap_turned, filterMap_turned, map_turned, map_turned]
  exact ⟨rfl, rfl, rfl⟩

/-- **What comes first and was not there before is added**, what follows as
before is kept, and the rest is deleted. -/
theorem places_of_new_first {same gone extra same' : List (κ × Nat)}
    (hprev : turned fromEnd prev.zipIdx = same ++ gone)
    (hnew : turned fromEnd new.zipIdx = extra ++ same')
    (hextra : ∀ p ∈ same ++ gone, ∀ q ∈ extra, p.1 ≠ q.1)
    (hsame : same.map Prod.fst = same'.map Prod.fst) :
    (ListDiff.ofKeys prev new fromEnd).addedPlaces = turned fromEnd (extra.map Prod.snd)
      ∧ (ListDiff.ofKeys prev new fromEnd).keptPlaces = turned fromEnd (same.map Prod.snd)
      ∧ (ListDiff.ofKeys prev new fromEnd).deletedPlaces
      = turned fromEnd (gone.map Prod.snd) := by
  have hpair : pair (turned fromEnd prev.zipIdx) (turned fromEnd new.zipIdx)
      = ((extra.map fun q => .added q.2) ++ List.zipWith (fun p q => .kept p.2 q.2) same same',
          gone) := by
    rw [hprev, hnew, pair_append, pair_of_disjoint hextra, pair_of_map_fst_eq gone hsame]
  have hplaces := places_of_pair hpair
  rwa [List.filterMap_append, List.filterMap_append, filterMap_addedPlace?_added,
    filterMap_kept?_added, filterMap_addedPlace?_kept, List.append_nil, List.nil_append,
    filterMap_kept?_kept hsame] at hplaces

/-- **What comes first and is not asked for is deleted**, what follows as
before is kept, and the rest is added. -/
theorem places_of_gone_first {gone same same' extra : List (κ × Nat)}
    (hprev : turned fromEnd prev.zipIdx = gone ++ same)
    (hnew : turned fromEnd new.zipIdx = same' ++ extra)
    (hgone : ∀ p ∈ gone, ∀ q ∈ same' ++ extra, p.1 ≠ q.1)
    (hsame : same.map Prod.fst = same'.map Prod.fst) :
    (ListDiff.ofKeys prev new fromEnd).addedPlaces = turned fromEnd (extra.map Prod.snd)
      ∧ (ListDiff.ofKeys prev new fromEnd).keptPlaces = turned fromEnd (same.map Prod.snd)
      ∧ (ListDiff.ofKeys prev new fromEnd).deletedPlaces
      = turned fromEnd (gone.map Prod.snd) := by
  have hkept := pair_of_map_fst_eq [] hsame
  rw [List.append_nil] at hkept
  have hnone : ∀ p ∈ ([] : List (κ × Nat)), ∀ q ∈ extra, p.1 ≠ q.1 :=
    fun p hp => absurd hp List.not_mem_nil
  have hpair : pair (turned fromEnd prev.zipIdx) (turned fromEnd new.zipIdx)
      = (List.zipWith (fun p q => .kept p.2 q.2) same same' ++ (extra.map fun q => .added q.2),
          gone) := by
    rw [hprev, hnew, pair_append_of_disjoint same _ hgone, pair_append, hkept,
      pair_of_disjoint hnone, List.append_nil]
  have hplaces := places_of_pair hpair
  rwa [List.filterMap_append, List.filterMap_append, filterMap_addedPlace?_added,
    filterMap_kept?_added, filterMap_addedPlace?_kept, List.append_nil, List.nil_append,
    filterMap_kept?_kept hsame] at hplaces

omit [BEq κ] [LawfulBEq κ] in
/-- Keys with places differ if the keys do. -/
theorem fst_ne_of_disjoint {as bs : List κ} (h : as.Disjoint bs) {m n : Nat} {p q : κ × Nat}
    (hp : p ∈ as.zipIdx m) (hq : q ∈ bs.zipIdx n) : p.1 ≠ q.1 :=
  fun e => h (List.fst_mem_of_mem_zipIdx hp) (e ▸ List.fst_mem_of_mem_zipIdx hq)

/-- **A prepend is found**, from the front if no new entry was there before,
from the end if no entry that dropped off is still there. -/
theorem exists_isTop_of_prepends {count kept : Nat} (h : Prepends prev new count kept) :
    ∃ fromEnd, IsTop (ListDiff.ofKeys prev new fromEnd)
      ∧ (ListDiff.ofKeys prev new fromEnd).addedPlaces = List.range count := by
  obtain ⟨top, rfl, hsplit, hdisjoint⟩ := h.split
  have hkept : (prev.take kept).length = kept := List.length_take_of_le h.kept_le
  have hprev : prev.zipIdx = (prev.take kept).zipIdx ++ (prev.drop kept).zipIdx kept := by
    conv_lhs => rw [← List.take_append_drop kept prev, List.zipIdx_append]
    rw [hkept, Nat.zero_add]
  have hnew : new.zipIdx = top.zipIdx ++ (prev.take kept).zipIdx top.length := by
    rw [hsplit, List.zipIdx_append, Nat.zero_add]
  have hfst : ((prev.take kept).zipIdx).map Prod.fst
      = ((prev.take kept).zipIdx top.length).map Prod.fst := by
    rw [List.zipIdx_map_fst, List.zipIdx_map_fst]
  have hplaces : ∃ fromEnd,
      (ListDiff.ofKeys prev new fromEnd).addedPlaces = List.range top.length
      ∧ (ListDiff.ofKeys prev new fromEnd).keptPlaces = List.range kept
      ∧ (ListDiff.ofKeys prev new fromEnd).deletedPlaces
        = List.range' kept (prev.length - kept) := by
    have hsnd : (top.zipIdx.map Prod.snd = List.range top.length)
        ∧ ((prev.take kept).zipIdx.map Prod.snd = List.range kept)
        ∧ (((prev.drop kept).zipIdx kept).map Prod.snd
          = List.range' kept (prev.length - kept)) := by
      rw [List.zipIdx_map_snd, List.zipIdx_map_snd, List.zipIdx_map_snd, hkept, List.length_drop,
        List.range_eq_range', List.range_eq_range']
      exact ⟨rfl, rfl, rfl⟩
    rw [← hsnd.1, ← hsnd.2.1, ← hsnd.2.2]
    rcases hdisjoint with hfront | hend
    · refine ⟨false, places_of_new_first hprev hnew (fun p hp q hq => ?_) hfst⟩
      rw [← hprev] at hp
      exact (fst_ne_of_disjoint hfront hq hp).symm
    · -- counted from the end, what dropped off comes first
      refine ⟨true, ?_⟩
      have hturned := @places_of_gone_first κ _ _ prev new true _ _ _ _
        (by rw [turned, if_pos rfl, hprev, List.reverse_append])
        (by rw [turned, if_pos rfl, hnew, List.reverse_append])
        (fun p hp q hq => by
          rw [← List.reverse_append, List.mem_reverse, ← hnew] at hq
          exact fst_ne_of_disjoint hend (List.mem_reverse.mp hp) hq)
        (by rw [List.map_reverse, List.map_reverse, hfst])
      simpa only [turned, if_true, List.map_reverse, List.reverse_reverse] using hturned
  obtain ⟨fromEnd, ha, hk, hd⟩ := hplaces
  refine ⟨fromEnd, ⟨?_, by rw [hk]; exact List.pairwise_lt_range, fun i hi j hj => ?_⟩, ha⟩
  · rw [hk]
    exact fun e => absurd (List.range_eq_nil.mp e) (Nat.ne_of_gt h.kept_pos)
  · rw [hk, List.mem_range] at hi
    rw [hd, List.mem_range'_1] at hj
    omega

/-- **An append is found**, from the front. -/
theorem isBottom_of_appends {bottom : List κ} {dropped : Nat}
    (h : Appends prev new bottom dropped) :
    IsBottom (ListDiff.ofKeys prev new)
      ∧ (ListDiff.ofKeys prev new).addedPlaces
        = List.range' (new.length - bottom.length) bottom.length := by
  have hgone : (prev.take dropped).length = dropped :=
    List.length_take_of_le (Nat.le_of_lt h.dropped_lt)
  have hprev :
      prev.zipIdx = (prev.take dropped).zipIdx ++ (prev.drop dropped).zipIdx dropped := by
    conv_lhs => rw [← List.take_append_drop dropped prev, List.zipIdx_append]
    rw [hgone, Nat.zero_add]
  have hnew : new.zipIdx
      = (prev.drop dropped).zipIdx ++ bottom.zipIdx (prev.drop dropped).length := by
    rw [h.split, List.zipIdx_append, Nat.zero_add]
  have hfst : ((prev.drop dropped).zipIdx dropped).map Prod.fst
      = ((prev.drop dropped).zipIdx).map Prod.fst := by
    rw [List.zipIdx_map_fst, List.zipIdx_map_fst]
  have hlen : (prev.drop dropped).length = new.length - bottom.length := by
    rw [h.split, List.length_append, Nat.add_sub_cancel]
  obtain ⟨ha, hk, hd⟩ := @places_of_gone_first κ _ _ prev new false _ _ _ _ hprev hnew
    (fun p hp q hq => by
      rw [← hnew] at hq
      exact fst_ne_of_disjoint h.disjoint hp hq) hfst
  have ha' : (ListDiff.ofKeys prev new).addedPlaces = _ := ha
  have hk' : (ListDiff.ofKeys prev new).keptPlaces = _ := hk
  have hd' : (ListDiff.ofKeys prev new).deletedPlaces = _ := hd
  rw [turned, if_neg Bool.false_ne_true, List.zipIdx_map_snd] at ha' hk' hd'
  rw [List.length_drop] at hk'
  rw [hgone] at hd'
  have hlt := h.dropped_lt
  refine ⟨⟨?_, by rw [hk']; exact List.pairwise_lt_range', fun j hj i hi => ?_⟩,
    by rw [ha', hlen]⟩
  · rw [hk']
    intro e
    rw [List.range'_eq_nil_iff] at e
    omega
  · rw [hk', List.mem_range'_1] at hi
    rw [hd', List.mem_range'_1] at hj
    omega

/-! ## Whether anything was added -/

/-- **As many entries with a key are added as there are more of them now.** -/
theorem length_filter_addedPlaces (prev new : List κ) (fromEnd : Bool) (key : κ) :
    ((ListDiff.ofKeys prev new fromEnd).addedPlaces.filter
        fun j => new[j]? == some key).length = new.count key - prev.count key := by
  have hall : ((List.range new.length).filter fun j => new[j]? == some key).length
      = new.count key := by
    rw [← length_places, places, placesOf, List.length_map, List.range_eq_range',
      ← List.zipIdx_map_snd 0 new, List.filter_map, List.length_map]
    refine congrArg List.length (List.filter_congr (fun p hp => ?_))
    show (new[p.2]? == some key) = (p.1 == key)
    rw [List.mem_zipIdx_iff_getElem?.mp hp]
    rfl
  have hpairs : (((ListDiff.ofKeys prev new fromEnd).pairs.map Prod.snd).filter
      fun j => new[j]? == some key).length = min (prev.count key) (new.count key) := by
    rw [← (isMatching_ofKeys prev new fromEnd).counted key, List.filter_map, List.length_map]
    rfl
  -- every place of the key is added or kept
  have hsum :=
    ((perm_addedPlaces prev new fromEnd).filter fun j => new[j]? == some key).length_eq
  rw [List.filter_append, List.length_append, hall, hpairs] at hsum
  omega

/-- Nothing is added if and only if no key occurs more often than before. -/
theorem addedPlaces_eq_nil_iff (prev new : List κ) (fromEnd : Bool) :
    (ListDiff.ofKeys prev new fromEnd).addedPlaces = []
      ↔ ∀ key, new.count key ≤ prev.count key := by
  constructor
  · intro h key
    have hlen := length_filter_addedPlaces prev new fromEnd key
    rw [h, List.filter_nil, List.length_nil] at hlen
    omega
  · intro h
    refine List.eq_nil_iff_forall_not_mem.mpr (fun j hj => ?_)
    have hlt : j < new.length := List.mem_range.mp
      ((perm_addedPlaces prev new fromEnd).mem_iff.mp (List.mem_append_left _ hj))
    have hlen := length_filter_addedPlaces prev new fromEnd new[j]
    have hmem : j ∈ (ListDiff.ofKeys prev new fromEnd).addedPlaces.filter
        fun k => new[k]? == some new[j] :=
      List.mem_filter.mpr ⟨hj, by rw [List.getElem?_eq_getElem hlt]; exact beq_self_eq_true _⟩
    have hpos := List.length_pos_of_mem hmem
    have := h new[j]
    omega

omit [LawfulBEq κ] in
/-- If there was something before and something was added, the list is an
updated one. -/
theorem outcome_of_added (hprev : prev ≠ [])
    (hadded : (ListDiff.ofKeys prev new fromEnd).addedPlaces ≠ []) :
    (ListDiff.ofKeys prev new fromEnd).outcome = .updated := by
  obtain ⟨j, hj⟩ := List.exists_mem_of_ne_nil _ hadded
  have hlt : j < new.length := List.mem_range.mp
    ((perm_addedPlaces prev new fromEnd).mem_iff.mp (List.mem_append_left _ hj))
  rw [addedPlaces_eq] at hj
  obtain ⟨e, he, hej⟩ := List.mem_filterMap.mp hj
  have hall : ¬ (entriesOfKeys prev new fromEnd).all Entry.isEqual = true := by
    intro h
    have hequal := List.all_eq_true.mp h e he
    cases e with
    | added j' => exact Bool.false_ne_true hequal
    | kept i j' => exact nomatch hej
    | deleted i => exact nomatch hej
  have hnew : ¬ new.isEmpty = true := by
    rw [List.isEmpty_iff]
    rintro rfl
    exact Nat.not_lt_zero j hlt
  show (if (entriesOfKeys prev new fromEnd).all Entry.isEqual = true then _
    else if prev.isEmpty = true then _ else if new.isEmpty = true then _ else _) = _
  rw [if_neg hall, if_neg (by rw [List.isEmpty_iff]; exact hprev), if_neg hnew]

omit [LawfulBEq κ] in
/-- A list that grew out of nothing is not an updated one. -/
theorem outcome_of_nil : (ListDiff.ofKeys ([] : List κ) new fromEnd).outcome ≠ .updated := by
  show (if _ then _ else if ([] : List κ).isEmpty = true then _ else _) ≠ _
  split
  · exact fun e => nomatch e
  · rw [if_pos List.isEmpty_nil]
    exact fun e => nomatch e

/-- Whether a list is found not to have grown. -/
theorem ofDiff_ofKeys_eq_none_iff (prev new : List κ) (fromEnd : Bool) :
    ofDiff (ListDiff.ofKeys prev new fromEnd) new.length = .none
      ↔ IsNoMore prev new := by
  rw [IsNoMore, ← addedPlaces_eq_nil_iff prev new fromEnd]
  by_cases h : prev = [] ∨ (ListDiff.ofKeys prev new fromEnd).addedPlaces = []
  · refine iff_of_true (if_pos ?_) h
    rcases h with rfl | h
    · exact Bool.or_eq_true_iff.mpr (Or.inl (decide_eq_true outcome_of_nil))
    · exact Bool.or_eq_true_iff.mpr (Or.inr (by rw [h]; rfl))
  · refine iff_of_false (fun e => ?_) h
    obtain ⟨hprev, hadded⟩ := not_or.mp h
    rcases ofDiff_of_added (outcome_of_added hprev hadded) hadded new.length with
      ⟨-, -, he⟩ | ⟨-, -, -, he⟩ | ⟨-, -, he⟩ <;>
    · rw [he] at e
      exact nomatch e

/-- A list that is found to have grown has grown out of something, and
something was added. -/
theorem ne_nil_of_ofDiff
    (h : ofDiff (ListDiff.ofKeys prev new fromEnd) new.length ≠ .none) :
    prev ≠ [] ∧ (ListDiff.ofKeys prev new fromEnd).addedPlaces ≠ [] := by
  rw [Ne, ofDiff_ofKeys_eq_none_iff, IsNoMore, ← addedPlaces_eq_nil_iff prev new fromEnd] at h
  exact not_or.mp h

/-! ## How a list of keys has grown -/

/-- What is found to be prepended has been prepended. -/
theorem prepends_of_ofDiff {count : Nat}
    (h : ofDiff (ListDiff.ofKeys prev new fromEnd) new.length = .prepend count) :
    ∃ kept, Prepends prev new count kept := by
  obtain ⟨hprev, hadded⟩ := ne_nil_of_ofDiff (h.trans_ne fun e => nomatch e)
  rcases ofDiff_of_added (outcome_of_added hprev hadded) hadded new.length with
    ⟨htop, hfirst, he⟩ | ⟨-, -, -, he⟩ | ⟨-, -, he⟩
  · obtain rfl := Growth.prepend.inj (he.symm.trans h)
    exact prepends_of_isTop (List.length_pos_of_ne_nil hadded) htop hfirst
  · exact nomatch he.symm.trans h
  · exact nomatch he.symm.trans h

/-- What is found to be appended has been appended. -/
theorem appends_of_ofDiff {count : Nat}
    (h : ofDiff (ListDiff.ofKeys prev new) new.length = .append count) :
    ∃ bottom dropped, bottom.length = count ∧ Appends prev new bottom dropped := by
  obtain ⟨hprev, hadded⟩ := ne_nil_of_ofDiff (h.trans_ne fun e => nomatch e)
  rcases ofDiff_of_added (outcome_of_added hprev hadded) hadded new.length with
    ⟨-, -, he⟩ | ⟨-, hbottom, hlast, he⟩ | ⟨-, -, he⟩
  · exact nomatch he.symm.trans h
  · obtain rfl := Growth.append.inj (he.symm.trans h)
    exact appends_of_isBottom (List.length_pos_of_ne_nil hadded) hbottom hlast
  · exact nomatch he.symm.trans h

/-- A prepend is found from one end. -/
theorem exists_ofDiff_of_prepends {count kept : Nat} (h : Prepends prev new count kept) :
    ∃ fromEnd, ofDiff (ListDiff.ofKeys prev new fromEnd) new.length = .prepend count := by
  obtain ⟨fromEnd, htop, hfirst⟩ := exists_isTop_of_prepends h
  have hadded : (ListDiff.ofKeys prev new fromEnd).addedPlaces ≠ [] := by
    rw [hfirst]
    exact fun e => absurd (List.range_eq_nil.mp e) (Nat.ne_of_gt h.count_pos)
  have hprev : prev ≠ [] := List.ne_nil_of_length_pos (Nat.lt_of_lt_of_le h.kept_pos h.kept_le)
  have hcount : (ListDiff.ofKeys prev new fromEnd).addedPlaces.length = count := by
    rw [hfirst, List.length_range]
  refine ⟨fromEnd, ?_⟩
  rcases ofDiff_of_added (outcome_of_added hprev hadded) hadded new.length with
    ⟨-, -, he⟩ | ⟨hno, -⟩ | ⟨hno, -⟩
  · rw [he, hcount]
  · exact absurd ⟨htop, by rw [hcount]; exact hfirst⟩ hno
  · exact absurd ⟨htop, by rw [hcount]; exact hfirst⟩ hno

/-- From the front, an append is found to be one, or a prepend. -/
theorem ofDiff_of_appends {bottom : List κ} {dropped : Nat}
    (h : Appends prev new bottom dropped) :
    (∃ count, ofDiff (ListDiff.ofKeys prev new) new.length = .prepend count)
      ∨ ofDiff (ListDiff.ofKeys prev new) new.length = .append bottom.length := by
  obtain ⟨hbottom, hlast⟩ := isBottom_of_appends h
  have hadded : (ListDiff.ofKeys prev new).addedPlaces ≠ [] := by
    rw [hlast]
    intro e
    rw [List.range'_eq_nil_iff] at e
    exact h.bottom_ne_nil (List.length_eq_zero_iff.mp e)
  have hprev : prev ≠ [] :=
    List.ne_nil_of_length_pos (Nat.lt_of_le_of_lt (Nat.zero_le _) h.dropped_lt)
  have hcount : (ListDiff.ofKeys prev new).addedPlaces.length = bottom.length := by
    rw [hlast, List.length_range']
  rcases ofDiff_of_added (outcome_of_added hprev hadded) hadded new.length with
    ⟨-, -, he⟩ | ⟨-, -, -, he⟩ | ⟨-, hno, -⟩
  · exact Or.inl ⟨_, he⟩
  · exact Or.inr (by rw [he, hcount])
  · exact absurd ⟨hbottom, by rw [hcount]; exact hlast⟩ hno

omit [BEq κ] [LawfulBEq κ] in
/-- A prepend with fewer new entries keeps more, so that its first kept entry
is among the new ones of the other and the last of them, which the other lets
drop off, is still there. -/
theorem Prepends.count_le {count count' kept kept' : Nat} (h : Prepends prev new count kept)
    (h' : Prepends prev new count' kept') : count' ≤ count := by
  refine Nat.le_of_not_lt (fun hlt => ?_)
  obtain ⟨top, rfl, hnew, -⟩ := h.split
  obtain ⟨top', rfl, hnew', hdisjoint⟩ := h'.split
  have hlen := congrArg List.length (hnew.symm.trans hnew')
  rw [List.length_append, List.length_append, List.length_take_of_le h.kept_le,
    List.length_take_of_le h'.kept_le] at hlen
  have hpos := h.kept_pos
  have hle := h.kept_le
  have hfirst : prev[0] ∈ top' := by
    have hget : new[top.length]? = prev[0]? := by
      rw [hnew, List.getElem?_append_right (Nat.le_refl _), Nat.sub_self, List.getElem?_take,
        if_pos hpos]
    rw [hnew', List.getElem?_append_left hlt] at hget
    exact List.mem_of_getElem? (hget.trans (List.getElem?_eq_getElem (by omega)))
  have hlast : prev[kept'] ∈ prev.take kept :=
    List.mem_take_iff_getElem.mpr ⟨kept', by omega, rfl⟩
  rcases hdisjoint with hfront | hend
  · exact hfront hfirst (List.getElem_mem _)
  · refine hend (List.mem_iff_getElem.mpr ⟨0, by rw [List.length_drop]; omega, ?_⟩)
      (hnew ▸ List.mem_append_right top hlast)
    rw [List.getElem_drop]
    rfl

omit [LawfulBEq κ] in
/-- Pairing from either end may find a prepend; if neither does, what pairing
from the front finds holds. -/
theorem ofKeys_cases (prev new : List κ) :
    (∃ fromEnd count, ofDiff (ListDiff.ofKeys prev new fromEnd) new.length = .prepend count
        ∧ ofKeys prev new = .prepend count)
      ∨ ((∀ fromEnd count, ofDiff (ListDiff.ofKeys prev new fromEnd) new.length ≠ .prepend count)
        ∧ ofKeys prev new = ofDiff (ListDiff.ofKeys prev new) new.length) := by
  have hprepend : ∀ g : Growth, g.isPrepend = true → ∃ count, g = .prepend count := by
    intro g hg
    cases g with
    | prepend count => exact ⟨count, rfl⟩
    | none => exact absurd hg Bool.false_ne_true
    | insert => exact absurd hg Bool.false_ne_true
    | append count => exact absurd hg Bool.false_ne_true
  unfold ofKeys
  -- the end is only asked where the front finds no prepend
  by_cases hfront : (ofDiff (ListDiff.ofKeys prev new) new.length).isPrepend = true
  · obtain ⟨count, he⟩ := hprepend _ hfront
    exact Or.inl ⟨false, count, he, (if_pos hfront).trans he⟩
  · by_cases hend : (ofDiff (ListDiff.ofKeys prev new true) new.length).isPrepend = true
    · obtain ⟨count, he⟩ := hprepend _ hend
      exact Or.inl ⟨true, count, he, (if_neg hfront).trans ((if_pos hend).trans he)⟩
    · refine Or.inr ⟨fun fromEnd count he => ?_, (if_neg hfront).trans (if_neg hend)⟩
      cases fromEnd with
      | false => exact hfront (by rw [he]; rfl)
      | true => exact hend (by rw [he]; rfl)

/-- **A list is found to have grown on top exactly if it has.** -/
theorem ofKeys_eq_prepend_iff (prev new : List κ) (count : Nat) :
    ofKeys prev new = .prepend count ↔ ∃ kept, Prepends prev new count kept := by
  rcases ofKeys_cases prev new with ⟨fromEnd, count', hdiff, he⟩ | ⟨hno, he⟩
  · obtain ⟨kept', h'⟩ := prepends_of_ofDiff hdiff
    rw [he]
    constructor
    · intro e
      obtain rfl := Growth.prepend.inj e
      exact ⟨kept', h'⟩
    · rintro ⟨kept, h⟩
      exact congrArg _ (Nat.le_antisymm (h.count_le h') (h'.count_le h))
  · rw [he]
    refine iff_of_false (hno false count) ?_
    rintro ⟨kept, h⟩
    obtain ⟨fromEnd, hdiff⟩ := exists_ofDiff_of_prepends h
    exact hno fromEnd count hdiff

/-- **A list is found to have grown at the bottom exactly if it has**, and not
on top. -/
theorem ofKeys_eq_append_iff (prev new : List κ) (count : Nat) :
    ofKeys prev new = .append count ↔ (¬ ∃ count kept, Prepends prev new count kept)
      ∧ ∃ bottom dropped, bottom.length = count ∧ Appends prev new bottom dropped := by
  rcases ofKeys_cases prev new with ⟨fromEnd, count', hdiff, he⟩ | ⟨hno, he⟩
  · obtain ⟨kept', h'⟩ := prepends_of_ofDiff hdiff
    rw [he]
    exact iff_of_false (fun e => nomatch e) (fun h => h.1 ⟨count', kept', h'⟩)
  · have hnot : ¬ ∃ count kept, Prepends prev new count kept := by
      rintro ⟨count', kept, h⟩
      obtain ⟨fromEnd, hdiff⟩ := exists_ofDiff_of_prepends h
      exact hno fromEnd count' hdiff
    rw [he]
    constructor
    · exact fun e => ⟨hnot, appends_of_ofDiff e⟩
    · rintro ⟨-, bottom, dropped, rfl, h⟩
      rcases ofDiff_of_appends h with ⟨count', hdiff⟩ | hdiff
      · exact absurd hdiff (hno false count')
      · exact hdiff

/-- **A list is found not to have grown exactly if it was empty or has no more
of anything.** -/
theorem ofKeys_eq_none_iff (prev new : List κ) :
    ofKeys prev new = .none ↔ IsNoMore prev new := by
  rcases ofKeys_cases prev new with ⟨fromEnd, count', hdiff, he⟩ | ⟨-, he⟩
  · rw [he]
    refine iff_of_false (fun e => nomatch e) (fun h => ?_)
    rw [← ofDiff_ofKeys_eq_none_iff prev new fromEnd, hdiff] at h
    exact nomatch h
  · rw [he]
    exact ofDiff_ofKeys_eq_none_iff prev new false

end Lawful

/-! ## How a list of plays has grown -/

open ComparablePlay (tracks)

/-- **How a list of plays has grown is how their tracks have.** -/
theorem ofPlays?_plays (prev new : List ComparablePlay) :
    ofPlays? (ComparablePlay.plays prev) (ComparablePlay.plays new)
      = .ok (ofKeys (tracks prev) (tracks new)) := by
  unfold ofPlays? ofKeys
  rw [ListDiff.ofPlays?_plays, ListDiff.ofPlays?_plays, ComparablePlay.length_plays,
    ComparablePlay.length_tracks]
  simp only [Bind.bind, Except.bind]
  split <;> rfl

/-- Where entries were added, by how a list has grown. -/
theorem place?_eq_prepend_iff {g : Growth} :
    g.place? = some .prepend ↔ ∃ count, g = .prepend count := by
  cases g <;> simp [place?]

theorem place?_eq_append_iff {g : Growth} :
    g.place? = some .append ↔ ∃ count, g = .append count := by
  cases g <;> simp [place?]

theorem place?_eq_none_iff {g : Growth} : g.place? = Option.none ↔ g = .none := by
  cases g <;> simp [place?]

theorem place?_eq_insert_iff {g : Growth} : g.place? = some .insert
    ↔ g.place? ≠ Option.none ∧ g.place? ≠ some .prepend ∧ g.place? ≠ some .append := by
  cases g <;> simp [place?]

/-- Entries were added at one end only if and only if they were added on top
or at the bottom. -/
theorem isClean_iff {g : Growth} :
    g.isClean = true ↔ g.place? = some .prepend ∨ g.place? = some .append := by
  cases g <;> simp [place?, isClean]

/-- **Every pair of lists of plays is classified exactly.** A list has not
grown if the previous one was empty or there is no more of anything; it has
grown on top, or else at the bottom, if it is the previous one extended
there; and otherwise it has changed in some other way. Only plays at one end
are delivered, and those are the ones by which the list was extended. -/
theorem ofPlays?_classifies (prev new : List ComparablePlay) :
    ∃ g, ofPlays? (ComparablePlay.plays prev) (ComparablePlay.plays new) = .ok g
      ∧ (g.place? = Option.none ↔ IsNoMore (tracks prev) (tracks new))
      ∧ (g.place? = some .prepend
        ↔ ∃ count kept, Prepends (tracks prev) (tracks new) count kept)
      ∧ (g.place? = some .append
        ↔ (¬ ∃ count kept, Prepends (tracks prev) (tracks new) count kept)
          ∧ ∃ bottom dropped, Appends (tracks prev) (tracks new) bottom dropped)
      ∧ (g.place? = some .insert ↔ ¬ IsNoMore (tracks prev) (tracks new)
        ∧ (¬ ∃ count kept, Prepends (tracks prev) (tracks new) count kept)
        ∧ ¬ ∃ bottom dropped, Appends (tracks prev) (tracks new) bottom dropped)
      ∧ (g.isClean = true ↔ g.place? = some .prepend ∨ g.place? = some .append)
      ∧ (∀ count kept, Prepends (tracks prev) (tracks new) count kept →
        g.plays (ComparablePlay.plays new) = (ComparablePlay.plays new).take count)
      ∧ (g.place? = some .append →
        ∀ bottom dropped, Appends (tracks prev) (tracks new) bottom dropped →
          g.plays (ComparablePlay.plays new)
            = (ComparablePlay.plays new).drop (new.length - bottom.length))
      ∧ (g.isClean = false → g.plays (ComparablePlay.plays new) = []) := by
  have hnone := ofKeys_eq_none_iff (tracks prev) (tracks new)
  have hprepend : (ofKeys (tracks prev) (tracks new)).place? = some .prepend
      ↔ ∃ count kept, Prepends (tracks prev) (tracks new) count kept := by
    simp only [place?_eq_prepend_iff, ofKeys_eq_prepend_iff]
  have happend : (ofKeys (tracks prev) (tracks new)).place? = some .append
      ↔ (¬ ∃ count kept, Prepends (tracks prev) (tracks new) count kept)
        ∧ ∃ bottom dropped, Appends (tracks prev) (tracks new) bottom dropped := by
    simp only [place?_eq_append_iff, ofKeys_eq_append_iff, exists_and_left]
    refine and_congr_right (fun _ => ⟨?_, ?_⟩)
    · rintro ⟨_, bottom, -, dropped, h⟩
      exact ⟨bottom, dropped, h⟩
    · rintro ⟨bottom, dropped, h⟩
      exact ⟨_, bottom, rfl, dropped, h⟩
  rw [← place?_eq_none_iff] at hnone
  refine ⟨_, ofPlays?_plays prev new, hnone, hprepend, happend, ?_, isClean_iff, ?_, ?_, ?_⟩
  · rw [place?_eq_insert_iff, Ne, Ne, Ne, hnone, hprepend, happend, not_and]
    exact ⟨fun ⟨h₁, h₂, h₃⟩ => ⟨h₁, h₂, h₃ h₂⟩, fun ⟨h₁, h₂, h₃⟩ => ⟨h₁, h₂, fun _ => h₃⟩⟩
  · intro count kept h
    rw [(ofKeys_eq_prepend_iff _ _ count).mpr ⟨kept, h⟩]
    rfl
  · intro hplace bottom dropped h
    obtain ⟨count, he⟩ := place?_eq_append_iff.mp hplace
    have hno := ((ofKeys_eq_append_iff _ _ count).mp he).1
    rw [(ofKeys_eq_append_iff _ _ bottom.length).mpr ⟨hno, bottom, dropped, rfl, h⟩]
    show (ComparablePlay.plays new).drop _ = _
    rw [ComparablePlay.length_plays]
  · cases ofKeys (tracks prev) (tracks new) with
    | none => exact fun _ => rfl
    | insert => exact fun _ => rfl
    | prepend count => exact fun e => absurd e.symm Bool.false_ne_true
    | append count => exact fun e => absurd e.symm Bool.false_ne_true

end Listening.Growth
