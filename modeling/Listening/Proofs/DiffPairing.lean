import Listening.History.ListDiff
import Listening.Proofs.TypedPlays
import Mathlib.Data.List.Nodup
import Mathlib.Data.List.Perm.Basic
import Mathlib.Data.List.Zip
import Mathlib.Data.Option.Basic

/-!
# What the difference between two lists is

`ListDiff` pairs the entries of two lists by key, one entry of the new list
after the other, and each takes the first entry with its key that is left of
the previous list. The outcome can be said without that order of events:
`ListDiff.IsMatching` is a list of conditions, and the difference between two
lists of plays meets all of them, whichever end the occurrences are counted
from.

Counting from the end is counting in the reversed lists: the row of entries
is turned round before the pairing and the outcome is turned back. So every
fact below is proved for a row in either direction at once, and `turned` says
which.
-/

namespace Listening.ListDiff

/-! ## Rows in either direction -/

/-- A row as it is, or the other way round. -/
def turned {α : Type} (fromEnd : Bool) (as : List α) : List α :=
  if fromEnd then as.reverse else as

section Turned

variable {α β : Type} (fromEnd : Bool)

@[simp] theorem turned_nil : turned fromEnd ([] : List α) = [] := by
  cases fromEnd <;> rfl

@[simp] theorem turned_turned (as : List α) : turned fromEnd (turned fromEnd as) = as := by
  cases fromEnd
  · rfl
  · exact List.reverse_reverse as

@[simp] theorem length_turned (as : List α) : (turned fromEnd as).length = as.length := by
  cases fromEnd
  · rfl
  · exact List.length_reverse

@[simp] theorem mem_turned {a : α} {as : List α} : a ∈ turned fromEnd as ↔ a ∈ as := by
  cases fromEnd
  · rfl
  · exact List.mem_reverse

@[simp] theorem map_turned (f : α → β) (as : List α) :
    (turned fromEnd as).map f = turned fromEnd (as.map f) := by
  cases fromEnd
  · rfl
  · exact List.map_reverse ..

@[simp] theorem filter_turned (f : α → Bool) (as : List α) :
    (turned fromEnd as).filter f = turned fromEnd (as.filter f) := by
  cases fromEnd
  · rfl
  · exact List.filter_reverse ..

@[simp] theorem filterMap_turned (f : α → Option β) (as : List α) :
    (turned fromEnd as).filterMap f = turned fromEnd (as.filterMap f) := by
  cases fromEnd
  · rfl
  · exact List.filterMap_reverse ..

/-- Turning a row keeps its items. -/
theorem turned_perm (as : List α) : (turned fromEnd as).Perm as := by
  cases fromEnd
  · exact List.Perm.refl as
  · exact List.reverse_perm as

/-- A turned row that is part of another one is part of it once turned
back. -/
theorem turned_sublist {as bs : List α} (h : as.Sublist (turned fromEnd bs)) :
    (turned fromEnd as).Sublist bs := by
  cases fromEnd
  · exact h
  · exact List.reverse_sublist.mp (by rw [turned, if_pos rfl, List.reverse_reverse]; exact h)

end Turned

/-! ## What is asked of a difference -/

variable {κ κ' : Type}

/-- The places at which a key stands in a row of keys with places. -/
def placesOf [BEq κ] (key : κ) (ps : List (κ × Nat)) : List Nat :=
  (ps.filter fun p => p.1 == key).map Prod.snd

/-- **The places at which a key stands in a list**, in order. -/
def places [BEq κ] (key : κ) (keys : List κ) : List Nat := placesOf key keys.zipIdx

/-- **The pairs of places that a difference finds**: where an entry was, and
where it is now. -/
def pairs (d : ListDiff) : List (Nat × Nat) := d.entries.filterMap Entry.kept?

/-- The pairs of places at which a key stands. -/
def pairsOf [BEq κ] (new : List κ) (key : κ) (d : ListDiff) : List (Nat × Nat) :=
  d.pairs.filter fun p => new[p.2]? == some key

/-- The mirror image of a pair of places in lists of given lengths. -/
def mirrored (prevLength newLength : Nat) (p : Nat × Nat) : Nat × Nat :=
  (prevLength - 1 - p.1, newLength - 1 - p.2)

/-- **What the difference between two lists of keys has to be**, with
occurrences counted from the front or from the end. -/
structure IsMatching [BEq κ] (prev new : List κ) (fromEnd : Bool) (d : ListDiff) : Prop where
  /-- There is one entry for each place of the new list, and they are in
  order. -/
  newPlaces : d.entries.filterMap Entry.new? = List.range new.length
  /-- There is one entry for each place of the previous list. -/
  prevPlaces : (d.entries.filterMap Entry.prev?).Perm (List.range prev.length)
  /-- Entries of the new list come first, and after them the deleted ones, in
  the order of the previous list. -/
  order : ∃ present gone, d.entries = present ++ gone ∧ (∀ e ∈ present, e.new?.isSome = true)
    ∧ (∀ e ∈ gone, e.word = "deleted") ∧ (gone.filterMap Entry.prev?).Pairwise (· < ·)
  /-- An entry has two places if and only if it is equal or moved. -/
  twoPlaces : ∀ e ∈ d.entries, (e.prev?.isSome = true ∧ e.new?.isSome = true)
    ↔ (e.word = "equal" ∨ e.word = "moved")
  /-- It is equal if and only if both are the same place. -/
  onePlace : ∀ e ∈ d.entries, e.word = "equal" ↔ ∃ i, e.prev? = some i ∧ e.new? = some i
  /-- At both of its places stands the same key. -/
  sameKey : ∀ e ∈ d.entries, ∀ i j, e.prev? = some i → e.new? = some j →
    ∃ key, prev[i]? = some key ∧ new[j]? = some key
  /-- As many entries with a key are paired as both lists have. -/
  counted : ∀ key, (d.pairsOf new key).length = min (prev.count key) (new.count key)
  /-- The n-th occurrence of a key goes with the n-th one. -/
  inTurn : ∀ key, d.pairsOf new key
    = turned fromEnd ((turned fromEnd (places key prev)).zip (turned fromEnd (places key new)))
  /-- Nothing has changed if and only if the lists are the same. -/
  unchanged : d.outcome = .equal ↔ prev = new

/-! ## Taking entries out of a list -/

section Pairing

variable [BEq κ] [LawfulBEq κ]

/-- What is not in a list cannot be taken out of it. -/
theorem take_of_notMem {key : κ} {ps : List (κ × Nat)} (h : ∀ p ∈ ps, p.1 ≠ key) :
    take key ps = none := by
  induction ps with
  | nil => rfl
  | cons p rest ih =>
    have hp : ¬ (p.1 == key) = true := fun e => h p List.mem_cons_self (eq_of_beq e)
    rw [take, if_neg hp, ih (fun q hq => h q (List.mem_cons_of_mem p hq))]
    rfl

/-- The first entry with a key is the one taken out. -/
theorem take_append {key : κ} {front : List (κ × Nat)} (h : ∀ p ∈ front, p.1 ≠ key) (i : Nat)
    (back : List (κ × Nat)) :
    take key (front ++ (key, i) :: back) = some (i, front ++ back) := by
  induction front with
  | nil => exact if_pos (beq_self_eq_true key)
  | cons p front ih =>
    have hp : ¬ (p.1 == key) = true := fun e => h p List.mem_cons_self (eq_of_beq e)
    rw [List.cons_append, take, if_neg hp, ih (fun q hq => h q (List.mem_cons_of_mem p hq))]
    rfl

omit [BEq κ] [LawfulBEq κ] in
/-- A list either has no entry with a key or a first one. -/
theorem notMem_or_eq_append (key : κ) (ps : List (κ × Nat)) :
    (∀ p ∈ ps, p.1 ≠ key)
      ∨ ∃ front i back, ps = front ++ (key, i) :: back ∧ ∀ p ∈ front, p.1 ≠ key := by
  induction ps with
  | nil => exact Or.inl (fun p hp => absurd hp List.not_mem_nil)
  | cons q rest ih =>
    by_cases hq : q.1 = key
    · exact Or.inr ⟨[], q.2, rest, by rw [← hq]; rfl, fun p hp => absurd hp List.not_mem_nil⟩
    · rcases ih with h | ⟨front, i, back, rfl, h⟩
      · exact Or.inl (List.forall_mem_cons.mpr ⟨hq, h⟩)
      · exact Or.inr ⟨q :: front, i, back, rfl, List.forall_mem_cons.mpr ⟨hq, h⟩⟩

/-- An entry whose key is not left over is added. -/
theorem pair_cons_of_notMem {key : κ} {prev : List (κ × Nat)} (h : ∀ p ∈ prev, p.1 ≠ key)
    (j : Nat) (new : List (κ × Nat)) :
    pair prev ((key, j) :: new) = (.added j :: (pair prev new).1, (pair prev new).2) := by
  rw [pair, take_of_notMem h]

/-- An entry whose key is left over is kept. -/
theorem pair_cons_append {key : κ} {front : List (κ × Nat)} (h : ∀ p ∈ front, p.1 ≠ key)
    (i j : Nat) (back new : List (κ × Nat)) :
    pair (front ++ (key, i) :: back) ((key, j) :: new)
      = (.kept i j :: (pair (front ++ back) new).1, (pair (front ++ back) new).2) := by
  rw [pair, take_append h]

omit [BEq κ] [LawfulBEq κ] in
/-- **Induction along a pairing**: the new list is used up, or its first
entry is added, or it is kept. -/
theorem pair_induction {motive : List (κ × Nat) → List (κ × Nat) → Prop}
    (nil : ∀ prev, motive prev [])
    (added : ∀ prev key j new, (∀ p ∈ prev, p.1 ≠ key) → motive prev new →
      motive prev ((key, j) :: new))
    (kept : ∀ front key i back j new, (∀ p ∈ front, p.1 ≠ key) → motive (front ++ back) new →
      motive (front ++ (key, i) :: back) ((key, j) :: new))
    (prev new : List (κ × Nat)) : motive prev new := by
  induction new generalizing prev with
  | nil => exact nil prev
  | cons p new ih =>
    obtain ⟨key, j⟩ := p
    rcases notMem_or_eq_append key prev with h | ⟨front, i, back, rfl, h⟩
    · exact added prev key j new h (ih prev)
    · exact kept front key i back j new h (ih (front ++ back))

/-! ## What a pairing does -/

/-- Every entry of the previous list is in an entry of the outcome or left
over. -/
theorem perm_pair (prev new : List (κ × Nat)) :
    ((pair prev new).1.filterMap Entry.prev? ++ (pair prev new).2.map Prod.snd).Perm
      (prev.map Prod.snd) := by
  induction prev, new using pair_induction with
  | nil prev => exact List.Perm.refl _
  | added prev key j new h ih =>
    rw [pair_cons_of_notMem h]
    exact ih
  | kept front key i back j new h ih =>
    rw [pair_cons_append h, List.map_append, List.map_cons]
    rw [List.map_append] at ih
    exact (ih.cons i).trans List.perm_middle.symm

/-- What is left over keeps its order. -/
theorem sublist_pair (prev new : List (κ × Nat)) : (pair prev new).2.Sublist prev := by
  induction prev, new using pair_induction with
  | nil prev => exact List.Sublist.refl prev
  | added prev key j new h ih =>
    rw [pair_cons_of_notMem h]
    exact ih
  | kept front key i back j new h ih =>
    rw [pair_cons_append h]
    exact ih.trans ((List.sublist_cons_self (key, i) back).append_left front)

omit [LawfulBEq κ] in
/-- The entry of a new place is kept or added. -/
theorem isSome_new?_of_mem_pair {prev new : List (κ × Nat)} {e : Entry}
    (h : e ∈ (pair prev new).1) : e.new?.isSome = true := by
  have hnew : e.new? ∈ new.map fun p => some p.2 := by
    rw [← map_new?_pair prev new]
    exact List.mem_map_of_mem h
  obtain ⟨p, -, hp⟩ := List.mem_map.mp hnew
  rw [← hp]
  rfl

/-- **Two entries that are paired have the same key.** -/
theorem sameKey_of_mem_pair {prev new : List (κ × Nat)} {i j : Nat}
    (h : .kept i j ∈ (pair prev new).1) : ∃ key, (key, i) ∈ prev ∧ (key, j) ∈ new := by
  induction prev, new using pair_induction with
  | nil prev => exact absurd h List.not_mem_nil
  | added prev key j' new hk ih =>
    rw [pair_cons_of_notMem hk] at h
    obtain ⟨k, hp, hn⟩ := ih ((List.mem_cons.mp h).resolve_left (fun e => nomatch e))
    exact ⟨k, hp, List.mem_cons_of_mem _ hn⟩
  | kept front key i' back j' new hk ih =>
    rw [pair_cons_append hk] at h
    rcases List.mem_cons.mp h with e | h
    · obtain ⟨rfl, rfl⟩ := Entry.kept.inj e
      exact ⟨key, List.mem_append_right front List.mem_cons_self, List.mem_cons_self⟩
    · obtain ⟨k, hp, hn⟩ := ih h
      refine ⟨k, ?_, List.mem_cons_of_mem _ hn⟩
      exact ((List.sublist_cons_self (key, i') back).append_left front).subset hp

/-- Where the front of a row has no entry with a key, its places are those of
the rest. -/
theorem placesOf_append_of_notMem {key : κ} {front : List (κ × Nat)}
    (h : ∀ p ∈ front, p.1 ≠ key) (ps : List (κ × Nat)) :
    placesOf key (front ++ ps) = placesOf key ps := by
  have hfront : front.filter (fun p => p.1 == key) = [] :=
    List.filter_eq_nil_iff.mpr (fun p hp e => h p hp (eq_of_beq e))
  rw [placesOf, List.filter_append, hfront]
  rfl

theorem placesOf_cons_self (key : κ) (i : Nat) (ps : List (κ × Nat)) :
    placesOf key ((key, i) :: ps) = i :: placesOf key ps := by
  have hkey : ((key, i).1 == key) = true := beq_self_eq_true key
  rw [placesOf, List.filter_cons, if_pos hkey]
  rfl

theorem placesOf_cons_of_ne {key other : κ} (h : other ≠ key) (i : Nat)
    (ps : List (κ × Nat)) : placesOf key ((other, i) :: ps) = placesOf key ps := by
  rw [placesOf, List.filter_cons, if_neg (fun e => h (eq_of_beq e))]
  rfl

/-- **The n-th occurrence goes with the n-th one.** The pairs of places at
which a key stands are those of its places in the one row and in the other,
each in its order. -/
theorem filter_kept_pair {keyAt : Nat → Option κ} {prev new : List (κ × Nat)}
    (hnew : ∀ p ∈ new, keyAt p.2 = some p.1) (key : κ) :
    ((pair prev new).1.filterMap Entry.kept?).filter (fun p => keyAt p.2 == some key)
      = (placesOf key prev).zip (placesOf key new) := by
  induction prev, new using pair_induction with
  | nil prev => exact (List.zip_nil_right).symm
  | added prev k j new h ih =>
    rw [pair_cons_of_notMem h]
    have hrest := ih (fun p hp => hnew p (List.mem_cons_of_mem _ hp))
    by_cases hk : k = key
    · -- the key is used up, so neither row of places has a partner any more
      subst hk
      have hnone : placesOf k prev = [] := by
        have := placesOf_append_of_notMem h []
        rwa [List.append_nil] at this
      rw [hnone, List.zip_nil_left] at hrest ⊢
      exact hrest
    · rw [placesOf_cons_of_ne hk]
      exact hrest
  | kept front k i back j new h ih =>
    rw [pair_cons_append h]
    have hrest := ih (fun p hp => hnew p (List.mem_cons_of_mem _ hp))
    have hj : keyAt j = some k := hnew (k, j) List.mem_cons_self
    rw [List.filterMap_cons_some (show (Entry.kept i j).kept? = some (i, j) from rfl),
      List.filter_cons]
    by_cases hk : k = key
    · subst hk
      rw [if_pos (by rw [hj]; exact beq_self_eq_true (some k)), hrest,
        placesOf_append_of_notMem h, placesOf_append_of_notMem h, placesOf_cons_self,
        placesOf_cons_self, List.zip_cons_cons]
    · rw [if_neg (by rw [hj]; exact fun e => hk (Option.some.inj (eq_of_beq e))), hrest,
        placesOf_cons_of_ne hk]
      congr 1
      rw [placesOf, placesOf, List.filter_append, List.filter_append, List.filter_cons,
        if_neg (fun e => hk (eq_of_beq e))]

/-! ## Pairings that can be read off -/

/-- A new list is paired part by part. -/
theorem pair_append (prev new new' : List (κ × Nat)) :
    pair prev (new ++ new')
      = ((pair prev new).1 ++ (pair (pair prev new).2 new').1,
          (pair (pair prev new).2 new').2) := by
  induction prev, new using pair_induction with
  | nil prev => rfl
  | added prev key j new h ih =>
    rw [List.cons_append, pair_cons_of_notMem h, pair_cons_of_notMem h, ih]
    rfl
  | kept front key i back j new h ih =>
    rw [List.cons_append, pair_cons_append h, pair_cons_append h, ih]
    rfl

/-- Entries none of whose keys is left over are all added. -/
theorem pair_of_disjoint {prev new : List (κ × Nat)} (h : ∀ p ∈ prev, ∀ q ∈ new, p.1 ≠ q.1) :
    pair prev new = (new.map fun q => .added q.2, prev) := by
  induction new with
  | nil => rfl
  | cons q rest ih =>
    rw [pair_cons_of_notMem (fun p hp => h p hp q List.mem_cons_self),
      ih (fun p hp r hr => h p hp r (List.mem_cons_of_mem q hr))]
    rfl

/-- Entries of the previous list that no new entry asks for are left
over. -/
theorem pair_append_of_disjoint {front : List (κ × Nat)} (prev new : List (κ × Nat))
    (h : ∀ p ∈ front, ∀ q ∈ new, p.1 ≠ q.1) :
    pair (front ++ prev) new = ((pair prev new).1, front ++ (pair prev new).2) := by
  induction prev, new using pair_induction with
  | nil prev => rfl
  | added prev key j new hk ih =>
    have hfront : ∀ p ∈ front ++ prev, p.1 ≠ key := by
      intro p hp
      rcases List.mem_append.mp hp with hp | hp
      · exact h p hp (key, j) List.mem_cons_self
      · exact hk p hp
    rw [pair_cons_of_notMem hk, pair_cons_of_notMem hfront,
      ih (fun p hp q hq => h p hp q (List.mem_cons_of_mem _ hq))]
  | kept middle key i back j new hk ih =>
    have hfront : ∀ p ∈ front ++ middle, p.1 ≠ key := by
      intro p hp
      rcases List.mem_append.mp hp with hp | hp
      · exact h p hp (key, j) List.mem_cons_self
      · exact hk p hp
    rw [pair_cons_append hk, ← List.append_assoc, pair_cons_append hfront, List.append_assoc,
      ih (fun p hp q hq => h p hp q (List.mem_cons_of_mem _ hq))]

/-- **A list paired with a continuation of itself is kept**, entry by entry,
and the rest is left over. -/
theorem pair_of_map_fst_eq {same new : List (κ × Nat)} (rest : List (κ × Nat))
    (h : same.map Prod.fst = new.map Prod.fst) :
    pair (same ++ rest) new = (List.zipWith (fun p q => .kept p.2 q.2) same new, rest) := by
  induction same generalizing new with
  | nil =>
    rw [List.map_eq_nil_iff.mp h.symm]
    rfl
  | cons p same ih =>
    cases new with
    | nil => exact nomatch h
    | cons q new =>
      obtain ⟨key, i⟩ := p
      obtain ⟨key', j⟩ := q
      obtain ⟨rfl, hrest⟩ := List.cons.inj h
      have hfirst : ∀ p ∈ ([] : List (κ × Nat)), p.1 ≠ key :=
        fun p hp => absurd hp List.not_mem_nil
      have hstep := pair_cons_append hfirst i j (same ++ rest) new
      rw [List.nil_append, List.nil_append, ih hrest] at hstep
      exact hstep

/-- A list paired with itself is kept as it is. -/
theorem pair_self (ps : List (κ × Nat)) :
    pair ps ps = (ps.map fun p => .kept p.2 p.2, []) := by
  have hself := pair_of_map_fst_eq [] (rfl : ps.map Prod.fst = ps.map Prod.fst)
  rwa [List.append_nil, List.zipWith_self] at hself

end Pairing

/-! ## Renaming keys and places -/

/-- An entry with its places renamed. -/
def Entry.renamed (f g : Nat → Nat) : Entry → Entry
  | .kept i j => .kept (f i) (g j)
  | .added j => .added (g j)
  | .deleted i => .deleted (f i)

/-- Taking an entry out of a list does not go by what keys and places are,
as long as the same keys agree. -/
theorem take_map [BEq κ] [BEq κ'] (r : κ → κ') (f : Nat → Nat) {key : κ}
    {ps : List (κ × Nat)} (h : ∀ p ∈ ps, (r p.1 == r key) = (p.1 == key)) :
    take (r key) (ps.map (Prod.map r f))
      = (take key ps).map (Prod.map f (List.map (Prod.map r f))) := by
  induction ps with
  | nil => rfl
  | cons p rest ih =>
    have hp : (r p.1 == r key) = (p.1 == key) := h p List.mem_cons_self
    have hrest := ih (fun q hq => h q (List.mem_cons_of_mem p hq))
    rw [List.map_cons]
    show (if r p.1 == r key then _ else _) = Option.map _ (if p.1 == key then _ else _)
    rw [hp, hrest]
    by_cases hk : (p.1 == key) = true
    · rw [if_pos hk, if_pos hk]
      rfl
    · rw [if_neg hk, if_neg hk, Option.map_map, Option.map_map]
      rfl

/-- What is left over by a taking keeps its order. -/
theorem sublist_take [BEq κ] {key : κ} {ps left : List (κ × Nat)} {i : Nat}
    (h : take key ps = some (i, left)) : left.Sublist ps := by
  induction ps generalizing left with
  | nil => exact absurd h.symm (Option.some_ne_none _)
  | cons p rest ih =>
    rw [take] at h
    by_cases hk : (p.1 == key) = true
    · rw [if_pos hk] at h
      obtain ⟨-, rfl⟩ := Prod.mk.inj (Option.some.inj h)
      exact List.sublist_cons_self p rest
    · rw [if_neg hk] at h
      obtain ⟨⟨j, others⟩, hrest, he⟩ := Option.map_eq_some_iff.mp h
      obtain ⟨rfl, rfl⟩ := Prod.mk.inj he
      exact (ih hrest).cons_cons p

/-- **A pairing does not depend on what keys and places are called.** -/
theorem pair_map [BEq κ] [BEq κ'] (r : κ → κ') (f g : Nat → Nat) {prev new : List (κ × Nat)}
    (h : ∀ p ∈ prev, ∀ q ∈ new, (r p.1 == r q.1) = (p.1 == q.1)) :
    pair (prev.map (Prod.map r f)) (new.map (Prod.map r g))
      = ((pair prev new).1.map (Entry.renamed f g),
          (pair prev new).2.map (Prod.map r f)) := by
  induction new generalizing prev with
  | nil => rfl
  | cons q rest ih =>
    obtain ⟨key, j⟩ := q
    have htake := take_map r f (fun p hp => h p hp (key, j) List.mem_cons_self)
    rw [List.map_cons]
    show pair _ ((r key, g j) :: _) = _
    unfold pair
    rw [htake]
    cases ht : take key prev with
    | none =>
      have hrest := ih (fun p hp q hq => h p hp q (List.mem_cons_of_mem _ hq))
      simp only [Option.map_none, hrest]
      rfl
    | some taken =>
      obtain ⟨i, left⟩ := taken
      have hrest := @ih left
        (fun p hp q hq => h p ((sublist_take ht).subset hp) q (List.mem_cons_of_mem _ hq))
      simp only [Option.map_some, Prod.map, hrest]
      rfl

/-! ## Lists of keys -/

section Keys

variable [BEq κ]

/-- The previous list left over by the pairing of two lists of keys. -/
def leftOver (prev new : List κ) (fromEnd : Bool) : List (κ × Nat) :=
  turned fromEnd (pair (turned fromEnd prev.zipIdx) (turned fromEnd new.zipIdx)).2

/-- The entries of the new list that the pairing of two lists of keys
brings. -/
def present (prev new : List κ) (fromEnd : Bool) : List Entry :=
  turned fromEnd (pair (turned fromEnd prev.zipIdx) (turned fromEnd new.zipIdx)).1

/-- The entries of a difference: those of the new list, and the deleted
ones. -/
theorem entriesOfKeys_eq (prev new : List κ) (fromEnd : Bool) :
    entriesOfKeys prev new fromEnd
      = present prev new fromEnd ++ (leftOver prev new fromEnd).map fun p => .deleted p.2 := by
  cases fromEnd <;> rfl

/-- Nothing has changed if and only if every entry is where it was. -/
theorem outcome_ofKeys_eq_equal_iff (prev new : List κ) (fromEnd : Bool) :
    (ofKeys prev new fromEnd).outcome = .equal
      ↔ ∀ e ∈ entriesOfKeys prev new fromEnd, e.isEqual = true := by
  rw [← List.all_eq_true]
  show (if (entriesOfKeys prev new fromEnd).all Entry.isEqual = true then _ else _) = _ ↔ _
  by_cases h : (entriesOfKeys prev new fromEnd).all Entry.isEqual = true
  · rw [if_pos h]
    exact iff_of_true rfl h
  · rw [if_neg h]
    refine iff_of_false (fun e => ?_) h
    split at e
    · exact nomatch e
    · split at e <;> exact nomatch e

omit [BEq κ] in
theorem filterMap_kept?_deleted (ps : List (κ × Nat)) :
    (ps.map fun p => Entry.deleted p.2).filterMap Entry.kept? = [] := by
  induction ps with
  | nil => rfl
  | cons p rest ih => exact ih

omit [BEq κ] in
theorem filterMap_new?_deleted (ps : List (κ × Nat)) :
    (ps.map fun p => Entry.deleted p.2).filterMap Entry.new? = [] := by
  induction ps with
  | nil => rfl
  | cons p rest ih => exact ih

omit [BEq κ] in
theorem filterMap_prev?_deleted (ps : List (κ × Nat)) :
    (ps.map fun p => Entry.deleted p.2).filterMap Entry.prev? = ps.map Prod.snd := by
  induction ps with
  | nil => rfl
  | cons p rest ih =>
    have hplace : (Entry.deleted p.2).prev? = some p.2 := rfl
    rw [List.map_cons, List.filterMap_cons_some hplace, ih, List.map_cons]

/-- The pairs of a difference are among its entries of the new list. -/
theorem pairs_ofKeys (prev new : List κ) (fromEnd : Bool) :
    (ofKeys prev new fromEnd).pairs = (present prev new fromEnd).filterMap Entry.kept? := by
  show (entriesOfKeys prev new fromEnd).filterMap Entry.kept? = _
  rw [entriesOfKeys_eq, List.filterMap_append, filterMap_kept?_deleted, List.append_nil]

/-- As often as a key stands in a list, so many places it has. -/
theorem length_places (key : κ) (keys : List κ) : (places key keys).length = keys.count key := by
  rw [places, placesOf, List.length_map, ← List.countP_eq_length_filter, List.count]
  conv_rhs => rw [← List.zipIdx_map_fst 0 keys, List.countP_map]
  rfl

/-- The entries of the new list are there, each in its place. -/
theorem map_new?_present (prev new : List κ) (fromEnd : Bool) :
    (present prev new fromEnd).map Entry.new? = (List.range new.length).map some := by
  rw [present, map_turned, map_new?_pair, ← map_turned, turned_turned, List.range_eq_range',
    ← List.zipIdx_map_snd 0 new, List.map_map]
  rfl

/-- There is one entry for each place of the new list, and they are in
order. -/
theorem filterMap_new?_present (prev new : List κ) (fromEnd : Bool) :
    (present prev new fromEnd).filterMap Entry.new? = List.range new.length := by
  calc (present prev new fromEnd).filterMap Entry.new?
      = ((present prev new fromEnd).map Entry.new?).filterMap id := by
        rw [List.filterMap_map]; rfl
    _ = List.range new.length := by
        rw [map_new?_present, List.filterMap_map]
        exact List.filterMap_some

/-- The entry of a new place is kept or added. -/
theorem isSome_new?_of_mem_present {prev new : List κ} {fromEnd : Bool} {e : Entry}
    (h : e ∈ present prev new fromEnd) : e.new?.isSome = true :=
  isSome_new?_of_mem_pair ((mem_turned fromEnd).mp h)

end Keys

section LawfulKeys

variable [BEq κ] [LawfulBEq κ]

/-- What is left over of the previous list is a part of it, in its order. -/
theorem sublist_leftOver (prev new : List κ) (fromEnd : Bool) :
    (leftOver prev new fromEnd).Sublist prev.zipIdx :=
  turned_sublist fromEnd (sublist_pair _ _)

/-- Every place of the previous list is in an entry or left over. -/
theorem perm_present (prev new : List κ) (fromEnd : Bool) :
    ((present prev new fromEnd).filterMap Entry.prev?
        ++ (leftOver prev new fromEnd).map Prod.snd).Perm (List.range prev.length) := by
  have hpair := perm_pair (turned fromEnd prev.zipIdx) (turned fromEnd new.zipIdx)
  rw [map_turned, List.zipIdx_map_snd, ← List.range_eq_range'] at hpair
  rw [present, leftOver, filterMap_turned, map_turned]
  exact ((turned_perm fromEnd _).append (turned_perm fromEnd _)).trans
    (hpair.trans (turned_perm fromEnd _))

/-- Two entries that are paired have the same key. -/
theorem sameKey_of_mem_present {prev new : List κ} {fromEnd : Bool} {i j : Nat}
    (h : .kept i j ∈ present prev new fromEnd) :
    ∃ key, prev[i]? = some key ∧ new[j]? = some key := by
  obtain ⟨key, hp, hn⟩ := sameKey_of_mem_pair ((mem_turned fromEnd).mp h)
  exact ⟨key, List.mk_mem_zipIdx_iff_getElem?.mp ((mem_turned fromEnd).mp hp),
    List.mk_mem_zipIdx_iff_getElem?.mp ((mem_turned fromEnd).mp hn)⟩

/-- **The n-th occurrence of a key goes with the n-th one**, from whichever
end they are counted. -/
theorem pairsOf_ofKeys (prev new : List κ) (fromEnd : Bool) (key : κ) :
    (ofKeys prev new fromEnd).pairsOf new key
      = turned fromEnd
          ((turned fromEnd (places key prev)).zip (turned fromEnd (places key new))) := by
  -- the place of an entry tells its key, however the row is turned
  have hnew : ∀ p ∈ turned fromEnd new.zipIdx, new[p.2]? = some p.1 :=
    fun p hp => List.mem_zipIdx_iff_getElem?.mp ((mem_turned fromEnd).mp hp)
  rw [pairsOf, pairs_ofKeys, present, filterMap_turned, filter_turned, filter_kept_pair hnew key]
  simp only [placesOf, places, filter_turned, map_turned]

/-- A place of a key is a place where the key stands. -/
theorem mem_places {key : κ} {keys : List κ} {i : Nat} :
    i ∈ places key keys ↔ keys[i]? = some key := by
  constructor
  · intro h
    obtain ⟨p, hp, rfl⟩ := List.mem_map.mp h
    obtain ⟨hmem, hkey⟩ := List.mem_filter.mp hp
    rw [← eq_of_beq hkey]
    exact List.mem_zipIdx_iff_getElem?.mp hmem
  · intro h
    exact List.mem_map.mpr ⟨(key, i), List.mem_filter.mpr
      ⟨List.mk_mem_zipIdx_iff_getElem?.mpr h, beq_self_eq_true key⟩, rfl⟩

omit [LawfulBEq κ] in
/-- The places of a key are in order. -/
theorem pairwise_places (key : κ) (keys : List κ) : (places key keys).Pairwise (· < ·) := by
  have hsub : (places key keys).Sublist (List.range keys.length) := by
    rw [List.range_eq_range', ← List.zipIdx_map_snd 0 keys]
    exact List.filter_sublist.map Prod.snd
  exact List.pairwise_lt_range.sublist hsub

/-- The occurrences that are counted first are a pair. -/
theorem mem_pairs_of_places_eq_cons {prev new : List κ} {fromEnd : Bool} {key : κ} {i j : Nat}
    {is js : List Nat} (hi : turned fromEnd (places key prev) = i :: is)
    (hj : turned fromEnd (places key new) = j :: js) :
    (i, j) ∈ (ofKeys prev new fromEnd).pairs := by
  have hmem : (i, j) ∈ (ofKeys prev new fromEnd).pairsOf new key := by
    rw [pairsOf_ofKeys, hi, hj, mem_turned]
    exact List.mem_cons_self
  exact (List.mem_filter.mp hmem).1

omit [BEq κ] [LawfulBEq κ] in
/-- A member of an ordered row does not come before the first one. -/
theorem exists_eq_cons_of_mem {r : Nat → Nat → Prop} {l : List Nat} (h : l.Pairwise r) {k : Nat}
    (hk : k ∈ l) : ∃ k₀ ks, l = k₀ :: ks ∧ (k₀ = k ∨ r k₀ k) := by
  cases l with
  | nil => exact absurd hk List.not_mem_nil
  | cons k₀ ks =>
    refine ⟨k₀, ks, rfl, ?_⟩
    rcases List.mem_cons.mp hk with rfl | hk
    · exact Or.inl rfl
    · exact Or.inr ((List.pairwise_cons.mp h).1 k hk)

/-- **A key of both lists is kept from the front.** No occurrence of it comes
before the first ones, which are a pair. -/
theorem exists_mem_pairs_le {prev new : List κ} {key : κ} {i j : Nat}
    (hi : prev[i]? = some key) (hj : new[j]? = some key) :
    ∃ p ∈ (ofKeys prev new).pairs, p.1 ≤ i ∧ p.2 ≤ j := by
  obtain ⟨i₀, is, his, hle⟩ :=
    exists_eq_cons_of_mem (pairwise_places key prev) (mem_places.mpr hi)
  obtain ⟨j₀, js, hjs, hle'⟩ :=
    exists_eq_cons_of_mem (pairwise_places key new) (mem_places.mpr hj)
  exact ⟨(i₀, j₀), mem_pairs_of_places_eq_cons his hjs, by omega, by omega⟩

/-- **A key of both lists is kept from the end.** No occurrence of it comes
after the last ones, which are a pair if occurrences are counted from the
end. -/
theorem exists_mem_pairs_ge {prev new : List κ} {key : κ} {i j : Nat}
    (hi : prev[i]? = some key) (hj : new[j]? = some key) :
    ∃ p ∈ (ofKeys prev new true).pairs, i ≤ p.1 ∧ j ≤ p.2 := by
  have hreverse : ∀ keys : List κ, (places key keys).reverse.Pairwise (fun a b => b < a) :=
    fun keys => List.pairwise_reverse.mpr (pairwise_places key keys)
  obtain ⟨i₀, is, his, hle⟩ :=
    exists_eq_cons_of_mem (hreverse prev) (List.mem_reverse.mpr (mem_places.mpr hi))
  obtain ⟨j₀, js, hjs, hle'⟩ :=
    exists_eq_cons_of_mem (hreverse new) (List.mem_reverse.mpr (mem_places.mpr hj))
  exact ⟨(i₀, j₀), mem_pairs_of_places_eq_cons his hjs, by omega, by omega⟩

/-- A list and itself differ nowhere. -/
theorem isEqual_of_mem_entriesOfKeys_self {keys : List κ} {fromEnd : Bool} {e : Entry}
    (h : e ∈ entriesOfKeys keys keys fromEnd) : e.isEqual = true := by
  rw [entriesOfKeys_eq, present, leftOver, pair_self, turned_nil, List.map_nil,
    List.append_nil] at h
  obtain ⟨p, -, rfl⟩ := List.mem_map.mp ((mem_turned fromEnd).mp h)
  exact decide_eq_true rfl

/-- At both places of an entry stands the same key. -/
theorem sameKey_of_mem_entriesOfKeys {prev new : List κ} {fromEnd : Bool} {e : Entry}
    (h : e ∈ entriesOfKeys prev new fromEnd) {i j : Nat} (hi : e.prev? = some i)
    (hj : e.new? = some j) : ∃ key, prev[i]? = some key ∧ new[j]? = some key := by
  rw [entriesOfKeys_eq] at h
  rcases List.mem_append.mp h with h | h
  · cases e with
    | kept i' j' =>
      obtain rfl : i' = i := Option.some.inj hi
      obtain rfl : j' = j := Option.some.inj hj
      exact sameKey_of_mem_present h
    | added j' => exact nomatch hi
    | deleted i' => exact nomatch hj
  · obtain ⟨p, -, rfl⟩ := List.mem_map.mp h
    exact nomatch hj

omit [LawfulBEq κ] in
/-- There is one entry for each place of the new list, and they are in
order. -/
theorem filterMap_new?_entriesOfKeys (prev new : List κ) (fromEnd : Bool) :
    (entriesOfKeys prev new fromEnd).filterMap Entry.new? = List.range new.length := by
  rw [entriesOfKeys_eq, List.filterMap_append, filterMap_new?_deleted, List.append_nil,
    filterMap_new?_present]

/-- There is one entry for each place of the previous list. -/
theorem perm_filterMap_prev?_entriesOfKeys (prev new : List κ) (fromEnd : Bool) :
    ((entriesOfKeys prev new fromEnd).filterMap Entry.prev?).Perm (List.range prev.length) := by
  rw [entriesOfKeys_eq, List.filterMap_append, filterMap_prev?_deleted]
  exact perm_present prev new fromEnd

/-- **Lists without a difference are the same.** Every place of either list
is in an entry, every entry is where it was, and so both lists have the same
key there. -/
theorem eq_of_forall_isEqual {prev new : List κ} {fromEnd : Bool}
    (h : ∀ e ∈ entriesOfKeys prev new fromEnd, e.isEqual = true) : prev = new := by
  have hplace : ∀ e ∈ entriesOfKeys prev new fromEnd, ∀ i, (e.prev? = some i ∨ e.new? = some i) →
      prev[i]? = new[i]? := by
    intro e he i hi
    cases e with
    | kept i' j' =>
      obtain rfl : i' = j' := of_decide_eq_true (h _ he)
      obtain rfl : i' = i := by rcases hi with hi | hi <;> exact Option.some.inj hi
      obtain ⟨key, hp, hn⟩ := sameKey_of_mem_entriesOfKeys he rfl rfl
      rw [hp, hn]
    | added j' => exact absurd (h _ he) Bool.false_ne_true
    | deleted i' => exact absurd (h _ he) Bool.false_ne_true
  refine List.ext_getElem? (fun i => ?_)
  -- a place of either list has an entry; beyond both there is nothing to compare
  by_cases hi : i < new.length
  · have hmem : i ∈ (entriesOfKeys prev new fromEnd).filterMap Entry.new? := by
      rw [filterMap_new?_entriesOfKeys]
      exact List.mem_range.mpr hi
    obtain ⟨e, he, hei⟩ := List.mem_filterMap.mp hmem
    exact hplace e he i (Or.inr hei)
  · by_cases hi' : i < prev.length
    · have hmem : i ∈ (entriesOfKeys prev new fromEnd).filterMap Entry.prev? :=
        (perm_filterMap_prev?_entriesOfKeys prev new fromEnd).mem_iff.mpr
          (List.mem_range.mpr hi')
      obtain ⟨e, he, hei⟩ := List.mem_filterMap.mp hmem
      exact hplace e he i (Or.inl hei)
    · rw [List.getElem?_eq_none (Nat.le_of_not_lt hi),
        List.getElem?_eq_none (Nat.le_of_not_lt hi')]

/-- **The difference between two lists of keys is a matching.** -/
theorem isMatching_ofKeys (prev new : List κ) (fromEnd : Bool) :
    (ofKeys prev new fromEnd).IsMatching prev new fromEnd where
  newPlaces := filterMap_new?_entriesOfKeys prev new fromEnd
  prevPlaces := perm_filterMap_prev?_entriesOfKeys prev new fromEnd
  order := by
    refine ⟨_, _, entriesOfKeys_eq prev new fromEnd, fun e he => isSome_new?_of_mem_present he,
      fun e he => ?_, ?_⟩
    · obtain ⟨p, -, rfl⟩ := List.mem_map.mp he
      rfl
    · rw [filterMap_prev?_deleted]
      have hsub := (sublist_leftOver prev new fromEnd).map Prod.snd
      rw [List.zipIdx_map_snd, ← List.range_eq_range'] at hsub
      exact List.pairwise_lt_range.sublist hsub
  twoPlaces := by
    intro e _
    cases e with
    | kept i j =>
      refine iff_of_true ⟨rfl, rfl⟩ ?_
      by_cases h : i = j
      · exact Or.inl (if_pos h)
      · exact Or.inr (if_neg h)
    | added j => simp [Entry.prev?, Entry.word]
    | deleted i => simp [Entry.new?, Entry.word]
  onePlace := by
    intro e _
    cases e with
    | kept i j =>
      by_cases h : i = j
      · exact iff_of_true (if_pos h) ⟨i, rfl, by rw [h]; rfl⟩
      · refine iff_of_false (fun hw => ?_) ?_
        · rw [show (Entry.kept i j).word = "moved" from if_neg h] at hw
          exact absurd hw (by decide)
        · rintro ⟨k, hi, hj⟩
          exact h ((Option.some.inj hi).trans (Option.some.inj hj).symm)
    | added j =>
      refine iff_of_false (by simp [Entry.word]) ?_
      rintro ⟨k, hi, -⟩
      cases hi
    | deleted i =>
      refine iff_of_false (by simp [Entry.word]) ?_
      rintro ⟨k, -, hj⟩
      cases hj
  sameKey := fun e he i j hi hj => sameKey_of_mem_entriesOfKeys he hi hj
  counted := by
    intro key
    rw [pairsOf_ofKeys, length_turned, List.length_zip, length_turned, length_turned,
      length_places, length_places]
  inTurn := pairsOf_ofKeys prev new fromEnd
  unchanged := by
    rw [outcome_ofKeys_eq_equal_iff]
    constructor
    · exact eq_of_forall_isEqual
    · rintro rfl e he
      exact isEqual_of_mem_entriesOfKeys_self he

/-! ## The mirror image -/

omit [BEq κ] [LawfulBEq κ] in
/-- A list with its places, the other way round, is the reversed list with
the places counted from the end. -/
theorem reverse_zipIdx (keys : List κ) :
    keys.zipIdx.reverse = keys.reverse.zipIdx.map (Prod.map id (keys.length - 1 - ·)) := by
  refine List.ext_getElem (by simp) (fun i h₁ h₂ => ?_)
  simp [List.getElem_reverse]

omit [LawfulBEq κ] in
/-- **Counting from the end is counting in the reversed lists.** -/
theorem pairs_ofKeys_true (prev new : List κ) :
    (ofKeys prev new true).pairs
      = ((ofKeys prev.reverse new.reverse).pairs.map
          (mirrored prev.length new.length)).reverse := by
  have hsame : ∀ p ∈ prev.reverse.zipIdx, ∀ q ∈ new.reverse.zipIdx,
      (id p.1 == id q.1) = (p.1 == q.1) := fun _ _ _ _ => rfl
  have hpair := pair_map id (prev.length - 1 - ·) (new.length - 1 - ·) hsame
  rw [← reverse_zipIdx, ← reverse_zipIdx] at hpair
  have hentries : present prev new true
      = ((present prev.reverse new.reverse false).map
          (Entry.renamed (prev.length - 1 - ·) (new.length - 1 - ·))).reverse :=
    congrArg (fun r => r.1.reverse) hpair
  rw [pairs_ofKeys, pairs_ofKeys, hentries, List.filterMap_reverse, List.filterMap_map,
    List.map_filterMap]
  congr 2
  funext e
  cases e <;> rfl

end LawfulKeys

/-! ## Lists of plays -/

open ComparablePlay

/-- **A difference does not go by what keys are**, as long as the same keys
agree. -/
theorem ofKeys_map [BEq κ] [BEq κ'] (r : κ → κ') {prev new : List κ} (fromEnd : Bool)
    (h : ∀ a ∈ prev, ∀ b ∈ new, (r a == r b) = (a == b)) :
    ofKeys (prev.map r) (new.map r) fromEnd = ofKeys prev new fromEnd := by
  have hkeys : ∀ p ∈ turned fromEnd prev.zipIdx, ∀ q ∈ turned fromEnd new.zipIdx,
      (r p.1 == r q.1) = (p.1 == q.1) := by
    intro p hp q hq
    exact h p.1 (List.fst_mem_of_mem_zipIdx ((mem_turned fromEnd).mp hp))
      q.1 (List.fst_mem_of_mem_zipIdx ((mem_turned fromEnd).mp hq))
  have hpair := pair_map r id id hkeys
  have hid : Entry.renamed id id = id := by
    funext e
    cases e <;> rfl
  rw [hid, List.map_id, map_turned, map_turned, ← List.zipIdx_map, ← List.zipIdx_map] at hpair
  have hentries : entriesOfKeys (prev.map r) (new.map r) fromEnd
      = entriesOfKeys prev new fromEnd := by
    rw [entriesOfKeys_eq, entriesOfKeys_eq, present, present, leftOver, leftOver, hpair,
      ← map_turned, List.map_map]
    rfl
  unfold ofKeys
  rw [hentries, List.isEmpty_map, List.isEmpty_map]

/-- **The difference between two lists of plays is that between their
tracks.** -/
theorem ofPlays?_plays (prev new : List ComparablePlay) (fromEnd : Bool) :
    ofPlays? (plays prev) (plays new) fromEnd
      = .ok (ofKeys (tracks prev) (tracks new) fromEnd) := by
  unfold ofPlays?
  by_cases hempty : ((plays prev).isEmpty || (plays new).isEmpty) = true
  · -- nothing is compared, so the keys might as well be the tracks
    have hnone : ∀ a ∈ tracks prev, ∀ b ∈ tracks new,
        ((fun _ => () : Track → Unit) a == (fun _ => ()) b) = (a == b) := by
      intro a ha b hb
      rcases Bool.or_eq_true_iff.mp hempty with he | he
      · rw [plays, List.isEmpty_map, List.isEmpty_iff] at he
        exact absurd ha (by rw [he]; exact List.not_mem_nil)
      · rw [plays, List.isEmpty_map, List.isEmpty_iff] at he
        exact absurd hb (by rw [he]; exact List.not_mem_nil)
    rw [if_pos hempty, ← ofKeys_map (fun _ => ()) fromEnd hnone]
    simp only [plays, tracks, List.map_map]
    rfl
  · rw [if_neg hempty, mapM_label?, mapM_label?,
      ← ofKeys_map Track.identity fromEnd (fun _ _ _ _ => rfl)]
    rfl

/-- **The difference between two lists of plays is a complete, maximal and
order-preserving matching**, from whichever end occurrences are counted; and
counting from the end finds the mirror images of the pairs that counting from
the front finds in the reversed lists. -/
theorem ofPlays?_isMatching (prev new : List ComparablePlay) :
    (∀ fromEnd, ∃ d, ofPlays? (plays prev) (plays new) fromEnd = .ok d
      ∧ d.IsMatching (tracks prev) (tracks new) fromEnd)
    ∧ ∃ d d', ofPlays? (plays prev) (plays new) true = .ok d
      ∧ ofPlays? (plays prev).reverse (plays new).reverse = .ok d'
      ∧ d.pairs = (d'.pairs.map (mirrored prev.length new.length)).reverse := by
  refine ⟨fun fromEnd => ⟨_, ofPlays?_plays prev new fromEnd, isMatching_ofKeys _ _ _⟩,
    ofKeys (tracks prev) (tracks new) true, ofKeys (tracks prev).reverse (tracks new).reverse,
    ofPlays?_plays prev new true, ?_, ?_⟩
  · rw [← plays_reverse, ← plays_reverse, ← tracks_reverse, ← tracks_reverse]
    exact ofPlays?_plays prev.reverse new.reverse false
  · rw [pairs_ofKeys_true, length_tracks, length_tracks]

end Listening.ListDiff
