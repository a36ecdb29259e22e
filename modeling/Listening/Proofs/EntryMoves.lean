import Listening.Proofs.ListGrowth

/-!
# How one entry has moved, said of the lists

`Bump` reads off a difference whether a single entry was moved to an end. It
can be said of the lists alone, too: `Bump.Raises` is the list with one entry
taken out and put on top. Pairing goes from the front, so the entry must be
the first of its kind – a later occurrence that moves up takes the place of
the first one, and the entries after that no longer stand where they were.
-/

namespace Listening.Bump

open ListDiff Growth

variable {κ : Type}

/-- **One entry moved to the top**: the new list is the entry at a place of
the previous one, followed by all the others, and it is the first of its
kind. -/
structure Raises (prev new : List κ) (place : Nat) : Prop where
  /-- The entry was not on top. -/
  place_pos : 0 < place
  /-- It is on top now, and the others have stayed as they were. -/
  split : ∃ key, prev[place]? = some key ∧ new = key :: prev.eraseIdx place
    ∧ key ∉ prev.take place

/-- Whether a list of keys is the previous one with one key moved to an
end. -/
def ofKeys [BEq κ] (prev new : List κ) : Bump :=
  if prev.length ≠ new.length ∨ prev.isEmpty then .none
  else
    let d := ListDiff.ofKeys prev new
    if d.outcome ≠ .updated || d.entries.any fun e => e.isAdded || e.isDeleted then .none
    else ofPlaces d.keptPlaces

/-- Nothing was added or deleted if there is no place of such an entry. -/
theorem any_isAdded_or_isDeleted_eq_false_iff (d : ListDiff) :
    (d.entries.any fun e => e.isAdded || e.isDeleted) = false
      ↔ d.addedPlaces = [] ∧ d.deletedPlaces = [] := by
  rw [addedPlaces_eq, deletedPlaces_eq, List.filterMap_eq_nil_iff, List.filterMap_eq_nil_iff,
    List.any_eq_false, ← forall₂_and]
  refine forall₂_congr (fun e _ => ?_)
  cases e <;> simp [Entry.isAdded, Entry.isDeleted, Entry.addedPlace?, Entry.deletedPlace?]

/-- The places without one are those before it and those after it. -/
theorem eraseIdx_range {n k : Nat} (h : k < n) :
    (List.range n).eraseIdx k = List.range' 0 k ++ List.range' (k + 1) (n - (k + 1)) := by
  obtain ⟨m, rfl⟩ : ∃ m, n = k + (m + 1) := ⟨n - k - 1, by omega⟩
  have hm : k + (m + 1) - (k + 1) = m := by omega
  rw [List.range_eq_range', ← List.range'_append_1,
    List.eraseIdx_append_of_length_le (Nat.le_of_eq List.length_range'), hm]
  simp [List.range'_succ]

/-- A row of places is one that was moved to the top, and the others. -/
theorem ofPlaces_eq_toTop_iff (places : List Nat) :
    ofPlaces places = .toTop
      ↔ ∃ k, 0 < k ∧ places = k :: (List.range places.length).eraseIdx k := by
  cases places with
  | nil => exact iff_of_false (fun e => nomatch e) (fun ⟨_, _, e⟩ => nomatch e)
  | cons k rest =>
    obtain ⟨last, hlast⟩ : ∃ last, (k :: rest).getLast? = some last :=
      ⟨_, List.getLast?_eq_some_getLast (List.cons_ne_nil k rest)⟩
    unfold ofPlaces
    rw [hlast]
    simp only [List.head?_cons, Bool.and_eq_true, decide_eq_true_eq, beq_iff_eq]
    constructor
    · intro h
      split at h
      · rename_i hk
        exact ⟨k, hk⟩
      · split at h <;> exact nomatch h
    · rintro ⟨k', hpos, he⟩
      obtain rfl := (List.cons.inj he).1
      exact if_pos ⟨hpos, he⟩

section Lawful

variable [BEq κ] [LawfulBEq κ] {prev new : List κ}

/-- Lists that are not empty and not the same make an update. -/
theorem outcome_of_ne (hprev : prev ≠ []) (hnew : new ≠ []) (hne : prev ≠ new) :
    (ListDiff.ofKeys prev new).outcome = .updated := by
  have hall : ¬ (entriesOfKeys prev new).all Entry.isEqual = true := fun h =>
    hne (eq_of_forall_isEqual (List.all_eq_true.mp h))
  show (if (entriesOfKeys prev new).all Entry.isEqual = true then _
    else if prev.isEmpty = true then _ else if new.isEmpty = true then _ else _) = _
  rw [if_neg hall, if_neg (by rw [List.isEmpty_iff]; exact hprev),
    if_neg (by rw [List.isEmpty_iff]; exact hnew)]

omit [LawfulBEq κ] in
/-- If nothing was added, every new place is kept. -/
theorem map_snd_pairs (hadded : (ListDiff.ofKeys prev new).addedPlaces = []) :
    (ListDiff.ofKeys prev new).pairs.map Prod.snd = List.range new.length := by
  have hperm := perm_addedPlaces prev new false
  rw [hadded, List.nil_append] at hperm
  exact eq_range_of_perm hperm (pairwise_pairs prev new false)

omit [BEq κ] [LawfulBEq κ] in
/-- A list is what it has at its places. -/
theorem map_getElem?_range (keys : List κ) :
    (List.range keys.length).map (keys[·]?) = keys.map some := by
  refine List.ext_getElem (by simp) (fun i h₁ h₂ => ?_)
  simp

/-- **What was not added was there**: the new list is made of the entries at
the places that were kept. -/
theorem map_some_eq_of_addedPlaces_eq_nil
    (hadded : (ListDiff.ofKeys prev new).addedPlaces = []) :
    new.map some = (ListDiff.ofKeys prev new).keptPlaces.map (prev[·]?) := by
  calc new.map some
      = ((ListDiff.ofKeys prev new).pairs.map Prod.snd).map (new[·]?) := by
        rw [map_snd_pairs hadded, map_getElem?_range]
    _ = ((ListDiff.ofKeys prev new).pairs.map Prod.fst).map (prev[·]?) := by
        rw [List.map_map, List.map_map]
        exact List.map_congr_left (fun p hp => getElem?_of_mem_pairs hp)
    _ = (ListDiff.ofKeys prev new).keptPlaces.map (prev[·]?) := by rw [keptPlaces_eq]

/-- **What one entry on top is a sign of.** An earlier one of its kind would
have been paired with the entry on top. -/
theorem raises_of_keptPlaces {place : Nat} (hpos : 0 < place)
    (hadded : (ListDiff.ofKeys prev new).addedPlaces = [])
    (hkept : (ListDiff.ofKeys prev new).keptPlaces
      = place :: (List.range prev.length).eraseIdx place) : Raises prev new place := by
  have hnew := map_some_eq_of_addedPlaces_eq_nil hadded
  rw [hkept, List.map_cons, ← List.eraseIdx_map, map_getElem?_range, List.eraseIdx_map] at hnew
  cases new with
  | nil => exact nomatch hnew
  | cons key rest =>
    obtain ⟨hkey, hrest⟩ := List.cons.inj hnew
    refine ⟨hpos, key, hkey.symm, ?_, fun hmem => ?_⟩
    · rw [List.map_injective_iff.mpr (Option.some_injective κ) hrest]
    · obtain ⟨i, hi, hikey⟩ := List.mem_take_iff_getElem.mp hmem
      have hontop : (key :: rest)[0]? = some key := rfl
      obtain ⟨p, hp, hpi, hp0⟩ := exists_mem_pairs_le
        (List.getElem?_eq_some_iff.mpr ⟨by omega, hikey⟩) hontop
      obtain ⟨n, hn⟩ := List.mem_iff_getElem?.mp hp
      have hfst : (ListDiff.ofKeys prev (key :: rest)).keptPlaces[n]? = some p.1 := by
        rw [keptPlaces_eq, List.getElem?_map, hn]
        rfl
      have hsnd : (List.range (key :: rest).length)[n]? = some p.2 := by
        rw [← map_snd_pairs hadded, List.getElem?_map, hn]
        rfl
      obtain rfl : n = 0 := by
        have := (List.getElem?_eq_some_iff.mp hsnd).2
        rw [List.getElem_range] at this
        omega
      rw [hkept] at hfst
      have : place = p.1 := Option.some.inj hfst
      omega

/-- **An entry on top is found there**, and nothing is added or deleted. -/
theorem places_of_raises {place : Nat} (h : Raises prev new place) :
    (ListDiff.ofKeys prev new).addedPlaces = []
      ∧ (ListDiff.ofKeys prev new).keptPlaces
        = place :: (List.range prev.length).eraseIdx place
      ∧ (ListDiff.ofKeys prev new).deletedPlaces = [] := by
  obtain ⟨key, hkey, rfl, hfirst⟩ := h.split
  obtain ⟨hlt, hget⟩ := List.getElem?_eq_some_iff.mp hkey
  have hfront : (prev.take place).length = place := List.length_take_of_le (Nat.le_of_lt hlt)
  have hprev : prev.zipIdx = (prev.take place).zipIdx
      ++ (key, place) :: (prev.drop (place + 1)).zipIdx (place + 1) := by
    conv_lhs => rw [← List.take_append_drop place prev, List.drop_eq_getElem_cons hlt, hget,
      List.zipIdx_append, hfront, Nat.zero_add, List.zipIdx_cons]
  have hnew : (key :: prev.eraseIdx place).zipIdx
      = (key, 0) :: (prev.take place ++ prev.drop (place + 1)).zipIdx 1 := by
    rw [List.eraseIdx_eq_take_drop_succ, List.zipIdx_cons]
  have hnone : ∀ p ∈ (prev.take place).zipIdx, p.1 ≠ key :=
    fun p hp e => hfirst (e ▸ List.fst_mem_of_mem_zipIdx hp)
  have hsame : ((prev.take place).zipIdx
        ++ (prev.drop (place + 1)).zipIdx (place + 1)).map Prod.fst
      = ((prev.take place ++ prev.drop (place + 1)).zipIdx 1).map Prod.fst := by
    rw [List.map_append, List.zipIdx_map_fst, List.zipIdx_map_fst, List.zipIdx_map_fst]
  have hrest := pair_of_map_fst_eq [] hsame
  rw [List.append_nil] at hrest
  have hpair := pair_cons_append hnone place 0 ((prev.drop (place + 1)).zipIdx (place + 1))
    ((prev.take place ++ prev.drop (place + 1)).zipIdx 1)
  rw [← hprev, ← hnew, hrest] at hpair
  obtain ⟨hadded, hkept, hdeleted⟩ :=
    @places_of_pair κ _ prev (key :: prev.eraseIdx place) false _ _ hpair
  have hplaces := hkept.trans (congrArg (place :: ·) (filterMap_kept?_kept hsame))
  refine ⟨hadded.trans (filterMap_addedPlace?_kept _ _), hplaces.trans ?_, hdeleted⟩
  rw [List.map_append, List.zipIdx_map_snd, List.zipIdx_map_snd, hfront, List.length_drop,
    eraseIdx_range hlt]

/-- **What is found to be moved** has neither been added to nor lost
anything, so that its places say where. -/
theorem ofKeys_of_ne_none (h : ofKeys prev new ≠ .none) :
    (ListDiff.ofKeys prev new).addedPlaces = []
      ∧ (ListDiff.ofKeys prev new).keptPlaces.length = prev.length
      ∧ ofKeys prev new = ofPlaces (ListDiff.ofKeys prev new).keptPlaces := by
  unfold ofKeys at h ⊢
  by_cases hlength : prev.length ≠ new.length ∨ prev.isEmpty = true
  · exact absurd (if_pos hlength) h
  · rw [if_neg hlength] at h ⊢
    by_cases hother : (decide ((ListDiff.ofKeys prev new).outcome ≠ .updated)
        || (ListDiff.ofKeys prev new).entries.any fun e => e.isAdded || e.isDeleted) = true
    · exact absurd (if_pos hother) h
    · have hnone := hother
      rw [Bool.or_eq_true_iff, not_or, Bool.not_eq_true, Bool.not_eq_true,
        any_isAdded_or_isDeleted_eq_false_iff] at hnone
      have hcount := (perm_keptPlaces prev new false).length_eq
      rw [hnone.2.2, List.append_nil, List.length_range] at hcount
      exact ⟨hnone.2.1, hcount, if_neg hother⟩

/-- **A list as long as the previous one, but another**, to which nothing was
added, is one whose places say what was moved. -/
theorem ofKeys_of_length_eq (hlength : prev.length = new.length) (hprev : prev ≠ [])
    (hne : prev ≠ new) (hadded : (ListDiff.ofKeys prev new).addedPlaces = [])
    (hdeleted : (ListDiff.ofKeys prev new).deletedPlaces = []) :
    ofKeys prev new = ofPlaces (ListDiff.ofKeys prev new).keptPlaces := by
  have hnew : new ≠ [] := by
    rintro rfl
    exact hprev (List.length_eq_zero_iff.mp hlength)
  have hsame : ¬ (prev.length ≠ new.length ∨ prev.isEmpty = true) := by
    rw [List.isEmpty_iff]
    exact not_or.mpr ⟨fun hne => hne hlength, hprev⟩
  have hother : ¬ (decide ((ListDiff.ofKeys prev new).outcome ≠ .updated)
      || (ListDiff.ofKeys prev new).entries.any fun e => e.isAdded || e.isDeleted) = true := by
    rw [outcome_of_ne hprev hnew hne,
      (any_isAdded_or_isDeleted_eq_false_iff _).mpr ⟨hadded, hdeleted⟩]
    exact Bool.false_ne_true
  unfold ofKeys
  rw [if_neg hsame, if_neg hother]

/-- **A key is found to have moved to the top exactly if it has.** -/
theorem ofKeys_eq_toTop_iff (prev new : List κ) :
    ofKeys prev new = .toTop ↔ ∃ place, Raises prev new place := by
  constructor
  · intro h
    obtain ⟨hadded, hcount, he⟩ := ofKeys_of_ne_none (h.trans_ne fun e => nomatch e)
    obtain ⟨place, hpos, hkept⟩ := (ofPlaces_eq_toTop_iff _).mp (he.symm.trans h)
    exact ⟨place, raises_of_keptPlaces hpos hadded (hcount ▸ hkept)⟩
  · rintro ⟨place, h⟩
    obtain ⟨hadded, hkept, hdeleted⟩ := places_of_raises h
    obtain ⟨key, hkey, hnew, hfirst⟩ := h.split
    obtain ⟨hlt, -⟩ := List.getElem?_eq_some_iff.mp hkey
    have hprev : prev ≠ [] := List.ne_nil_of_length_pos (Nat.lt_of_le_of_lt (Nat.zero_le _) hlt)
    have hlength : prev.length = new.length := by
      rw [hnew, List.length_cons, List.length_eraseIdx_of_lt hlt]
      omega
    have hne : prev ≠ new := by
      intro e
      rw [e, hnew] at hfirst
      refine hfirst (List.mem_take_iff_getElem.mpr ⟨0, ?_, rfl⟩)
      have := h.place_pos
      simp
      omega
    have hcount : (ListDiff.ofKeys prev new).keptPlaces.length = prev.length := by
      have := (perm_keptPlaces prev new false).length_eq
      rwa [hdeleted, List.append_nil, List.length_range] at this
    rw [ofKeys_of_length_eq hlength hprev hne hadded hdeleted, ofPlaces_eq_toTop_iff, hcount]
    exact ⟨place, h.place_pos, hkept⟩

omit [LawfulBEq κ] in
/-- A list with one entry moved has no more of anything. -/
theorem Raises.isNoMore {place : Nat} (h : Raises prev new place) : IsNoMore prev new := by
  obtain ⟨key, hkey, hnew, -⟩ := h.split
  obtain ⟨hlt, hget⟩ := List.getElem?_eq_some_iff.mp hkey
  refine Or.inr (fun k => Nat.le_of_eq ?_)
  rw [hnew, ← hget]
  exact (List.getElem_cons_eraseIdx_perm hlt).count_eq k

end Lawful

end Listening.Bump
