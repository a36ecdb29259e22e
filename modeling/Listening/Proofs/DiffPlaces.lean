import Listening.History.Growth
import Listening.Proofs.DiffPairing
import Mathlib.Data.List.Pairwise

/-!
# The places of a difference

Entries of a difference between two lists name places: added ones of the new
list, deleted ones of the previous list, and kept ones of both. Together they
are all the places there are – `perm_addedPlaces` for the new list and
`perm_keptPlaces` for the previous one – and each row of them but the kept
places is in order, whatever was paired with what.
-/

namespace Listening.ListDiff

/-! ## Places by the kind of their entry -/

/-- The place of an added entry. -/
def Entry.addedPlace? : Entry → Option Nat
  | .added j => some j
  | _ => none

theorem addedPlaces_eq (d : ListDiff) :
    d.addedPlaces = d.entries.filterMap Entry.addedPlace? := by
  refine congrArg (d.entries.filterMap ·) ?_
  funext e
  cases e <;> rfl

theorem keptPlaces_eq (d : ListDiff) : d.keptPlaces = d.pairs.map Prod.fst := by
  rw [pairs, List.map_filterMap]
  refine congrArg (d.entries.filterMap ·) ?_
  funext e
  cases e <;> rfl

/-- The place of a deleted entry. -/
def Entry.deletedPlace? : Entry → Option Nat
  | .deleted i => some i
  | _ => none

theorem deletedPlaces_eq (d : ListDiff) :
    d.deletedPlaces = d.entries.filterMap Entry.deletedPlace? := by
  refine congrArg (d.entries.filterMap ·) ?_
  funext e
  cases e <;> rfl

/-- An entry of the new list is added or kept. -/
theorem perm_newPlaces {es : List Entry} (h : ∀ e ∈ es, e.new?.isSome = true) :
    (es.filterMap Entry.addedPlace? ++ (es.filterMap Entry.kept?).map Prod.snd).Perm
      (es.filterMap Entry.new?) := by
  induction es with
  | nil => exact List.Perm.refl _
  | cons e es ih =>
    have hrest := ih (fun e' he' => h e' (List.mem_cons_of_mem e he'))
    cases e with
    | kept i j =>
      exact (List.perm_middle (a := j)).trans (hrest.cons j)
    | added j => exact hrest.cons j
    | deleted i => exact absurd (h _ List.mem_cons_self) Bool.false_ne_true

/-- What names a place of the new list names it in the order of that list. -/
theorem sublist_newPlaces {f : Entry → Option Nat} (h : ∀ e j, f e = some j → e.new? = some j)
    (es : List Entry) : (es.filterMap f).Sublist (es.filterMap Entry.new?) := by
  induction es with
  | nil => exact List.Sublist.refl _
  | cons e es ih =>
    cases he : f e with
    | none =>
      rw [List.filterMap_cons_none he]
      exact ih.trans (by
        rw [List.filterMap_cons]
        split
        · exact List.Sublist.refl _
        · exact List.sublist_cons_self _ _)
    | some j =>
      rw [List.filterMap_cons_some he, List.filterMap_cons_some (h e j he)]
      exact ih.cons_cons j

/-- Only entries of both lists and deleted ones have a previous place. -/
theorem prevPlaces_of_isSome_new? {es : List Entry} (h : ∀ e ∈ es, e.new?.isSome = true) :
    es.filterMap Entry.prev? = (es.filterMap Entry.kept?).map Prod.fst := by
  induction es with
  | nil => rfl
  | cons e es ih =>
    have hrest := ih (fun e' he' => h e' (List.mem_cons_of_mem e he'))
    cases e with
    | kept i j => exact congrArg (i :: ·) hrest
    | added j => exact hrest
    | deleted i => exact absurd (h _ List.mem_cons_self) Bool.false_ne_true

/-! ## The places of a difference between keys -/

section Places

variable {κ : Type} [BEq κ] (prev new : List κ) (fromEnd : Bool)

theorem addedPlaces_ofKeys : (ofKeys prev new fromEnd).addedPlaces
    = (present prev new fromEnd).filterMap Entry.addedPlace? := by
  have hgone : ∀ ps : List (κ × Nat),
      (ps.map fun p => Entry.deleted p.2).filterMap Entry.addedPlace? = [] := by
    intro ps
    refine List.filterMap_eq_nil_iff.mpr (fun e he => ?_)
    obtain ⟨p, -, rfl⟩ := List.mem_map.mp he
    rfl
  rw [addedPlaces_eq]
  show (entriesOfKeys prev new fromEnd).filterMap Entry.addedPlace? = _
  rw [entriesOfKeys_eq, List.filterMap_append, hgone, List.append_nil]

theorem deletedPlaces_ofKeys : (ofKeys prev new fromEnd).deletedPlaces
    = (leftOver prev new fromEnd).map Prod.snd := by
  have hpresent : (present prev new fromEnd).filterMap Entry.deletedPlace? = [] := by
    refine List.filterMap_eq_nil_iff.mpr (fun e he => ?_)
    have hnew := isSome_new?_of_mem_present he
    cases e with
    | kept i j => rfl
    | added j => rfl
    | deleted i => exact absurd hnew Bool.false_ne_true
  rw [deletedPlaces_eq]
  show (entriesOfKeys prev new fromEnd).filterMap Entry.deletedPlace? = _
  rw [entriesOfKeys_eq, List.filterMap_append, hpresent, List.nil_append, List.filterMap_map,
    ← List.filterMap_eq_map]
  rfl

/-- Added and kept places are all the places of the new list. -/
theorem perm_addedPlaces : ((ofKeys prev new fromEnd).addedPlaces
    ++ (ofKeys prev new fromEnd).pairs.map Prod.snd).Perm (List.range new.length) := by
  rw [addedPlaces_ofKeys, pairs_ofKeys, ← filterMap_new?_present prev new fromEnd]
  exact perm_newPlaces (fun e => isSome_new?_of_mem_present)

/-- Kept and deleted places are all the places of the previous list. -/
theorem perm_keptPlaces [LawfulBEq κ] : ((ofKeys prev new fromEnd).keptPlaces
    ++ (ofKeys prev new fromEnd).deletedPlaces).Perm (List.range prev.length) := by
  rw [keptPlaces_eq, pairs_ofKeys, deletedPlaces_ofKeys,
    ← prevPlaces_of_isSome_new? (fun e => isSome_new?_of_mem_present)]
  exact perm_present prev new fromEnd

/-- Added places are in order. -/
theorem pairwise_addedPlaces :
    (ofKeys prev new fromEnd).addedPlaces.Pairwise (· < ·) := by
  have hplace : ∀ e j, Entry.addedPlace? e = some j → e.new? = some j := by
    intro e j he
    cases e with
    | added j' => exact he
    | kept i j' => exact nomatch he
    | deleted i => exact nomatch he
  have hsub := sublist_newPlaces hplace (present prev new fromEnd)
  rw [filterMap_new?_present] at hsub
  rw [addedPlaces_ofKeys]
  exact List.pairwise_lt_range.sublist hsub

/-- The new places of kept entries are in order. -/
theorem pairwise_pairs :
    ((ofKeys prev new fromEnd).pairs.map Prod.snd).Pairwise (· < ·) := by
  have hplace : ∀ (e : Entry) (j : Nat), e.kept?.map Prod.snd = some j → e.new? = some j := by
    intro e j he
    cases e with
    | kept i j' => exact he
    | added j' => exact nomatch he
    | deleted i => exact nomatch he
  have hsub := sublist_newPlaces hplace (present prev new fromEnd)
  rw [filterMap_new?_present] at hsub
  rw [pairs_ofKeys, List.map_filterMap]
  exact List.pairwise_lt_range.sublist hsub

/-- Deleted places are in order. -/
theorem pairwise_deletedPlaces [LawfulBEq κ] :
    (ofKeys prev new fromEnd).deletedPlaces.Pairwise (· < ·) := by
  have hsub := (sublist_leftOver prev new fromEnd).map Prod.snd
  rw [List.zipIdx_map_snd, ← List.range_eq_range'] at hsub
  rw [deletedPlaces_ofKeys]
  exact List.pairwise_lt_range.sublist hsub

end Places

end Listening.ListDiff
