import Listening.History
import Listening.Proofs.EntryMoves

/-!
# Lists of plays that may be like no other

What compares lists is exact about keys that agree with themselves. The
identity of a typed play need not: a length that is no number makes the play
like no other, not even like itself in the next list. For comparing, such a
play might as well have a name of its own in every list. `marks` gives it
one, and then all that is known of lists of lawful keys holds of the
identities of typed plays as well.
-/

namespace Listening

/-- **What a play in one of two lists is compared by**: its track, or a name
that no other play has, in neither list. -/
inductive Mark where
  /-- A track. -/
  | track (track : Track)
  /-- The play at a place of the one list or the other. -/
  | lone (isNew : Bool) (place : Nat)
  deriving DecidableEq

/-- An identity at a place of one of two lists. -/
structure Sighting where
  /-- The identity. -/
  identity : Identity
  /-- Whether it is in the new list. -/
  isNew : Bool
  /-- Its place in its list. -/
  place : Nat

namespace Sighting

/-- Sightings agree if their identities do. -/
instance : BEq Sighting := ⟨fun a b => a.identity == b.identity⟩

/-- The mark of a sighting. -/
def mark (s : Sighting) : Mark :=
  if h : s.identity.isDefined = true then .track ⟨s.identity, h⟩ else .lone s.isNew s.place

/-- Marks of the two lists are the same if the identities agree. -/
theorem mark_eq_mark_iff {a b : Sighting} (ha : a.isNew = false) (hb : b.isNew = true) :
    a.mark = b.mark ↔ (a.identity == b.identity) = true := by
  rw [Identity.beq_iff]
  unfold mark
  by_cases hda : a.identity.isDefined = true
  · by_cases hdb : b.identity.isDefined = true
    · rw [dif_pos hda, dif_pos hdb, Mark.track.injEq, Track.mk.injEq]
      exact (and_iff_left hda).symm
    · rw [dif_pos hda, dif_neg hdb]
      exact iff_of_false (fun e => nomatch e) (fun h => hdb (h.1 ▸ hda))
  · rw [dif_neg hda]
    refine iff_of_false (fun e => ?_) (fun h => hda h.2)
    by_cases hdb : b.identity.isDefined = true
    · rw [dif_pos hdb] at e
      exact nomatch e
    · rw [dif_neg hdb, ha, hb] at e
      exact nomatch e

end Sighting

/-- The sightings in one of two lists, from a place on. -/
def sightings (isNew : Bool) (place : Nat) (identities : List Identity) : List Sighting :=
  (identities.zipIdx place).map fun p => ⟨p.1, isNew, p.2⟩

/-- **The marks of one of two lists**, from a place on. -/
def marks (isNew : Bool) (place : Nat) (identities : List Identity) : List Mark :=
  (sightings isNew place identities).map Sighting.mark

section Marks

variable {isNew : Bool} {place : Nat} {identities : List Identity}

theorem map_identity_sightings (isNew : Bool) (place : Nat) (identities : List Identity) :
    (sightings isNew place identities).map Sighting.identity = identities := by
  rw [sightings, List.map_map]
  exact List.zipIdx_map_fst place identities

theorem isNew_of_mem_sightings {s : Sighting} (h : s ∈ sightings isNew place identities) :
    s.isNew = isNew := by
  obtain ⟨p, -, rfl⟩ := List.mem_map.mp h
  rfl

theorem identity_mem_of_mem_sightings {s : Sighting} (h : s ∈ sightings isNew place identities) :
    s.identity ∈ identities := by
  rw [← map_identity_sightings isNew place identities]
  exact List.mem_map_of_mem h

@[simp] theorem length_marks (isNew : Bool) (place : Nat) (identities : List Identity) :
    (marks isNew place identities).length = identities.length := by
  rw [marks, sightings, List.length_map, List.length_map, List.length_zipIdx]

theorem marks_append (isNew : Bool) (place : Nat) (front back : List Identity) :
    marks isNew place (front ++ back)
      = marks isNew place front ++ marks isNew (place + front.length) back := by
  rw [marks, sightings, List.zipIdx_append, List.map_append, List.map_append]
  rfl

/-- The mark of an identity that agrees with itself. -/
def Identity.mark (i : Identity) : Mark := (⟨i, false, 0⟩ : Sighting).mark

/-- Identities that agree with themselves agree if their marks are the same. -/
theorem Identity.beq_of_mark_eq {i j : Identity} (hj : j.isDefined = true)
    (h : i.mark = j.mark) : (i == j) = true := by
  have hnew : j.mark = (⟨j, true, 0⟩ : Sighting).mark := by
    unfold Identity.mark Sighting.mark
    rw [dif_pos hj, dif_pos hj]
  exact (Sighting.mark_eq_mark_iff rfl rfl).mp (h.trans hnew)

/-- **Identities that agree with themselves** have the same marks wherever
they stand. -/
theorem marks_of_isDefined (h : ∀ i ∈ identities, i.isDefined = true) (isNew : Bool)
    (place : Nat) : marks isNew place identities = identities.map Identity.mark := by
  induction identities generalizing place with
  | nil => rfl
  | cons i rest ih =>
    have hi : (⟨i, isNew, place⟩ : Sighting).mark = i.mark := by
      unfold Identity.mark Sighting.mark
      rw [dif_pos (h i List.mem_cons_self), dif_pos (h i List.mem_cons_self)]
    rw [List.map_cons, ← hi, ← ih (fun j hj => h j (List.mem_cons_of_mem i hj)) (place + 1)]
    rfl

/-- Lists have no mark in common if no identities agree. -/
theorem disjoint_marks {prev new : List Identity} {place' : Nat}
    (h : ∀ i ∈ prev, ∀ j ∈ new, (i == j) = false) :
    (marks false place prev).Disjoint (marks true place' new) := by
  intro m hp hn
  obtain ⟨a, ha, rfl⟩ := List.mem_map.mp hp
  obtain ⟨b, hb, hba⟩ := List.mem_map.mp hn
  have hagree := (Sighting.mark_eq_mark_iff (isNew_of_mem_sightings ha)
    (isNew_of_mem_sightings hb)).mp hba.symm
  rw [h _ (identity_mem_of_mem_sightings ha) _ (identity_mem_of_mem_sightings hb)] at hagree
  exact Bool.false_ne_true hagree

/-- **Rows of identities that agree** are the same, and made of identities
that agree with themselves. -/
theorem beq_identities_iff {is js : List Identity} :
    (is == js) = true ↔ is = js ∧ ∀ i ∈ is, i.isDefined = true := by
  induction is generalizing js with
  | nil => cases js <;> simp
  | cons i is ih =>
    cases js with
    | nil => exact iff_of_false Bool.false_ne_true (fun h => nomatch h.1)
    | cons j js =>
      show (i == j && is == js) = true ↔ _
      rw [Bool.and_eq_true, Identity.beq_iff, ih, List.cons.injEq, List.forall_mem_cons]
      exact ⟨fun ⟨⟨h₁, h₂⟩, h₃, h₄⟩ => ⟨⟨h₁, h₃⟩, h₂, h₄⟩,
        fun ⟨⟨h₁, h₃⟩, h₂, h₄⟩ => ⟨⟨h₁, h₂⟩, h₃, h₄⟩⟩

/-- A row of identities that agree with themselves agrees with itself only. -/
theorem beq_identities_of_isDefined {is js : List Identity} (h : ∀ i ∈ is, i.isDefined = true) :
    (is == js) = true ↔ is = js :=
  beq_identities_iff.trans (and_iff_left h)

/-- A row of identities that agree with themselves is found among others exactly
if it is one of them. -/
theorem contains_identities_of_isDefined {rows : List (List Identity)} {is : List Identity}
    (h : ∀ i ∈ is, i.isDefined = true) : rows.contains is = true ↔ is ∈ rows := by
  rw [List.contains_iff_exists_mem_beq]
  simp only [beq_identities_of_isDefined h]
  exact ⟨fun ⟨_, hmem, he⟩ => he ▸ hmem, fun hmem => ⟨_, hmem, rfl⟩⟩

/-- Whether rows agree is the same from either side. -/
theorem beq_identities_comm (is js : List Identity) : (is == js) = (js == is) := by
  rw [Bool.eq_iff_iff, beq_identities_iff, beq_identities_iff]
  constructor <;>
  · rintro ⟨rfl, h⟩
    exact ⟨rfl, h⟩

/-- Two lists have the same marks exactly if their identities agree. -/
theorem marks_eq_marks_iff {prev new : List Identity} :
    marks false place prev = marks true place new ↔ (prev == new) = true := by
  induction prev generalizing place new with
  | nil => cases new <;> simp [marks, sightings]
  | cons i prev ih =>
    cases new with
    | nil => exact iff_of_false (fun e => nomatch e) Bool.false_ne_true
    | cons j new =>
      show Sighting.mark ⟨i, false, place⟩ :: marks false (place + 1) prev
          = Sighting.mark ⟨j, true, place⟩ :: marks true (place + 1) new
        ↔ (i == j && prev == new) = true
      rw [List.cons.injEq, Sighting.mark_eq_mark_iff rfl rfl, ih, Bool.and_eq_true]

end Marks

/-! ## What is found of identities -/

section Identities

variable (prev new : List Identity)

/-- **The difference between rows of identities** is that between their
marks. -/
theorem ListDiff.ofKeys_identities (fromEnd : Bool) : ListDiff.ofKeys prev new fromEnd
    = ListDiff.ofKeys (marks false 0 prev) (marks true 0 new) fromEnd := by
  have hmark : ∀ a ∈ sightings false 0 prev, ∀ b ∈ sightings true 0 new,
      (a.mark == b.mark) = (a == b) := by
    intro a ha b hb
    rw [Bool.eq_iff_iff, beq_iff_eq]
    exact Sighting.mark_eq_mark_iff (isNew_of_mem_sightings ha) (isNew_of_mem_sightings hb)
  conv_lhs => rw [← map_identity_sightings false 0 prev, ← map_identity_sightings true 0 new,
    ListDiff.ofKeys_map Sighting.identity fromEnd (fun _ _ _ _ => rfl)]
  rw [marks, marks, ListDiff.ofKeys_map Sighting.mark fromEnd hmark]

/-- How a row of identities has grown is how its marks have. -/
theorem Growth.ofKeys_identities :
    Growth.ofKeys prev new = Growth.ofKeys (marks false 0 prev) (marks true 0 new) := by
  unfold Growth.ofKeys
  rw [ListDiff.ofKeys_identities, ListDiff.ofKeys_identities, length_marks]

/-- Whether one of them was moved is whether one of the marks was. -/
theorem Bump.ofKeys_identities :
    Bump.ofKeys prev new = Bump.ofKeys (marks false 0 prev) (marks true 0 new) := by
  have hempty : (marks false 0 prev).isEmpty = prev.isEmpty := by
    rw [Bool.eq_iff_iff, List.isEmpty_iff_length_eq_zero, List.isEmpty_iff_length_eq_zero,
      length_marks]
  unfold Bump.ofKeys
  rw [ListDiff.ofKeys_identities, length_marks, length_marks, hempty]

end Identities

/-! ## What is found of typed plays -/

/-- The identities of typed plays. -/
def Play.identities (ps : List Play) : List Identity := ps.map Play.identity

section Typed

variable {prev new : List Play}

/-- **The difference between two lists of typed plays** is that between their
identities. -/
theorem ListDiff.ofPlays?_of_typed (hprev : ∀ p ∈ prev, p.Typed) (hnew : ∀ p ∈ new, p.Typed)
    (fromEnd : Bool) : ListDiff.ofPlays? prev new fromEnd
      = .ok (ListDiff.ofKeys (Play.identities prev) (Play.identities new) fromEnd) := by
  unfold ListDiff.ofPlays?
  by_cases hempty : (prev.isEmpty || new.isEmpty) = true
  · -- nothing is compared, so the keys might as well be the identities
    have hnone : ∀ a ∈ Play.identities prev, ∀ b ∈ Play.identities new,
        ((fun _ => () : Identity → Unit) a == (fun _ => ()) b) = (a == b) := by
      intro a ha b hb
      rcases Bool.or_eq_true_iff.mp hempty with he | he
      · rw [List.isEmpty_iff.mp he] at ha
        exact absurd ha List.not_mem_nil
      · rw [List.isEmpty_iff.mp he] at hb
        exact absurd hb List.not_mem_nil
    rw [if_pos hempty, ← ListDiff.ofKeys_map (fun _ => ()) fromEnd hnone, Play.identities,
      Play.identities, List.map_map, List.map_map]
  · rw [if_neg hempty, mapM_eq_ok (fun p hp => (hprev p hp).label?_eq),
      mapM_eq_ok (fun p hp => (hnew p hp).label?_eq)]
    rfl

/-- How a list of typed plays has grown is how its identities have. -/
theorem Growth.ofPlays?_of_typed (hprev : ∀ p ∈ prev, p.Typed) (hnew : ∀ p ∈ new, p.Typed) :
    Growth.ofPlays? prev new
      = .ok (Growth.ofKeys (Play.identities prev) (Play.identities new)) := by
  unfold Growth.ofPlays? Growth.ofKeys
  rw [ListDiff.ofPlays?_of_typed hprev hnew, ListDiff.ofPlays?_of_typed hprev hnew,
    Play.identities, Play.identities, List.length_map]
  simp only [Bind.bind, Except.bind]
  split <;> rfl

/-- Whether one of them was moved is whether one of the identities was. -/
theorem Bump.ofPlays?_of_typed (hprev : ∀ p ∈ prev, p.Typed) (hnew : ∀ p ∈ new, p.Typed) :
    Bump.ofPlays? prev new
      = .ok (Bump.ofKeys (Play.identities prev) (Play.identities new)) := by
  unfold Bump.ofPlays? Bump.ofKeys
  rw [ListDiff.ofPlays?_of_typed hprev hnew, Play.identities, Play.identities, List.length_map,
    List.length_map, List.isEmpty_map]
  simp only [Bind.bind, Except.bind]
  split
  · rfl
  · split <;> rfl

/-- The signature of typed plays is their identities. -/
theorem History.signature?_of_typed (hnew : ∀ p ∈ new, p.Typed) :
    History.signature? new = .ok (Play.identities new) :=
  mapM_eq_ok (fun p hp => (hnew p hp).identity?_eq)

end Typed

end Listening
