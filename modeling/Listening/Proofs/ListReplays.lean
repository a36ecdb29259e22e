import Listening.Proofs.FlappingSources
import Listening.Proofs.ListEvaluation

/-!
# Replays

A track that is listened to again shows up on top of the list and, in a list
of a fixed length, pushes another off its end. By what was played, such a
list can be read in several ways: the play on top may be new, or be the known
one further down that has moved. `Replay` is a list with plays on top and the
first ones of the known list below, as many as there is room for. Whatever
has happened, that list is the known one afterwards; and its first play is
discovered if one reading is certain: no play on top was known, none that
dropped off is still there, or a single play has moved, which was the first
of its kind. A list of which more than one thing is true at a time – a new
play, and one that has moved – is said to be out of order, and brings
nothing.
-/

namespace Listening.History

/-- **Plays on top of the first ones of the known list.** A history that was
built by looking knows a list, and is asked with another one, at a time that
can be compared with the last look: `count` plays, and below them the first
`kept` of the known ones. -/
structure Replay (h : History) (known fetched : List Play) (now : Instant) (count kept : Nat) :
    Prop where
  /-- The history was built by looking. -/
  reached : Reachable h
  /-- This is what it knows. -/
  isKnown : h.known = some known
  /-- The plays of the list are typed. -/
  typed : ∀ p ∈ fetched, p.Typed
  /-- The times of the last look and of this one can be compared. -/
  clock : ∀ t, h.observedAt = some t → Instant.comparable now t = true
  /-- There are plays on top. -/
  count_pos : 0 < count
  /-- Some known plays are there below them. -/
  kept_pos : 0 < kept
  /-- Some are not. -/
  kept_lt : kept < known.length
  /-- The list has not become shorter. -/
  length_le : known.length ≤ count + kept
  /-- Those below are the same plays as before. -/
  same : (Play.identities (known.take kept) == Play.identities ((h.ordered fetched).drop count))
    = true
  /-- The list is not the known one. -/
  changed : (Play.identities known == Play.identities (h.ordered fetched)) = false
  /-- Nor is it one that is remembered. -/
  unseen : ∀ signature ∈ h.seen, (signature == Play.identities (h.ordered fetched)) = false

/-- **Only one thing has happened** to a list. -/
inductive IsCertain (known fetched : List Identity) : Prop where
  /-- There are plays on top of the first known ones, and either none of them
  was known, or none that dropped off is still there. -/
  | added (count kept : Nat) (count_pos : 0 < count) (kept_pos : 0 < kept)
      (kept_le : kept ≤ known.length)
      (same : (known.take kept == fetched.drop count) = true)
      (apart : (∀ i ∈ known, ∀ j ∈ fetched.take count, (i == j) = false)
        ∨ ∀ i ∈ known.drop kept, ∀ j ∈ fetched, (i == j) = false)
  /-- A single play has moved to the top, the first of its kind. -/
  | raised (place : Nat) (pos : 0 < place) (top : Identity) (at_place : known[place]? = some top)
      (moved : (fetched == top :: known.eraseIdx place) = true)
      (first : ∀ i ∈ known.take place, (i == top) = false)

section Marks

variable {known fetched : List Identity} {count kept : Nat}

/-- **Where the plays below are the same**, and only one thing has happened
that adds plays, the marks of the list are prepended to. -/
theorem prepends_of_same (hcount : 0 < count) (hpos : 0 < kept) (hkept : kept ≤ known.length)
    (hsame : (known.take kept == fetched.drop count) = true)
    (hadded : (∀ i ∈ known, ∀ j ∈ fetched.take count, (i == j) = false)
      ∨ ∀ i ∈ known.drop kept, ∀ j ∈ fetched, (i == j) = false) :
    Growth.Prepends (marks false 0 known) (marks true 0 fetched) count kept := by
  obtain ⟨he, hdefined⟩ := beq_identities_iff.mp hsame
  have hlen : (known.take kept).length = kept := List.length_take_of_le hkept
  have htop : (fetched.take count).length = count := by
    have := congrArg List.length he
    rw [hlen, List.length_drop] at this
    exact List.length_take_of_le (by omega)
  have hknown : marks false 0 known
      = (known.take kept).map Identity.mark ++ marks false kept (known.drop kept) := by
    conv_lhs => rw [← List.take_append_drop kept known, marks_append, hlen, Nat.zero_add,
      marks_of_isDefined hdefined]
  have hfetched : marks true 0 fetched
      = marks true 0 (fetched.take count) ++ (known.take kept).map Identity.mark := by
    conv_lhs => rw [← List.take_append_drop count fetched, marks_append, ← he,
      marks_of_isDefined hdefined]
  have hmapped : ((known.take kept).map Identity.mark).length = kept := by
    rw [List.length_map, hlen]
  refine ⟨hcount, hpos, by rw [length_marks]; exact hkept,
    marks true 0 (fetched.take count), by rw [length_marks, htop], ?_, ?_⟩
  · rw [hfetched, hknown, List.take_left' hmapped]
  · refine hadded.imp (fun h => List.disjoint_symm (disjoint_marks h)) (fun h => ?_)
    rw [hknown, List.drop_left' hmapped]
    exact disjoint_marks h

/-- **Where a single play has moved to the top**, so has a single mark. -/
theorem raises_of_moved {place : Nat} (hpos : 0 < place) {top : Identity}
    (htop : known[place]? = some top) (hmoved : (fetched == top :: known.eraseIdx place) = true)
    (hfirst : ∀ i ∈ known.take place, (i == top) = false) :
    Bump.Raises (marks false 0 known) (marks true 0 fetched) place := by
  obtain ⟨he, hdefined⟩ := beq_identities_iff.mp hmoved
  obtain ⟨hlt, hget⟩ := List.getElem?_eq_some_iff.mp htop
  have hperm : fetched.Perm known := by
    rw [he, ← hget]
    exact List.getElem_cons_eraseIdx_perm hlt
  have hknown : ∀ i ∈ known, i.isDefined = true := fun i hi => hdefined i (hperm.mem_iff.mpr hi)
  rw [marks_of_isDefined hdefined, marks_of_isDefined hknown]
  refine ⟨hpos, top.mark, by rw [List.getElem?_map, htop]; rfl, ?_, fun hmem => ?_⟩
  · rw [he, List.map_cons, List.eraseIdx_map]
  · rw [← List.map_take] at hmem
    obtain ⟨i, hi, hmark⟩ := List.mem_map.mp hmem
    have hagree := Identity.beq_of_mark_eq (hknown top (List.mem_of_getElem? htop)) hmark
    rw [hfirst i hi] at hagree
    exact Bool.false_ne_true hagree

/-- **Where only one thing has happened, it is found**: plays were added on
top, or nothing was added and one was moved there. -/
theorem IsCertain.found (hcertain : IsCertain known fetched) :
    (∃ count, Growth.ofKeys known fetched = .prepend (count + 1))
      ∨ Growth.ofKeys known fetched = .none ∧ Bump.ofKeys known fetched = .toTop := by
  rw [Growth.ofKeys_identities, Bump.ofKeys_identities]
  cases hcertain with
  | added count kept count_pos kept_pos kept_le same apart =>
    refine Or.inl ⟨count - 1, ?_⟩
    rw [Nat.sub_add_cancel count_pos, Growth.ofKeys_eq_prepend_iff]
    exact ⟨kept, prepends_of_same count_pos kept_pos kept_le same apart⟩
  | raised place pos top at_place moved first =>
    have hraises := raises_of_moved pos at_place moved first
    exact Or.inr ⟨(Growth.ofKeys_eq_none_iff _ _).mpr hraises.isNoMore,
      (Bump.ofKeys_eq_toTop_iff _ _).mpr ⟨place, hraises⟩⟩

end Marks

section Replay

variable {h : History} {known fetched : List Play} {now : Instant} {count kept : Nat}

/-- The known plays that are there are the same. -/
theorem Replay.same_take (r : Replay h known fetched now count kept) :
    ((Play.identities known).take kept
      == (Play.identities (h.ordered fetched)).drop count) = true := by
  have hsame := r.same
  rwa [Play.identities, List.map_take, Play.identities, List.map_drop] at hsame

/-- The list has not become shorter. -/
theorem Replay.length_known_le (r : Replay h known fetched now count kept) :
    known.length ≤ (h.ordered fetched).length := by
  have hlen := congrArg List.length (beq_identities_iff.mp r.same_take).1
  simp only [Play.identities, List.length_take, List.length_drop, List.length_map] at hlen
  have hpos := r.kept_pos
  have hlt := r.kept_lt
  have hle := r.length_le
  omega

/-- A replay is none of the lists that are remembered. -/
theorem Replay.isEarlier_eq_false (r : Replay h known fetched now count kept) :
    h.isEarlier (Play.identities (h.ordered fetched)) = false := by
  rw [isEarlier, Bool.eq_false_iff, Ne, List.contains_iff_exists_mem_beq]
  rintro ⟨signature, hmem, hagree⟩
  rw [beq_identities_comm, r.unseen signature ((List.dropLast_sublist _).subset hmem)] at hagree
  exact Bool.false_ne_true hagree

/-- **A replay is accepted, and discovered if it is certain.** -/
theorem Replay.accepts_and_discovers (r : Replay h known fetched now count kept) :
    ∃ finding h', h.evaluate fetched now = .ok finding h' ∧ h'.known = some (h.ordered fetched)
      ∧ (IsCertain (Play.identities known) (Play.identities (h.ordered fetched)) →
        finding.consistent = true ∧ ∃ newest, (h.ordered fetched).head? = some newest
          ∧ finding.plays.head? = some (stamp now newest)) := by
  have hcandidate : ∀ p ∈ h.ordered fetched, p.Typed :=
    fun p hp => r.typed p (mem_ordered.mp hp)
  obtain ⟨newest, hnewest⟩ : ∃ newest, (h.ordered fetched).head? = some newest := by
    have hlt : 0 < (h.ordered fetched).length :=
      Nat.lt_of_lt_of_le (Nat.lt_of_le_of_lt (Nat.zero_le _) r.kept_lt) r.length_known_le
    exact ⟨_, List.head?_eq_some_head (List.ne_nil_of_length_pos hlt)⟩
  obtain ⟨finding, hchanged, hfound⟩ :=
    changed_of_length_le (r.reached.typed r.isKnown) hcandidate
    r.length_known_le r.clock
    (ListDiff.ofKeys (Play.identities known) (Play.identities (h.ordered fetched)))
  have hlook := evaluate_of_changed r.isKnown (r.reached.typed r.isKnown) r.typed r.changed
    r.isEarlier_eq_false now
  refine ⟨finding, _, hlook.trans hchanged, rfl, fun hcertain => ?_⟩
  obtain ⟨hconsistent, hplays⟩ := hfound hcertain.found
  exact ⟨hconsistent, newest, hnewest, by rw [hplays, hnewest]; rfl⟩

end Replay

/-! ## Replays of songs -/

open ComparablePlay (plays)

/-- A history that has looked at one list. -/
def knowing (known : List ComparablePlay) : History :=
  (({} : History).evaluate (plays known) ⟨0, some 0⟩).state

theorem knowing_eq (known : List ComparablePlay) : knowing known
    = { ({} : History) with
        known := some (plays known)
        observedAt := some ⟨0, some 0⟩
        seen := [identities known] } := by
  rw [knowing, evaluate_of_unknown rfl rfl]
  rfl

theorem reachable_knowing (known : List ComparablePlay) : Reachable (knowing known) := by
  refine (Reachable.fresh true 10 10).evaluated (fun p hp => ?_) ⟨0, some 0⟩
  obtain ⟨q, -, rfl⟩ := List.mem_map.mp hp
  exact q.2.toTyped

/-- A list that such a history looks at next is a replay if it is made like
one. -/
theorem replay_knowing {known fetched : List ComparablePlay} {count kept : Nat}
    (hcount : 0 < count) (hpos : 0 < kept) (hkept : kept < known.length)
    (hlength : known.length ≤ count + kept)
    (hsame : (Play.identities ((plays known).take kept)
      == Play.identities ((plays fetched).drop count)) = true)
    (hchanged : (Play.identities (plays known) == Play.identities (plays fetched)) = false) :
    Replay (knowing known) (plays known) (plays fetched) ⟨1, some 0⟩ count kept := by
  have hreach := reachable_knowing known
  rw [knowing_eq] at hreach ⊢
  refine ⟨hreach, rfl, fun p hp => ?_, fun t ht => ?_, hcount, hpos, ?_, ?_, hsame, hchanged,
    fun signature hsignature => ?_⟩
  · obtain ⟨q, -, rfl⟩ := List.mem_map.mp hp
    exact q.2.toTyped
  · obtain rfl := Option.some.inj ht
    rfl
  · rwa [ComparablePlay.length_plays]
  · rwa [ComparablePlay.length_plays]
  · obtain rfl := List.mem_singleton.mp hsignature
    rw [identities, ComparablePlay.tracks, List.map_map]
    rw [Play.identities, plays, List.map_map] at hchanged
    exact hchanged

/-- The newest of three songs is listened to again, and the oldest drops
off. -/
theorem evaluate_replayed_songs :
    ∃ finding h', (knowing (["a", "b", "c"].map song)).evaluate
        (plays (["a", "a", "b"].map song)) ⟨1, some 0⟩ = .ok finding h'
      ∧ h'.known = some (plays (["a", "a", "b"].map song))
      ∧ finding.consistent = true
      ∧ finding.plays.head? = some (stamp ⟨1, some 0⟩ (song "a").1) := by
  have hreplay : Replay (knowing (["a", "b", "c"].map song)) (plays (["a", "b", "c"].map song))
      (plays (["a", "a", "b"].map song)) ⟨1, some 0⟩ 1 2 :=
    replay_knowing (by decide) (by decide) (by decide) (by decide) (by decide +kernel)
      (by decide +kernel)
  obtain ⟨finding, h', hlook, hknown, hfound⟩ := hreplay.accepts_and_discovers
  have hgone : IsCertain (Play.identities (plays (["a", "b", "c"].map song)))
      (Play.identities (plays (["a", "a", "b"].map song))) :=
    .added 1 2 (by decide) (by decide) (by decide) (by decide +kernel)
      (Or.inr (by decide +kernel))
  have hnewestFirst : (knowing (["a", "b", "c"].map song)).newestFirst = true := by
    rw [knowing_eq]
  rw [ordered, if_pos hnewestFirst] at hknown hfound
  obtain ⟨hconsistent, newest, hnewest, hplays⟩ := hfound hgone
  obtain rfl := Option.some.inj hnewest
  exact ⟨finding, h', hlook, hknown, hconsistent, hplays⟩

/-- **More than one thing may have happened.** A new song and, above the
newest known one, the oldest known one again: the list is accepted, but said
to be out of order, and the new song is not discovered. -/
theorem not_forall_replay_discovered :
    ¬ ∀ (h : History) (known fetched : List Play) (now : Instant) (count kept : Nat),
      Replay h known fetched now count kept →
        ∃ finding h', h.evaluate fetched now = .ok finding h' ∧ finding.consistent = true
          ∧ (∃ newest, (h.ordered fetched).head? = some newest
            ∧ finding.plays.head? = some (stamp now newest))
          ∧ h'.known = some (h.ordered fetched) := by
  intro hall
  have hreplay : Replay (knowing (["a", "b", "c"].map song)) (plays (["a", "b", "c"].map song))
      (plays (["d", "c", "a"].map song)) ⟨1, some 0⟩ 2 1 :=
    replay_knowing (by decide) (by decide) (by decide) (by decide) (by decide +kernel)
      (by decide +kernel)
  obtain ⟨finding, h', hlook, hconsistent, -⟩ := hall _ _ _ _ _ _ hreplay
  have hjumbled : (((knowing (["a", "b", "c"].map song)).evaluate
      (plays (["d", "c", "a"].map song)) ⟨1, some 0⟩).result.toOption.map Finding.consistent)
      = some false := by decide +kernel
  rw [hlook] at hjumbled
  exact absurd (hconsistent.symm.trans (Option.some.inj hjumbled)) (by decide)

end Listening.History
