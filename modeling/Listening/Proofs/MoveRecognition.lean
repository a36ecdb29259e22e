import Listening.Proofs.EntryMoves

/-!
# Single moves, recognised exactly

A list may also be the previous one with one entry taken out and put at the
bottom: `Bump.Lowers`. Here the entry must be the last of its kind. Pairing
goes from the front, so the occurrences of a key keep their order
(`fst_lt_of_mem_pairs`), and the one at the bottom of the new list goes with
the last one there was; an earlier one that moves down takes the place of
that one instead.

A short list can be both, one entry moved up and another one moved down: of
two entries that have changed places it cannot be said which has moved. Then
the move to the top is the one that is found.
-/

namespace Listening

namespace ListDiff

variable {κ : Type} [BEq κ] [LawfulBEq κ] {prev new : List κ}

/-- **Occurrences of a key keep their order**: of two that are kept, the one
that comes first came first. -/
theorem fst_lt_of_mem_pairs {p q : Nat × Nat} (hp : p ∈ (ofKeys prev new).pairs)
    (hq : q ∈ (ofKeys prev new).pairs) {key : κ} (hpkey : new[p.2]? = some key)
    (hqkey : new[q.2]? = some key) (hlt : p.2 < q.2) : p.1 < q.1 := by
  have hzip : ∀ r ∈ (ofKeys prev new).pairs, new[r.2]? = some key →
      r ∈ (places key prev).zip (places key new) := by
    intro r hr hkey
    have hmem : r ∈ (ofKeys prev new).pairsOf new key :=
      List.mem_filter.mpr ⟨hr, by rw [hkey]; exact beq_self_eq_true (some key)⟩
    rwa [pairsOf_ofKeys] at hmem
  obtain ⟨m, hm, rfl⟩ := List.mem_iff_getElem.mp (hzip p hp hpkey)
  obtain ⟨n, hn, rfl⟩ := List.mem_iff_getElem.mp (hzip q hq hqkey)
  rw [List.length_zip] at hm hn
  rw [List.getElem_zip, List.getElem_zip] at hlt ⊢
  -- the places of a key are in order in both lists
  have hnew := pairwise_places key new
  have hmn : m < n := by
    refine Nat.lt_of_not_le fun hle => ?_
    rcases Nat.lt_or_eq_of_le hle with h | rfl
    · exact absurd hlt
        (Nat.lt_asymm (List.pairwise_iff_getElem.mp hnew n m (by omega) (by omega) h))
    · exact Nat.lt_irrefl _ hlt
  exact List.pairwise_iff_getElem.mp (pairwise_places key prev) m n (by omega) (by omega) hmn

end ListDiff

namespace Bump

open ListDiff Growth

variable {κ : Type}

/-- **One entry moved to the bottom**: the new list is the previous one
without the entry at a place, followed by that entry, and it was the last of
its kind. -/
structure Lowers (prev new : List κ) (place : Nat) : Prop where
  /-- The entry was not at the bottom. -/
  place_lt : place + 1 < prev.length
  /-- It is at the bottom now, and the others have stayed as they were. -/
  split : ∃ key, prev[place]? = some key ∧ new = prev.eraseIdx place ++ [key]
    ∧ key ∉ prev.drop (place + 1)

/-- A row of places is one that was moved to the bottom after the others, and
not one that was moved to the top. -/
theorem ofPlaces_eq_toBottom_iff (places : List Nat) :
    ofPlaces places = .toBottom
      ↔ ofPlaces places ≠ .toTop
        ∧ ∃ j, j + 1 < places.length
        ∧ places = (List.range places.length).eraseIdx j ++ [j] := by
  cases hfirst : places.head? with
  | none =>
    obtain rfl := List.head?_eq_none_iff.mp hfirst
    exact iff_of_false (fun e => nomatch e) (fun ⟨_, _, h, _⟩ => absurd h (Nat.not_lt_zero _))
  | some k =>
    obtain ⟨rest, rfl⟩ := List.head?_eq_some_iff.mp hfirst
    obtain ⟨front, j, hconcat⟩ : ∃ front j, k :: rest = front ++ [j] :=
      ⟨_, _, (List.dropLast_append_getLast (List.cons_ne_nil k rest)).symm⟩
    unfold ofPlaces
    rw [hconcat, List.getLast?_concat, ← hconcat]
    simp only [List.head?_cons, Bool.and_eq_true, decide_eq_true_eq, beq_iff_eq]
    split
    · exact iff_of_false (fun e => nomatch e) (fun h => h.1 rfl)
    · split
      · rename_i hj
        exact iff_of_true rfl ⟨(fun e => nomatch e), j, hj⟩
      · rename_i hj
        refine iff_of_false (fun e => nomatch e) ?_
        rintro ⟨-, j', hlt, he⟩
        obtain rfl := List.singleton_inj.mp (List.append_inj' (hconcat.symm.trans he) rfl).2
        exact hj ⟨hlt, he⟩

section Lawful

variable [BEq κ] [LawfulBEq κ] {prev new : List κ} {place : Nat}

omit [LawfulBEq κ] in
/-- If nothing was added, the places that were kept are those of the new list,
one after the other. -/
theorem mem_pairs_of_keptPlaces
    (hadded : (ListDiff.ofKeys prev new).addedPlaces = []) {i j : Nat}
    (h : (ListDiff.ofKeys prev new).keptPlaces[j]? = some i) :
    (i, j) ∈ (ListDiff.ofKeys prev new).pairs := by
  rw [keptPlaces_eq, List.getElem?_map, Option.map_eq_some_iff] at h
  obtain ⟨p, hp, rfl⟩ := h
  have hplace : ((ListDiff.ofKeys prev new).pairs.map Prod.snd)[j]? = some p.2 := by
    rw [List.getElem?_map, hp]
    rfl
  rw [map_snd_pairs hadded, List.getElem?_eq_some_iff] at hplace
  obtain ⟨hlt, he⟩ := hplace
  rw [List.getElem_range] at he
  rw [he]
  exact List.mem_of_getElem? hp

/-- **What one entry at the bottom is a sign of.** A later one of its kind
would have been paired with the entry at the bottom. -/
theorem lowers_of_keptPlaces (hlt : place + 1 < prev.length)
    (hadded : (ListDiff.ofKeys prev new).addedPlaces = [])
    (hkept : (ListDiff.ofKeys prev new).keptPlaces
      = (List.range prev.length).eraseIdx place ++ [place]) : Lowers prev new place := by
  have hshort : ((List.range prev.length).eraseIdx place).length = prev.length - 1 := by
    rw [List.length_eraseIdx_of_lt (by rw [List.length_range]; omega), List.length_range]
  have hget : prev[place]? = some prev[place] := List.getElem?_eq_getElem (by omega)
  have hnew := map_some_eq_of_addedPlaces_eq_nil hadded
  rw [hkept, List.map_append, ← List.eraseIdx_map, map_getElem?_range, List.eraseIdx_map,
    List.map_singleton, hget, ← List.map_singleton, ← List.map_append] at hnew
  refine ⟨hlt, _, hget, List.map_injective_iff.mpr (Option.some_injective κ) hnew,
    fun hmem => ?_⟩
  -- a later one would be kept above the entry at the bottom, which came before it
  obtain ⟨i, hi⟩ := List.mem_iff_getElem?.mp hmem
  rw [List.getElem?_drop] at hi
  have hin := (List.getElem?_eq_some_iff.mp hi).1
  have hlater : (place + 1 + i, place + i) ∈ (ListDiff.ofKeys prev new).pairs := by
    refine mem_pairs_of_keptPlaces hadded ?_
    rw [hkept, List.getElem?_append_left (by omega), List.getElem?_eraseIdx_of_ge (by omega),
      List.getElem?_range (by omega)]
    congr 1
    omega
  have hbottom : (place, prev.length - 1) ∈ (ListDiff.ofKeys prev new).pairs := by
    refine mem_pairs_of_keptPlaces hadded ?_
    rw [hkept, ← hshort, List.getElem?_concat_length]
  have hless := fst_lt_of_mem_pairs hlater hbottom ((getElem?_of_mem_pairs hlater).trans hi)
    ((getElem?_of_mem_pairs hbottom).trans hget) (by dsimp only; omega)
  dsimp only at hless
  omega

/-- What stands above an entry is kept first, then what stands below it, and
the entry comes last. -/
theorem pair_of_lowered (front : List (κ × Nat)) {back back' : List (κ × Nat)} {key : κ}
    (hback : ∀ p ∈ back', p.1 ≠ key)
    (hsame : back.map Prod.fst = back'.map Prod.fst) (i j : Nat) :
    pair (front ++ (key, i) :: back) (front ++ (back' ++ [(key, j)]))
      = (List.zipWith (fun p q => .kept p.2 q.2) front front
          ++ (List.zipWith (fun p q => .kept p.2 q.2) back back' ++ [.kept i j]), []) := by
  have hnone : ∀ p ∈ [(key, i)], ∀ q ∈ back', p.1 ≠ q.1 := by
    intro p hp q hq
    obtain rfl := List.mem_singleton.mp hp
    exact (hback q hq).symm
  have hrest := pair_of_map_fst_eq [] hsame
  have hbelow := pair_append_of_disjoint back back' hnone
  rw [List.append_nil] at hrest
  rw [hrest, List.append_nil, List.singleton_append] at hbelow
  have hnot : ∀ p ∈ ([] : List (κ × Nat)), p.1 ≠ key := fun _ h => absurd h List.not_mem_nil
  have hentry : pair [(key, i)] [(key, j)] = ([.kept i j], []) := pair_cons_append hnot i j [] []
  rw [pair_append, pair_of_map_fst_eq _ rfl, pair_append, hbelow]
  dsimp only
  rw [hentry]

/-- **An entry at the bottom is found there**, and nothing is added or
deleted. -/
theorem places_of_lowers (h : Lowers prev new place) :
    (ListDiff.ofKeys prev new).addedPlaces = []
      ∧ (ListDiff.ofKeys prev new).keptPlaces
        = (List.range prev.length).eraseIdx place ++ [place]
      ∧ (ListDiff.ofKeys prev new).deletedPlaces = [] := by
  have hlt := h.place_lt
  obtain ⟨key, hkey, rfl, hlast⟩ := h.split
  obtain ⟨hin, hget⟩ := List.getElem?_eq_some_iff.mp hkey
  have hfront : (prev.take place).length = place := List.length_take_of_le (Nat.le_of_lt hin)
  have hprev : prev.zipIdx = (prev.take place).zipIdx
      ++ (key, place) :: (prev.drop (place + 1)).zipIdx (place + 1) := by
    conv_lhs => rw [← List.take_append_drop place prev, List.drop_eq_getElem_cons hin, hget,
      List.zipIdx_append, hfront, Nat.zero_add, List.zipIdx_cons]
  have hnew : (prev.eraseIdx place ++ [key]).zipIdx
      = (prev.take place).zipIdx ++ ((prev.drop (place + 1)).zipIdx place
        ++ [(key, prev.length - 1)]) := by
    rw [List.eraseIdx_eq_take_drop_succ, List.append_assoc, List.zipIdx_append,
      List.zipIdx_append,
      hfront, Nat.zero_add, List.length_drop, List.zipIdx_singleton]
    congr 4
    omega
  have hback : ∀ p ∈ (prev.drop (place + 1)).zipIdx place, p.1 ≠ key :=
    fun p hp e => hlast (e ▸ List.fst_mem_of_mem_zipIdx hp)
  have hsame : ((prev.drop (place + 1)).zipIdx (place + 1)).map Prod.fst
      = ((prev.drop (place + 1)).zipIdx place).map Prod.fst := by
    rw [List.zipIdx_map_fst, List.zipIdx_map_fst]
  have hpair := pair_of_lowered (prev.take place).zipIdx hback hsame place (prev.length - 1)
  rw [← hprev, ← hnew] at hpair
  obtain ⟨hadded, hkept, hdeleted⟩ :=
    @places_of_pair κ _ prev (prev.eraseIdx place ++ [key]) false _ _ hpair
  refine ⟨hadded.trans ?_, hkept.trans ?_, hdeleted⟩
  · show List.filterMap _ _ = _
    rw [List.filterMap_append, List.filterMap_append, filterMap_addedPlace?_kept,
      filterMap_addedPlace?_kept]
    rfl
  · show List.map _ (List.filterMap _ _) = _
    rw [List.filterMap_append, List.filterMap_append, List.map_append, List.map_append,
      filterMap_kept?_kept rfl, filterMap_kept?_kept hsame, List.zipIdx_map_snd,
      List.zipIdx_map_snd, hfront, List.length_drop, eraseIdx_range hin, List.append_assoc]
    rfl

/-- **A key is found to have moved to the bottom exactly if it has**, and none
has moved to the top. -/
theorem ofKeys_eq_toBottom_iff (prev new : List κ) :
    ofKeys prev new = .toBottom
      ↔ (¬ ∃ place, Raises prev new place) ∧ ∃ place, Lowers prev new place := by
  rw [← ofKeys_eq_toTop_iff]
  constructor
  · intro h
    obtain ⟨hadded, hcount, he⟩ := ofKeys_of_ne_none (h.trans_ne fun e => nomatch e)
    obtain ⟨-, place, hlt, hkept⟩ := (ofPlaces_eq_toBottom_iff _).mp (he.symm.trans h)
    rw [hcount] at hlt hkept
    exact ⟨(by rw [h]; exact fun e => nomatch e), place, lowers_of_keptPlaces hlt hadded hkept⟩
  · rintro ⟨hnot, place, h⟩
    obtain ⟨hadded, hkept, hdeleted⟩ := places_of_lowers h
    obtain ⟨key, hkey, hnew, hlast⟩ := h.split
    have hlt := h.place_lt
    have hlength : prev.length = new.length := by
      rw [hnew, List.length_append, List.length_eraseIdx_of_lt (by omega), List.length_singleton]
      omega
    have hprev : prev ≠ [] := List.ne_nil_of_length_pos (by omega)
    have hne : prev ≠ new := by
      -- the entry after the one that has moved would be of its kind
      intro e
      have hmoved : prev[place]? = prev[place + 1]? := by
        conv_lhs => rw [e, hnew, List.getElem?_append_left (by
          rw [List.length_eraseIdx_of_lt (by omega)]; omega),
          List.getElem?_eraseIdx_of_ge (Nat.le_refl place)]
      refine hlast (List.mem_of_getElem? (i := 0) ?_)
      rw [List.getElem?_drop, Nat.add_zero, ← hmoved, hkey]
    have hcount : (ListDiff.ofKeys prev new).keptPlaces.length = prev.length := by
      have := (perm_keptPlaces prev new false).length_eq
      rwa [hdeleted, List.append_nil, List.length_range] at this
    have he := ofKeys_of_length_eq hlength hprev hne hadded hdeleted
    rw [he, ofPlaces_eq_toBottom_iff, hcount, ← he]
    exact ⟨hnot, place, hlt, hkept⟩

/-- Of two entries that have changed places, one is at the bottom now, but it
is the other one that is found. -/
example : ofKeys [1, 2] [2, 1] = .toTop := by decide

end Lawful

/-! ## Single moves of plays -/

open ComparablePlay (tracks)

/-- Whether one play was moved is whether its track was. -/
theorem ofPlays?_plays (prev new : List ComparablePlay) :
    ofPlays? (ComparablePlay.plays prev) (ComparablePlay.plays new)
      = .ok (ofKeys (tracks prev) (tracks new)) := by
  unfold ofPlays? ofKeys
  rw [ListDiff.ofPlays?_plays, ComparablePlay.length_plays, ComparablePlay.length_plays,
    ComparablePlay.length_tracks, ComparablePlay.length_tracks, ComparablePlay.plays,
    List.isEmpty_map, tracks, List.isEmpty_map]
  simp only [Bind.bind, Except.bind]
  split
  · rfl
  · split <;> rfl

/-- Where an entry was moved to, by what has moved. -/
theorem place?_eq_prepend_iff {bump : Bump} : bump.place? = some .prepend ↔ bump = .toTop := by
  cases bump <;> simp [place?]

theorem place?_eq_append_iff {bump : Bump} : bump.place? = some .append ↔ bump = .toBottom := by
  cases bump <;> simp [place?]

theorem place?_eq_none_iff {bump : Bump} : bump.place? = Option.none ↔ bump = .none := by
  cases bump <;> simp [place?]

/-- No entry has moved if none has moved to the top or to the bottom. -/
theorem eq_none_iff {bump : Bump} : bump = .none ↔ ¬ bump = .toTop ∧ ¬ bump = .toBottom := by
  cases bump <;> simp

/-- A list with an entry moved to its top has a first one. -/
theorem Raises.ne_nil {κ : Type} {prev new : List κ} {place : Nat} (h : Raises prev new place) :
    new ≠ [] := by
  obtain ⟨key, -, hnew, -⟩ := h.split
  exact hnew ▸ List.cons_ne_nil _ _

/-- A list with an entry moved to its bottom has a last one. -/
theorem Lowers.ne_nil {κ : Type} {prev new : List κ} {place : Nat} (h : Lowers prev new place) :
    new ≠ [] := by
  obtain ⟨key, -, hnew, -⟩ := h.split
  exact hnew ▸ List.append_ne_nil_of_right_ne_nil _ (List.cons_ne_nil _ _)

/-- There are plays where there are tracks of plays. -/
theorem plays_ne_nil {new : List ComparablePlay} (h : tracks new ≠ []) :
    ComparablePlay.plays new ≠ [] :=
  fun e => h (by rw [List.map_eq_nil_iff.mp e]; rfl)

/-- **Single moves of plays are recognised exactly.** A play is found to have
moved to the top if the list is the previous one with one play taken out and
put there, the first of its kind; otherwise one is found to have moved to the
bottom if it was put there and was the last of its kind; and otherwise none
is. What is delivered is the play at that end, and nothing if there is
none. -/
theorem ofPlays?_recognizes (prev new : List ComparablePlay) :
    ∃ bump, ofPlays? (ComparablePlay.plays prev) (ComparablePlay.plays new) = .ok bump
      ∧ (bump.place? = some .prepend ↔ ∃ place, Raises (tracks prev) (tracks new) place)
      ∧ (bump.place? = some .append ↔ (¬ ∃ place, Raises (tracks prev) (tracks new) place)
        ∧ ∃ place, Lowers (tracks prev) (tracks new) place)
      ∧ (bump.place? = Option.none ↔ (¬ ∃ place, Raises (tracks prev) (tracks new) place)
        ∧ ¬ ∃ place, Lowers (tracks prev) (tracks new) place)
      ∧ (bump.place? = some .prepend → ∃ top, (ComparablePlay.plays new).head? = some top
        ∧ bump.plays (ComparablePlay.plays new) = [top])
      ∧ (bump.place? = some .append → ∃ bottom, (ComparablePlay.plays new).getLast? = some bottom
        ∧ bump.plays (ComparablePlay.plays new) = [bottom])
      ∧ (bump.place? = Option.none → bump.plays (ComparablePlay.plays new) = []) := by
  have htop := ofKeys_eq_toTop_iff (tracks prev) (tracks new)
  have hbottom := ofKeys_eq_toBottom_iff (tracks prev) (tracks new)
  refine ⟨_, ofPlays?_plays prev new, place?_eq_prepend_iff.trans htop,
    place?_eq_append_iff.trans hbottom, ?_, fun h => ?_, fun h => ?_, fun h => ?_⟩
  · rw [place?_eq_none_iff, eq_none_iff, hbottom, htop, not_and]
    exact ⟨fun ⟨h₁, h₂⟩ => ⟨h₁, h₂ h₁⟩, fun ⟨h₁, h₂⟩ => ⟨h₁, fun _ => h₂⟩⟩
  · obtain ⟨place, hraises⟩ := htop.mp (place?_eq_prepend_iff.mp h)
    have hhead := List.head?_eq_some_head (plays_ne_nil hraises.ne_nil)
    refine ⟨_, hhead, ?_⟩
    rw [place?_eq_prepend_iff.mp h, Bump.plays, hhead]
    rfl
  · obtain ⟨-, place, hlowers⟩ := hbottom.mp (place?_eq_append_iff.mp h)
    have hlast := List.getLast?_eq_some_getLast (plays_ne_nil hlowers.ne_nil)
    refine ⟨_, hlast, ?_⟩
    rw [place?_eq_append_iff.mp h, Bump.plays, hlast]
    rfl
  · rw [place?_eq_none_iff.mp h]
    rfl

end Bump

end Listening
