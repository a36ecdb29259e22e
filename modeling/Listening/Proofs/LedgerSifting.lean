import Listening.Proofs.PlayerIsolation
import Listening.Proofs.SentOnce

/-!
# What a ledger holds back over time

A ledger is offered plays again and again, many of one platform at a time.
Each call puts them in order, and then it is the turn of one after the other:
a play is held back exactly if its turn finds a play known of its own platform
that is one listen with it. What is known of a platform changes from turn to
turn, also within one call. `Ledger.Sifts` is that as a relation, without a
ledger: it only has the plays known of each platform, of which the latest
remain.

The rest is read off it. What is known of a platform are the last plays of
that platform that were let through, whatever happened on others
(`Ledger.Fits.known_eq`). Two of them that are one listen are never known
together, the earlier one as the known one (`Ledger.Fits.pairwise`) – being
one listen is neither symmetric nor transitive, so no more can be said. So
where a play was let through, and later another one that is one listen with
it, the window has been filled anew in between. And as for players, leaving
out the plays of all other platforms changes nothing for the plays of one
(`Ledger.discover_only`).
-/

namespace Listening

/-! ## Order -/

section Order

variable {α : Type} {le : α → α → Bool}
  (trans : ∀ a b c, le a b = true → le b c = true → le a c = true)
  (total : ∀ a b, (le a b || le b a) = true)
include trans total

/-- An item is sorted in behind those that it must not precede, and before all
others. -/
theorem mergeSort_cons_eq (a : α) (as : List α) :
    (a :: as).mergeSort le = (as.mergeSort le).filter (fun b => !le a b)
      ++ a :: (as.mergeSort le).filter (fun b => le a b) := by
  obtain ⟨before, after, hsorted, hrest, hbefore⟩ := List.mergeSort_cons trans total a as
  have hafter : ∀ b ∈ after, le a b = true := by
    have hpairwise := List.pairwise_mergeSort trans total (a :: as)
    rw [hsorted] at hpairwise
    exact (List.pairwise_cons.mp (List.pairwise_append.mp hpairwise).2.1).1
  have hno : ∀ b ∈ before, ¬ le a b = true := fun b hb hle => by
    have h := hbefore b hb
    rw [hle] at h
    exact nomatch h
  have hnot : ∀ b ∈ after, ¬ (!le a b) = true := fun b hb h => by
    rw [hafter b hb] at h
    exact nomatch h
  rw [hsorted, hrest, List.filter_append, List.filter_append, List.filter_eq_self.mpr hbefore,
    List.filter_eq_nil_iff.mpr hnot, List.append_nil, List.filter_eq_nil_iff.mpr hno,
    List.nil_append, List.filter_eq_self.mpr hafter]

/-- **Sorting some of the items** is sorting them all and leaving out the
others: items of which neither precedes the other stay as they were. -/
theorem filter_mergeSort (own : α → Bool) (as : List α) :
    (as.mergeSort le).filter own = (as.filter own).mergeSort le := by
  induction as with
  | nil => rw [List.filter_nil, List.mergeSort_nil, List.filter_nil]
  | cons a rest ih =>
    by_cases ha : own a = true
    · have hswap : ∀ p : α → Bool, ((rest.mergeSort le).filter p).filter own
          = ((rest.filter own).mergeSort le).filter p := fun p => by
        rw [← ih, List.filter_filter, List.filter_filter]
        exact List.filter_congr fun b _ => Bool.and_comm _ _
      rw [mergeSort_cons_eq trans total, List.filter_append, hswap, List.filter_cons_of_pos ha,
        List.filter_cons_of_pos ha, hswap, mergeSort_cons_eq trans total]
    · obtain ⟨before, after, hsorted, hrest, -⟩ := List.mergeSort_cons trans total a rest
      rw [List.filter_cons_of_neg ha, ← ih, hsorted, hrest, List.filter_append,
        List.filter_append,
        List.filter_cons_of_neg ha]

end Order

/-- Sorting some of the plays is sorting them all and leaving out the others. -/
theorem Play.filter_mergeSort_placedAt (own : Play → Bool) (plays : List Play) :
    (plays.mergeSort fun a b => decide (a.placedAt.micros ≤ b.placedAt.micros)).filter own
      = (plays.filter own).mergeSort fun a b => decide (a.placedAt.micros ≤ b.placedAt.micros) :=
  @filter_mergeSort Play (fun a b => decide (a.placedAt.micros ≤ b.placedAt.micros))
    (fun _ _ _ hab hbc => decide_eq_true
      (Int.le_trans (of_decide_eq_true hab) (of_decide_eq_true hbc)))
    (fun a b => by
      rw [Bool.or_eq_true]
      exact (Int.le_total a.placedAt.micros b.placedAt.micros).imp decide_eq_true decide_eq_true)
    own plays

/-- **Sorting some of the plays** is sorting them all and leaving out the
others. -/
theorem Play.sort?_filter {plays sorted : List Play} (h : Play.sort? plays = .ok sorted)
    (own : Play → Bool) : Play.sort? (plays.filter own) = .ok (sorted.filter own) := by
  cases plays with
  | nil =>
    obtain rfl := Except.ok.inj h
    rfl
  | cons first rest =>
    unfold Play.sort? at h
    dsimp only at h
    split at h
    · rename_i hall
      -- what can be compared with the first play can be compared with any other
      have hsome : ∀ p ∈ first :: rest,
          first.placedAt.offset.isSome = p.placedAt.offset.isSome := by
        refine List.forall_mem_cons.mpr ⟨rfl, fun p hp => ?_⟩
        exact eq_of_beq (List.all_eq_true.mp hall p hp)
      obtain rfl := Except.ok.inj h
      rw [filter_mergeSort_placedAt]
      cases hown : (first :: rest).filter own with
      | nil =>
        rw [List.mergeSort_nil]
        rfl
      | cons a as =>
        have hmem : ∀ p ∈ a :: as, p ∈ first :: rest := fun p hp =>
          (List.mem_filter.mp (hown ▸ hp)).1
        refine if_pos (List.all_eq_true.mpr fun p hp => beq_iff_eq.mpr ?_)
        exact (hsome a (hmem a List.mem_cons_self)).symm.trans
          (hsome p (hmem p (List.mem_cons_of_mem a hp)))
    · exact nomatch h

namespace Ledger

variable {room : Nat} {l l' : Ledger} {name : String}

/-! ## Turns -/

/-- The plays of a platform, out of several. -/
def ofPlatform (name : String) (plays : List Play) : List Play :=
  plays.filter fun x => x.platform.name == name

@[simp] theorem ofPlatform_append (name : String) (as bs : List Play) :
    ofPlatform name (as ++ bs) = ofPlatform name as ++ ofPlatform name bs :=
  List.filter_append as bs

theorem ofPlatform_cons_of_eq {x : Play} (h : x.platform.name = name) (rest : List Play) :
    ofPlatform name (x :: rest) = x :: ofPlatform name rest :=
  List.filter_cons_of_pos (p := fun x : Play => x.platform.name == name) (beq_iff_eq.mpr h)

theorem ofPlatform_cons_of_ne {x : Play} (h : x.platform.name ≠ name) (rest : List Play) :
    ofPlatform name (x :: rest) = ofPlatform name rest :=
  List.filter_cons_of_neg (p := fun x : Play => x.platform.name == name)
    (fun e => h (beq_iff_eq.mp e))

/-- **What is known once a play was let through**: its platform knows it
last, and no more than there is room for. -/
def remembering (room : Nat) (x : Play) (known : String → List Play)
    (name : String) : List Play :=
  if name = x.platform.name then Window.lastOf room (known name ++ [x]) else known name

/-- **What becomes of plays, one after the other**, by what is known of each
platform: which are let through, and what is known in the end. -/
inductive Sifts (room : Nat) :
    (String → List Play) → List Play → List Play → (String → List Play) → Prop where
  /-- There are none. -/
  | nil (known : String → List Play) : Sifts room known [] [] known
  /-- One is held back: a play that is one listen with it is known. -/
  | heldBack {known after : String → List Play} {x y : Play} {rest found : List Play}
      (isKnown : y ∈ known x.platform.name) (same : Match.sameListen? y x = .ok true)
      (next : Sifts room known rest found after) : Sifts room known (x :: rest) found after
  /-- One is let through: no such play is known, and from now on it is. -/
  | letThrough {known after : String → List Play} {x : Play} {rest found : List Play}
      (isNew : ∀ y ∈ known x.platform.name, Match.sameListen? y x = .ok false)
      (next : Sifts room (remembering room x known) rest found after) :
      Sifts room known (x :: rest) (x :: found) after

/-- **A ledger with room for so many plays of each platform.** -/
structure HasRoom (room : Nat) (l : Ledger) : Prop where
  /-- New windows are of that size. -/
  size : l.size = room
  /-- So are the windows there are. -/
  windows : ∀ name w, l.windows.lookup name = some w → w.size = room

/-- The window in which a play of a platform is recorded. -/
theorem HasRoom.exists_window (hl : l.HasRoom room) (name : String) :
    ∃ w : Window Play, w.size = room ∧ w.items = l.known name
      ∧ ∀ x : Play, x.platform.name = name →
        l.record x = .ok () { l with windows := Entries.put name (w.push x) l.windows } := by
  cases hw : l.windows.lookup name with
  | some w =>
    refine ⟨w, hl.windows name w hw, ?_, fun x hx => ?_⟩
    · unfold known
      rw [hw]
    · subst hx
      unfold record
      simp only [hw]
  | none =>
    have hsize : Window.ofSize? l.size = .ok (⟨room, []⟩ : Window Play) := by
      rw [hl.size]
      exact if_neg (Int.not_lt.mpr (Int.natCast_nonneg room))
    refine ⟨⟨room, []⟩, rfl, ?_, fun x hx => ?_⟩
    · unfold known
      rw [hw]
    · subst hx
      unfold record
      simp only [hw, hsize]

/-- **Recording a play** never fails. -/
theorem HasRoom.record (hl : l.HasRoom room) (x : Play) :
    ∃ l', l.record x = .ok () l' ∧ l'.HasRoom room ∧ l'.known = remembering room x l.known := by
  obtain ⟨w, hsize, hitems, hrecord⟩ := hl.exists_window x.platform.name
  refine ⟨_, hrecord x rfl, ⟨hl.size, fun name w' hw' => ?_⟩, funext fun name => ?_⟩
  · by_cases hname : name = x.platform.name
    · subst hname
      rw [Entries.lookup_put_self] at hw'
      obtain rfl := Option.some.inj hw'
      exact hsize
    · rw [Entries.lookup_put_of_ne hname] at hw'
      exact hl.windows name w' hw'
  · rw [known_put, remembering]
    by_cases hname : name = x.platform.name
    · subst hname
      rw [if_pos rfl, if_pos rfl, ← hitems, ← hsize]
      rfl
    · rw [if_neg hname, if_neg hname]

/-- **One turn**: the play is held back, or it is let through and known. -/
theorem HasRoom.of_discoverOne_eq_ok (hl : l.HasRoom room) {x : Play} {answer : Option Play}
    (h : l.discoverOne x = .ok answer l') :
    (answer = none ∧ l' = l
        ∧ ∃ y ∈ l.known x.platform.name, Match.sameListen? y x = .ok true)
      ∨ (answer = some x ∧ l'.HasRoom room ∧ l'.known = remembering room x l.known
        ∧ ∀ y ∈ l.known x.platform.name, Match.sameListen? y x = .ok false) := by
  obtain ⟨existing, l₁, hexisting, hrest⟩ := Step.exists_of_andThen_eq_ok h
  obtain ⟨hfound, rfl⟩ : l.existing? x = .ok existing ∧ l = l₁ :=
    ⟨congrArg Step.result hexisting, congrArg Step.state hexisting⟩
  cases existing with
  | some y =>
    obtain ⟨line, l₂, hline, hlast⟩ := Step.exists_of_andThen_eq_ok hrest
    obtain ⟨hanswer, rfl⟩ := Step.ok_inj hlast
    refine Or.inl ⟨hanswer.symm, (congrArg Step.state hline).symm, y, ?_⟩
    exact Match.sameListen?_of_lastSame?_eq_some hfound
  | none =>
    obtain ⟨l₂, hrecord, hroom, hknown⟩ := hl.record x
    dsimp only at hrest
    rw [hrecord, Step.andThen_ok] at hrest
    obtain ⟨hanswer, rfl⟩ := Step.ok_inj hrest
    exact Or.inr ⟨hanswer.symm, hroom, hknown, Match.sameListen?_of_lastSame?_eq_none hfound⟩

/-- **Turn after turn, a ledger sifts plays.** -/
theorem HasRoom.sifts_of_forEach (hl : l.HasRoom room) {plays : List Play}
    {answers : List (Option Play)} (h : Step.forEach discoverOne plays l = .ok answers l') :
    l'.HasRoom room ∧ Sifts room l.known plays (answers.filterMap id) l'.known := by
  induction plays generalizing l answers with
  | nil =>
    obtain ⟨rfl, rfl⟩ := Step.ok_inj h
    exact ⟨hl, .nil _⟩
  | cons x rest ih =>
    obtain ⟨answer, l₁, answers₁, hx, hrest, rfl⟩ := Step.exists_of_forEach_cons_eq_ok h
    rcases hl.of_discoverOne_eq_ok hx with
      ⟨rfl, rfl, y, hy, hsame⟩ | ⟨rfl, hroom, hknown, hnew⟩
    · obtain ⟨hroom, hsifts⟩ := ih hl hrest
      exact ⟨hroom, .heldBack hy hsame hsifts⟩
    · obtain ⟨hroom', hsifts⟩ := ih hroom hrest
      rw [hknown] at hsifts
      exact ⟨hroom', .letThrough hnew hsifts⟩

/-- **A call is the turns of its plays, in order.** -/
theorem HasRoom.of_discover_eq_ok (hl : l.HasRoom room) {plays found : List Play}
    (h : l.discover plays = .ok found l') :
    ∃ sorted, Play.sort? plays = .ok sorted ∧ l'.HasRoom room
      ∧ Sifts room l.known sorted found l'.known := by
  obtain ⟨sorted, l₁, hsorted, hrest⟩ := Step.exists_of_andThen_eq_ok h
  obtain ⟨horder, rfl⟩ : Play.sort? plays = .ok sorted ∧ l = l₁ :=
    ⟨congrArg Step.result hsorted, congrArg Step.state hsorted⟩
  obtain ⟨answers, l₂, hanswers, hlast⟩ := Step.exists_of_andThen_eq_ok hrest
  obtain ⟨rfl, rfl⟩ := Step.ok_inj hlast
  exact ⟨sorted, horder, hl.sifts_of_forEach hanswers⟩

/-! ## What sifting comes to -/

/-- Plays let through are plays that had their turn, in the same order. -/
theorem Sifts.sublist {known after : String → List Play} {plays found : List Play}
    (h : Sifts room known plays found after) : found.Sublist plays := by
  induction h with
  | nil known => exact List.Sublist.refl []
  | heldBack isKnown same next ih => exact ih.cons _
  | letThrough isNew next ih => exact ih.cons_cons _

/-- **The turn of one play**: it is held back and nothing changes, or it is let
through and known from then on. -/
theorem Sifts.of_singleton {known after : String → List Play} {x : Play} {found : List Play}
    (h : Sifts room known [x] found after) :
    (∃ y ∈ known x.platform.name, Match.sameListen? y x = .ok true)
        ∧ found = [] ∧ after = known
      ∨ (∀ y ∈ known x.platform.name, Match.sameListen? y x = .ok false)
        ∧ found = [x] ∧ after = remembering room x known := by
  cases h with
  | heldBack isKnown same next =>
    cases next
    exact Or.inl ⟨⟨_, isKnown, same⟩, rfl, rfl⟩
  | letThrough isNew next =>
    cases next
    exact Or.inr ⟨isNew, rfl, rfl⟩

/-- Sifting can be looked at after any turn. -/
theorem Sifts.of_append {known after : String → List Play} {done later found : List Play}
    (h : Sifts room known (done ++ later) found after) :
    ∃ found₁ between found₂, Sifts room known done found₁ between
      ∧ Sifts room between later found₂ after ∧ found = found₁ ++ found₂ := by
  induction done generalizing known found with
  | nil => exact ⟨[], known, found, .nil known, h, rfl⟩
  | cons x done ih =>
    cases h with
    | heldBack isKnown same next =>
      obtain ⟨found₁, between, found₂, hdone, hlater, rfl⟩ := ih next
      exact ⟨found₁, between, found₂, .heldBack isKnown same hdone, hlater, rfl⟩
    | letThrough isNew next =>
      obtain ⟨found₁, between, found₂, hdone, hlater, rfl⟩ := ih next
      exact ⟨x :: found₁, between, found₂, .letThrough isNew hdone, hlater, rfl⟩

/-- **What is known, by what was let through so far.** -/
structure Fits (room : Nat) (past : List Play) (known : String → List Play) : Prop where
  /-- Of every platform its own last plays are known. -/
  known_eq : ∀ name, known name = Window.lastOf room (ofPlatform name past)
  /-- Plays of one platform that are one listen lie a window apart. -/
  apart : ∀ before p between q after, past = before ++ p :: between ++ q :: after →
    p.platform.name = q.platform.name → (ofPlatform p.platform.name between).length < room →
      Match.sameListen? p q = .ok false

/-- Before the first turn, nothing is known. -/
theorem fits_nil (room : Nat) : Fits room [] fun _ => [] where
  known_eq _ := List.drop_nil.symm
  apart before p between q after h := by
    exact nomatch (List.append_eq_nil_iff.mp h.symm).2

/-- **A play that is let through keeps its distance.** -/
theorem Fits.letThrough {past : List Play} {known : String → List Play}
    (h : Fits room past known) {x : Play}
    (isNew : ∀ y ∈ known x.platform.name, Match.sameListen? y x = .ok false) :
    Fits room (past ++ [x]) (remembering room x known) where
  known_eq name := by
    unfold remembering
    rw [ofPlatform_append]
    by_cases hname : name = x.platform.name
    · subst hname
      rw [if_pos rfl, h.known_eq, Window.lastOf_lastOf_append, ofPlatform_cons_of_eq rfl]
      rfl
    · rw [if_neg hname, h.known_eq, ofPlatform_cons_of_ne (Ne.symm hname)]
      exact congrArg _ (List.append_nil _).symm
  apart before p between q after hpast hname hnear := by
    rcases List.eq_nil_or_concat after with rfl | ⟨after', z, rfl⟩
    · -- the later play is the new one: the earlier one was still known at its turn
      obtain ⟨rfl, hx⟩ := List.append_inj' hpast rfl
      obtain rfl := List.singleton_inj.mp hx
      have hwindow : ofPlatform x.platform.name (before ++ p :: between)
          = ofPlatform x.platform.name before ++ p :: ofPlatform x.platform.name between := by
        rw [ofPlatform_append, ofPlatform_cons_of_eq hname]
      rw [hname] at hnear
      refine isNew p ?_
      rw [h.known_eq]
      exact Window.mem_lastOf hwindow hnear
    · have hlast : past ++ [x] = (before ++ p :: between ++ q :: after') ++ [z] := by
        rw [hpast, List.concat_eq_append, List.append_assoc (before ++ p :: between),
          List.cons_append]
      exact h.apart before p between q after' (List.append_inj' hlast rfl).1 hname hnear

/-- **What is known fits what was let through**, at every turn. -/
theorem Sifts.fits {known after : String → List Play} {plays found past : List Play}
    (h : Sifts room known plays found after) (hpast : Fits room past known) :
    Fits room (past ++ found) after := by
  induction h generalizing past with
  | nil known => exact (List.append_nil past).symm ▸ hpast
  | heldBack isKnown same next ih => exact ih hpast
  | letThrough isNew next ih =>
    have hrest := ih (hpast.letThrough isNew)
    rwa [List.append_assoc] at hrest

/-- Items of a row are in a relation, the earlier to the later one, if they
are wherever they stand. -/
theorem pairwise_of_split {α : Type} {R : α → α → Prop} {as : List α}
    (h : ∀ before a between b after, as = before ++ a :: between ++ b :: after → R a b) :
    as.Pairwise R := by
  induction as with
  | nil => exact List.Pairwise.nil
  | cons a rest ih =>
    refine List.pairwise_cons.mpr ⟨fun b hb => ?_, ih fun before c between d after hsplit => ?_⟩
    · obtain ⟨between, after, rfl⟩ := List.append_of_mem hb
      exact h [] a between b after rfl
    · exact h (a :: before) c between d after (by rw [hsplit]; rfl)

/-- Two plays of a platform can be found among all plays, with those of the
platform between them. -/
theorem exists_split_of_ofPlatform {past before between after : List Play} {p q : Play}
    (h : ofPlatform name past = before ++ p :: between ++ q :: after) :
    p.platform.name = name ∧ q.platform.name = name ∧ ∃ before' between' after',
      past = before' ++ p :: between' ++ q :: after' ∧ ofPlatform name between' = between := by
  rw [List.append_assoc, List.cons_append] at h
  obtain ⟨first, rest, rfl, -, hrest⟩ := List.filter_eq_append_iff.mp h
  obtain ⟨skipped, rest, rfl, -, hp, hrest⟩ := List.filter_eq_cons_iff.mp hrest
  obtain ⟨middle, rest, rfl, hmiddle, hrest⟩ := List.filter_eq_append_iff.mp hrest
  obtain ⟨gap, after', rfl, hgap, hq, -⟩ := List.filter_eq_cons_iff.mp hrest
  refine ⟨eq_of_beq hp, eq_of_beq hq, first ++ skipped, middle ++ gap, after', ?_, ?_⟩
  · simp only [List.append_assoc, List.cons_append]
  · have hnone : ofPlatform name gap = [] := List.filter_eq_nil_iff.mpr hgap
    rw [ofPlatform_append, hnone, List.append_nil]
    exact hmiddle

/-- **Two plays that are one listen are never known together**, the earlier
one as the known one. -/
theorem Fits.pairwise {past : List Play} {known : String → List Play} (h : Fits room past known)
    (name : String) : (known name).Pairwise fun x y => Match.sameListen? x y = .ok false := by
  refine pairwise_of_split fun before p between q after hknown => ?_
  have hlength : (known name).length ≤ room := by
    rw [h.known_eq]
    exact Window.length_lastOf_le room _
  have hnear : between.length < room := by
    rw [hknown] at hlength
    simp only [List.length_append, List.length_cons] at hlength
    omega
  -- in the window they are as close as they are among the plays of the platform
  have hpast : ofPlatform name past
      = ((ofPlatform name past).take ((ofPlatform name past).length - room) ++ before)
        ++ p :: between ++ q :: after := by
    rw [List.append_assoc, List.append_assoc, ← List.append_assoc before, ← hknown, h.known_eq]
    exact (List.take_append_drop _ _).symm
  obtain ⟨rfl, hq, before', between', after', hsplit, hbetween⟩ :=
    exists_split_of_ofPlatform hpast
  exact h.apart before' p between' q after' hsplit hq.symm (hbetween.symm ▸ hnear)

/-- Where a play was let through although an earlier one is one listen with
it, the window was filled anew in between. -/
theorem Fits.room_le {past : List Play} {known : String → List Play} (h : Fits room past known)
    {before between after : List Play} {p q : Play}
    (hpast : past = before ++ p :: between ++ q :: after)
    (hname : p.platform.name = q.platform.name) (hsame : Match.sameListen? p q = .ok true) :
    room ≤ (ofPlatform p.platform.name between).length := by
  by_contra hnear
  have hno := h.apart before p between q after hpast hname (Nat.lt_of_not_le hnear)
  exact nomatch hsame.symm.trans hno

/-! ## One platform among others -/

/-- **A ledger, cut down to one platform.** -/
def only (name : String) (l : Ledger) : Ledger :=
  { l with windows := l.windows.filter (·.1 == name) }

theorem known_only (name : String) (l : Ledger) : (l.only name).known name = l.known name := by
  unfold known only
  rw [Entries.lookup_filter_eq]

/-- Recording a play of the platform. -/
theorem record_only {x : Play} (hx : x.platform.name = name) (l : Ledger) :
    (l.only name).record x = (l.record x).within (only name) := by
  subst hx
  unfold record only
  dsimp only
  rw [Entries.lookup_filter_eq]
  cases l.windows.lookup x.platform.name with
  | some w =>
    dsimp only
    rw [← Entries.filter_put_self]
    rfl
  | none =>
    dsimp only
    cases (Window.ofSize? l.size : Except Fault (Window Play)) with
    | error e => rfl
    | ok w =>
      dsimp only
      rw [← Entries.filter_put_self]
      rfl

/-- Recording a play of another one. -/
theorem only_record_of_ne {x : Play} (hx : x.platform.name ≠ name) (l : Ledger) :
    (l.record x).state.only name = l.only name := by
  have hput : ∀ w : Window Play,
      only name { l with windows := Entries.put x.platform.name w l.windows } = l.only name :=
    fun w => congrArg (fun windows => { l with windows := windows })
      (Entries.filter_put_of_ne hx w l.windows)
  unfold record
  dsimp only
  split
  · exact hput _
  · rfl

/-- **A turn of a play of the platform** comes to what it comes to among
all. -/
theorem discoverOne_only {x : Play} (hx : x.platform.name = name) (l : Ledger) :
    (l.only name).discoverOne x = (l.discoverOne x).within (only name) := by
  have hexisting : (l.only name).existing? x = l.existing? x := by
    unfold existing?
    rw [hx, known_only]
  unfold discoverOne
  rw [hexisting]
  cases l.existing? x with
  | error e => rfl
  | ok existing =>
    cases existing with
    | some y =>
      show (Step.of x.describeDated? _).andThen _
        = ((Step.of x.describeDated? l).andThen fun _ l => .ok none l).within _
      cases x.describeDated? with
      | error e => rfl
      | ok line => rfl
    | none =>
      show ((l.only name).record x).andThen _
        = ((l.record x).andThen fun _ l => .ok (some x) l).within _
      rw [record_only hx]
      obtain ⟨result, l₁⟩ := l.record x
      cases result with
      | error e => rfl
      | ok u => rfl

/-- A turn of a play of another one does not touch it. -/
theorem only_discoverOne_of_ne {x : Play} (hx : x.platform.name ≠ name) (l : Ledger) :
    (l.discoverOne x).state.only name = l.only name := by
  unfold discoverOne
  refine Step.state_andThen (P := fun s : Ledger => s.only name = l.only name) rfl
    (fun existing s hs => ?_)
  cases existing with
  | some y =>
    exact Step.state_andThen (P := fun s : Ledger => s.only name = l.only name) hs
      (fun _ _ hs => hs)
  | none =>
    exact Step.state_andThen (P := fun s : Ledger => s.only name = l.only name)
      ((only_record_of_ne hx s).trans hs) (fun _ _ hs => hs)

/-- A play let through is the one whose turn it is. -/
theorem eq_of_discoverOne_eq_ok {x y : Play} {answer : Option Play}
    (h : l.discoverOne x = .ok answer l') (hy : answer = some y) : y = x := by
  obtain ⟨existing, l₁, -, hrest⟩ := Step.exists_of_andThen_eq_ok h
  cases existing with
  | some known =>
    obtain ⟨line, l₂, -, hlast⟩ := Step.exists_of_andThen_eq_ok hrest
    exact nomatch (Step.ok_inj hlast).1.trans hy
  | none =>
    obtain ⟨u, l₂, -, hlast⟩ := Step.exists_of_andThen_eq_ok hrest
    exact (Option.some.inj ((Step.ok_inj hlast).1.trans hy)).symm

/-- **A call without the plays of other platforms**, on the ledger without
the other platforms, lets the same plays of the platform through. -/
theorem discover_only {plays found : List Play} (h : l.discover plays = .ok found l')
    (name : String) :
    (l.only name).discover (ofPlatform name plays)
      = .ok (ofPlatform name found) (l'.only name) := by
  obtain ⟨sorted, l₁, hsorted, hrest⟩ := Step.exists_of_andThen_eq_ok h
  obtain ⟨horder, rfl⟩ : Play.sort? plays = .ok sorted ∧ l = l₁ :=
    ⟨congrArg Step.result hsorted, congrArg Step.state hsorted⟩
  obtain ⟨answers, l₂, hanswers, hlast⟩ := Step.exists_of_andThen_eq_ok hrest
  obtain ⟨rfl, rfl⟩ := Step.ok_inj hlast
  obtain ⟨answers', hanswers', hfound⟩ := Step.forEach_filter (only name)
    (fun x : Play => x.platform.name == name) (fun x => x.platform.name == name)
    (fun x hx s b s' hb => ⟨by rw [discoverOne_only (eq_of_beq hx), hb]; rfl,
      fun y hy => (eq_of_discoverOne_eq_ok hb hy).symm ▸ hx⟩)
    (fun x hx s b s' hb => ⟨by rw [← only_discoverOne_of_ne (ne_of_beq_false hx) s, hb]; rfl,
      fun y hy => (eq_of_discoverOne_eq_ok hb hy).symm ▸ hx⟩)
    hanswers
  unfold discover
  rw [ofPlatform, Play.sort?_filter horder, Step.of_ok, Step.andThen_ok, hanswers',
    Step.andThen_ok, hfound]
  rfl

/-! ## Calls that do not fail -/

/-- **A ledger that can be asked anything**: all that it knows can be
compared. -/
structure IsOpen (room : Nat) (l : Ledger) : Prop extends l.HasRoom room where
  /-- What is known can be compared with other plays. -/
  offered : ∀ name, ∀ x ∈ l.known name, x.Offered

/-- **No turn of a play that can be compared fails.** -/
theorem IsOpen.discoverOne (hl : l.IsOpen room) {x : Play} (hx : x.Offered) :
    ∃ answer l', l.discoverOne x = .ok answer l' ∧ l'.IsOpen room := by
  unfold Ledger.discoverOne existing?
  rcases Match.lastSame?_of_offered hx (hl.offered x.platform.name) with
    ⟨hnone, -⟩ | ⟨known, -, hfound, -⟩
  · obtain ⟨l', hrecord, hroom, hknown⟩ := hl.toHasRoom.record x
    rw [hnone, Step.of_ok, Step.andThen_ok]
    dsimp only
    rw [hrecord]
    refine ⟨some x, l', rfl, hroom, fun name y hy => ?_⟩
    rw [hknown, remembering] at hy
    split at hy
    · rcases List.mem_append.mp (List.mem_of_mem_drop hy) with hold | hnew
      · exact hl.offered name y hold
      · exact List.mem_singleton.mp hnew ▸ hx
    · exact hl.offered name y hy
  · obtain ⟨line, hline⟩ := hx.exists_describe?
    rw [hfound, Step.of_ok, Step.andThen_ok]
    dsimp only [Play.describeDated?]
    rw [hline]
    exact ⟨none, l, rfl, hl⟩

/-- **No call with plays that can be compared fails.** -/
theorem IsOpen.discover (hl : l.IsOpen room) {plays : List Play}
    (hplays : ∀ x ∈ plays, x.Offered) :
    ∃ found l', l.discover plays = .ok found l' ∧ l'.IsOpen room := by
  obtain ⟨sorted, hsorted, hperm⟩ := Play.exists_sort?_of_offered hplays
  have hturn : ∀ x ∈ sorted, ∀ s : Ledger, s.IsOpen room →
      ∃ answer s', s.discoverOne x = .ok answer s' ∧ s'.IsOpen room :=
    fun x hx s hs => hs.discoverOne (hplays x (hperm.mem_iff.mp hx))
  obtain ⟨answers, l', hanswers, hl'⟩ := Step.exists_forEach (IsOpen room) hturn hl
  have hdiscover : l.discover plays = .ok (answers.filterMap id) l' := by
    unfold Ledger.discover
    rw [hsorted, Step.of_ok, Step.andThen_ok, hanswers, Step.andThen_ok]
  exact ⟨_, l', hdiscover, hl'⟩

/-! ## Any number of calls -/

/-- **After any calls, what is known fits what was let through.** -/
theorem HasRoom.fits_of_calls (hl : l.HasRoom room) {past : List Play}
    (hpast : Fits room past l.known) {batches results : List (List Play)}
    (h : Step.forEach discover batches l = .ok results l') :
    l'.HasRoom room ∧ Fits room (past ++ results.flatten) l'.known := by
  induction batches generalizing l past results with
  | nil =>
    obtain ⟨rfl, rfl⟩ := Step.ok_inj h
    exact ⟨hl, (List.append_nil past).symm ▸ hpast⟩
  | cons plays rest ih =>
    obtain ⟨found, l₁, results₁, hfound, hrest, rfl⟩ := Step.exists_of_forEach_cons_eq_ok h
    obtain ⟨sorted, -, hroom, hsifts⟩ := hl.of_discover_eq_ok hfound
    obtain ⟨hroom', hfits⟩ := ih hroom (hsifts.fits hpast) hrest
    rw [List.append_assoc] at hfits
    exact ⟨hroom', hfits⟩

/-- Leaving out the plays of other platforms from all calls leaves out no
others of what is let through. -/
theorem calls_only {batches results : List (List Play)}
    (h : Step.forEach discover batches l = .ok results l') (name : String) :
    Step.forEach discover (batches.map (ofPlatform name)) (l.only name)
      = .ok (results.map (ofPlatform name)) (l'.only name) := by
  induction batches generalizing l results with
  | nil =>
    obtain ⟨rfl, rfl⟩ := Step.ok_inj h
    rfl
  | cons plays rest ih =>
    obtain ⟨found, l₁, results₁, hfound, hrest, rfl⟩ := Step.exists_of_forEach_cons_eq_ok h
    rw [List.map_cons, Step.forEach, discover_only hfound name, Step.andThen_ok, ih hrest,
      Step.andThen_ok, List.map_cons]

/-- A ledger of which nothing was asked yet. -/
theorem isOpen_start (room : Nat) : IsOpen room { size := room } where
  size := rfl
  windows _ _ h := nomatch h
  offered _ _ h := absurd h List.not_mem_nil

/-- **A ledger holds back exactly what it knows.** After any calls, for plays
that were let through:

- where a later play of a platform is one listen with an earlier one, so many
  plays of that platform as there is room for were let through in between;
- leaving out the plays of all other platforms from every call leaves the
  plays of one, call by call, and what is known of it.

Whatever the next call, it delivers plays in the order in which they were
played. In that order they have their turns, and at each of them exactly
those are held back that are one listen with a play then known of their
platform (`Sifts`). At every turn the last plays let through are known, for
each platform its own (`Fits`), and no two of them of which the later one is
one listen with the earlier one.

No call fails if the plays can be compared. -/
theorem calls_sift (room : Nat) (batches : List (List Play)) :
    (∀ results l, Step.forEach discover batches { size := room } = .ok results l →
      (∀ before p between q after, results.flatten = before ++ p :: between ++ q :: after →
        p.platform.name = q.platform.name → Match.sameListen? p q = .ok true →
          room ≤ (ofPlatform p.platform.name between).length)
      ∧ (∀ name, ∃ l₁, Step.forEach discover (batches.map (ofPlatform name)) { size := room }
          = .ok (results.map (ofPlatform name)) l₁ ∧ l₁.known name = l.known name)
      ∧ ∀ plays found l', l.discover plays = .ok found l' →
        ∃ sorted, Play.sort? plays = .ok sorted ∧ sorted.Perm plays
          ∧ (found.Pairwise fun a b => a.placedAt.micros ≤ b.placedAt.micros)
          ∧ Sifts room l.known sorted found l'.known
          ∧ ∀ done later, sorted = done ++ later → ∃ found₁ known found₂,
            found = found₁ ++ found₂ ∧ Sifts room l.known done found₁ known
            ∧ Sifts room known later found₂ l'.known
            ∧ Fits room (results.flatten ++ found₁) known
            ∧ ∀ name, (known name).Pairwise fun x y => Match.sameListen? x y = .ok false)
    ∧ ((∀ plays ∈ batches, ∀ x ∈ plays, x.Offered) →
      ∃ results l, Step.forEach discover batches { size := room } = .ok results l) := by
  refine ⟨fun results l run => ?_, fun hbatches => ?_⟩
  · obtain ⟨hroom, hfits⟩ := (isOpen_start room).toHasRoom.fits_of_calls (fits_nil room) run
    rw [List.nil_append] at hfits
    refine ⟨fun before p between q after => hfits.room_le,
      fun name => ⟨l.only name, calls_only run name, known_only name l⟩,
      fun plays found l' hfound => ?_⟩
    obtain ⟨sorted, horder, -, hsifts⟩ := hroom.of_discover_eq_ok hfound
    obtain ⟨hperm, hsorted⟩ := Play.pairwise_of_sort? horder
    refine ⟨sorted, horder, hperm, hsorted.sublist hsifts.sublist, hsifts,
      fun done later hsplit => ?_⟩
    obtain ⟨found₁, known, found₂, hdone, hlater, hboth⟩ := Sifts.of_append (hsplit ▸ hsifts)
    have hfits₁ := hdone.fits hfits
    exact ⟨found₁, known, found₂, hboth, hdone, hlater, hfits₁, hfits₁.pairwise⟩
  · have hcall : ∀ plays ∈ batches, ∀ s : Ledger, s.IsOpen room →
        ∃ found s', s.discover plays = .ok found s' ∧ s'.IsOpen room :=
      fun plays hplays s hs => hs.discover (hbatches plays hplays)
    obtain ⟨results, l, h, -⟩ := Step.exists_forEach (IsOpen room) hcall (isOpen_start room)
    exact ⟨results, l, h⟩

/-- A tune that was begun at a device some seconds after midnight. -/
def begun (title device : String) (seconds : Int) : Play where
  title := .text title
  playedAt := some ⟨seconds * Instant.second, some 0⟩
  device := .text device

/-- Plays of two devices, one of them told of three times. -/
def toldAgain : List (List Play) :=
  [[begun "Tune" "kitchen" 0, begun "Tune" "study" 0, begun "Tune" "kitchen" 5,
    begun "Jingle" "kitchen" 300], [begun "Tune" "kitchen" 0]]

theorem offered_begun (title device : String) (seconds : Int) :
    (begun title device seconds).Offered where
  title := rfl
  artists _ h := absurd h List.not_mem_nil
  album := rfl
  duration := rfl
  source := rfl
  trackId := rfl
  clocked t ht := by
    obtain rfl := Option.some.inj ht
    rfl
  ranges _ h := absurd h List.not_mem_nil

/-- With room for one, a play is forgotten once the device has played another
one, and not for what other devices play. -/
theorem calls_sift_toldAgain : ∃ results l,
    Step.forEach discover toldAgain { size := (1 : Nat) } = .ok results l
    ∧ results.map (·.map fun x => (x.title.display, x.platform.device))
      = [[("Tune", "kitchen"), ("Tune", "study"), ("Jingle", "kitchen")], [("Tune", "kitchen")]]
    ∧ ∃ l₁, Step.forEach discover (toldAgain.map (ofPlatform "kitchen-NO_USER"))
        { size := (1 : Nat) } = .ok (results.map (ofPlatform "kitchen-NO_USER")) l₁
      ∧ l₁.known "kitchen-NO_USER" = l.known "kitchen-NO_USER" := by
  obtain ⟨hruns, hexists⟩ := calls_sift 1 toldAgain
  have hoffered : ∀ plays ∈ toldAgain, ∀ x ∈ plays, x.Offered := by
    simp only [toldAgain, List.forall_mem_cons]
    exact ⟨⟨offered_begun _ _ _, offered_begun _ _ _, offered_begun _ _ _, offered_begun _ _ _,
      fun _ h => absurd h List.not_mem_nil⟩,
      ⟨offered_begun _ _ _, fun _ h => absurd h List.not_mem_nil⟩,
      fun _ h => absurd h List.not_mem_nil⟩
  obtain ⟨results, l, run⟩ := hexists hoffered
  refine ⟨results, l, run, ?_, (hruns results l run).2.1 _⟩
  have htitles : (Step.forEach discover toldAgain { size := (1 : Nat) }).result.toOption.map
      (·.map (·.map fun x => (x.title.display, x.platform.device)))
      = some [[("Tune", "kitchen"), ("Tune", "study"), ("Jingle", "kitchen")],
        [("Tune", "kitchen")]] := by
    -- the plays are in order as they are
    have horder : ∀ plays ∈ toldAgain, Play.sort? plays = .ok plays := by
      intro plays hplays
      refine Dispatcher.sort?_of_pairwise (fun a ha b hb => Instant.comparable_of_isSome
        (hoffered plays hplays a ha).isSome_placedAt
        (hoffered plays hplays b hb).isSome_placedAt) ?_
      revert plays
      decide
    simp only [toldAgain, List.forall_mem_cons] at horder
    simp only [toldAgain, Step.forEach, discover, horder.1, horder.2.1]
    decide +kernel
  rw [run] at htitles
  exact Option.some.inj htitles

end Ledger

end Listening
