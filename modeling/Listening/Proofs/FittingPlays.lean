import Listening.Proofs.LookVerdicts
import Listening.Proofs.WholeNumberSigns
import Mathlib.Algebra.Order.BigOperators.Group.List
import Mathlib.Tactic.NormNum

/-!
# The plays that fit into the time since the last look

Plays that were added on top of a list may be more than can have been listened
to since the last look. `History.fit` takes the older ones one after the other,
the oldest first, and keeps what still fits. This module says what it keeps
without a walk: items are marked as kept or not, the newest item first, and
`IsGreedy` are the marks that keep what fits with all that is kept before it,
and drop nothing else. There is one way of marking so, `greedy`.

The walk goes through floats, and each subtraction may round. Where the seconds
are taken for the rational numbers they are, the walk makes the greedy fit; and
where every amount on the way is one that a float stands for, the walk over
floats makes the same (`walk_of_readsAs` is about both). With lengths in whole
seconds, it always does, whatever the clock shows. And however much is rounded,
the plays are kept in their order, with the newest one and all of unknown length,
and with no other one if there is less than no time for them (`Finds`).
-/

namespace Listening.History

/-! ## Marks -/

section Marks

variable {α : Type}

/-- The items that are marked as kept. -/
def kept (marks : List (α × Bool)) : List α := (marks.filter (·.2)).map Prod.fst

@[simp] theorem kept_cons_true (a : α) (marks : List (α × Bool)) :
    kept ((a, true) :: marks) = a :: kept marks := rfl

@[simp] theorem kept_cons_false (a : α) (marks : List (α × Bool)) :
    kept ((a, false) :: marks) = kept marks := rfl

theorem kept_reverse (marks : List (α × Bool)) : kept marks.reverse = (kept marks).reverse := by
  unfold kept
  rw [List.filter_reverse, List.map_reverse]

variable (cost : α → Option ℚ)

/-- What the kept items cost. -/
def spent (marks : List (α × Bool)) : ℚ := ((kept marks).filterMap cost).sum

@[simp] theorem spent_nil : spent cost [] = 0 := rfl

@[simp] theorem spent_cons_false (a : α) (marks : List (α × Bool)) :
    spent cost ((a, false) :: marks) = spent cost marks := rfl

theorem spent_cons_none {a : α} (h : cost a = none) (marks : List (α × Bool)) :
    spent cost ((a, true) :: marks) = spent cost marks := by
  unfold spent
  rw [kept_cons_true, List.filterMap_cons_none h]

theorem spent_cons_some {a : α} {c : ℚ} (h : cost a = some c) (marks : List (α × Bool)) :
    spent cost ((a, true) :: marks) = c + spent cost marks := by
  unfold spent
  rw [kept_cons_true, List.filterMap_cons_some h, List.sum_cons]

/-- **The marks of a greedy fit into a budget**, the newest item first. -/
structure IsGreedy (budget : ℚ) (marks : List (α × Bool)) : Prop where
  /-- What has no known cost is kept. -/
  unknown : ∀ m ∈ marks, cost m.1 = none → m.2 = true
  /-- If the budget is overdrawn, nothing else is. -/
  overdrawn : budget < 0 → ∀ m ∈ marks, m.2 = true → cost m.1 = none
  /-- Otherwise what is kept costs no more than the budget. -/
  within : 0 ≤ budget → spent cost marks ≤ budget
  /-- What is dropped does not fit with what is kept of the older items. -/
  exceeds : ∀ a older, (a, false) :: older <:+ marks →
    ∃ c, cost a = some c ∧ budget < c + spent cost older

/-- **A fit of items that have been added**, the newest one first. -/
structure Fitting (budget : ℚ) (added : List α) (marks : List (α × Bool)) : Prop where
  /-- It marks the items, in their order. -/
  items : marks.map Prod.fst = added
  /-- It keeps the newest one. -/
  newest : ∀ m ∈ marks.head?, m.2 = true
  /-- It fits the others into the budget. -/
  older : IsGreedy cost budget marks.tail

/-- The marks that a greedy fit makes. -/
def greedy (budget : ℚ) : List α → List (α × Bool)
  | [] => []
  | a :: older =>
    (a, (cost a).all fun c => decide (c + spent cost (greedy budget older) ≤ budget))
      :: greedy budget older

@[simp] theorem greedy_nil (budget : ℚ) : greedy cost budget [] = [] := rfl

section Greedy

variable {cost} {budget : ℚ} {a : α} {older : List α}

theorem greedy_cons_none (h : cost a = none) :
    greedy cost budget (a :: older) = (a, true) :: greedy cost budget older := by
  rw [greedy, h]
  rfl

theorem greedy_cons_of_le {c : ℚ} (h : cost a = some c)
    (hle : c + spent cost (greedy cost budget older) ≤ budget) :
    greedy cost budget (a :: older) = (a, true) :: greedy cost budget older := by
  rw [greedy, h, Option.all_some, decide_eq_true hle]

theorem greedy_cons_of_lt {c : ℚ} (h : cost a = some c)
    (hlt : budget < c + spent cost (greedy cost budget older)) :
    greedy cost budget (a :: older) = (a, false) :: greedy cost budget older := by
  rw [greedy, h, Option.all_some, decide_eq_false hlt.not_ge]

theorem map_fst_greedy (budget : ℚ) (items : List α) :
    (greedy cost budget items).map Prod.fst = items := by
  induction items with
  | nil => rfl
  | cons a older ih => rw [greedy, List.map_cons, ih]

end Greedy

variable {cost}

/-- What is kept does not cost less than nothing. -/
theorem spent_nonneg {marks : List (α × Bool)}
    (hcost : ∀ m ∈ marks, ∀ c, cost m.1 = some c → 0 ≤ c) : 0 ≤ spent cost marks := by
  refine List.sum_nonneg fun c hc => ?_
  obtain ⟨a, ha, hac⟩ := List.mem_filterMap.mp hc
  obtain ⟨m, hm, rfl⟩ := List.mem_map.mp ha
  exact hcost m (List.mem_of_mem_filter hm) c hac

/-- **The greedy marks are those of a greedy fit.** -/
theorem isGreedy_greedy (budget : ℚ) {items : List α}
    (hcost : ∀ a ∈ items, ∀ c, cost a = some c → 0 ≤ c) :
    IsGreedy cost budget (greedy cost budget items) := by
  induction items with
  | nil =>
    exact ⟨fun m hm => absurd hm List.not_mem_nil, fun _ m hm => absurd hm List.not_mem_nil,
      fun h => h, fun a older h => absurd (List.suffix_nil.mp h) (List.cons_ne_nil _ _)⟩
  | cons a older ih =>
    obtain ⟨hnonneg, hcost⟩ := List.forall_mem_cons.mp hcost
    have ih := ih hcost
    cases ha : cost a with
    | none =>
      rw [greedy_cons_none ha]
      refine ⟨List.forall_mem_cons.mpr ⟨fun _ => rfl, ih.unknown⟩,
        fun h => List.forall_mem_cons.mpr ⟨fun _ => ha, ih.overdrawn h⟩, fun h => ?_,
        fun b rest h => ?_⟩
      · rw [spent_cons_none cost ha]
        exact ih.within h
      · rcases List.suffix_cons_iff.mp h with he | hsuffix
        · exact absurd (congrArg Prod.snd (List.cons.inj he).1) Bool.false_ne_true
        · exact ih.exceeds b rest hsuffix
    | some c =>
      rcases le_or_gt (c + spent cost (greedy cost budget older)) budget with hle | hlt
      · rw [greedy_cons_of_le ha hle]
        have hspent : 0 ≤ spent cost (greedy cost budget older) := spent_nonneg fun m hm =>
          hcost m.1 (by rw [← map_fst_greedy budget older]; exact List.mem_map_of_mem hm)
        have hpos : 0 ≤ budget := (add_nonneg (hnonneg c ha) hspent).trans hle
        refine ⟨List.forall_mem_cons.mpr ⟨fun _ => rfl, ih.unknown⟩,
          fun h => absurd h hpos.not_gt, fun _ => ?_, fun b rest h => ?_⟩
        · rwa [spent_cons_some cost ha]
        · rcases List.suffix_cons_iff.mp h with he | hsuffix
          · exact absurd (congrArg Prod.snd (List.cons.inj he).1) Bool.false_ne_true
          · exact ih.exceeds b rest hsuffix
      · rw [greedy_cons_of_lt ha hlt]
        refine ⟨List.forall_mem_cons.mpr ⟨fun h => (nomatch ha.symm.trans h), ih.unknown⟩,
          fun h => List.forall_mem_cons.mpr
            ⟨fun h => absurd h Bool.false_ne_true, ih.overdrawn h⟩,
          ih.within, fun b rest h => ?_⟩
        rcases List.suffix_cons_iff.mp h with he | hsuffix
        · obtain ⟨hfirst, rfl⟩ := List.cons.inj he
          obtain rfl := congrArg Prod.fst hfirst
          exact ⟨c, ha, hlt⟩
        · exact ih.exceeds b rest hsuffix

/-- The older items of a greedy fit are fitted greedily. -/
theorem IsGreedy.of_cons {budget : ℚ} {m : α × Bool} {marks : List (α × Bool)}
    (hcost : ∀ c, cost m.1 = some c → 0 ≤ c) (h : IsGreedy cost budget (m :: marks)) :
    IsGreedy cost budget marks where
  unknown := (List.forall_mem_cons.mp h.unknown).2
  overdrawn hb := (List.forall_mem_cons.mp (h.overdrawn hb)).2
  within hb := by
    obtain ⟨a, marked⟩ := m
    refine le_trans ?_ (h.within hb)
    cases marked with
    | false => exact le_rfl
    | true =>
      cases ha : cost a with
      | none => rw [spent_cons_none cost ha]
      | some c =>
        rw [spent_cons_some cost ha]
        exact le_add_of_nonneg_left (hcost c ha)
  exceeds a older hsuffix := h.exceeds a older (hsuffix.trans (List.suffix_cons m marks))

theorem IsGreedy.of_suffix {budget : ℚ} {marks older : List (α × Bool)}
    (hcost : ∀ m ∈ marks, ∀ c, cost m.1 = some c → 0 ≤ c) (h : IsGreedy cost budget marks)
    (hsuffix : older <:+ marks) : IsGreedy cost budget older := by
  induction marks with
  | nil =>
    rw [List.suffix_nil.mp hsuffix]
    exact h
  | cons m marks ih =>
    rcases List.suffix_cons_iff.mp hsuffix with rfl | hrest
    · exact h
    · obtain ⟨hnonneg, hcost⟩ := List.forall_mem_cons.mp hcost
      exact ih hcost (h.of_cons hnonneg) hrest

/-- **Only the greedy marks are a greedy fit.** -/
theorem IsGreedy.eq_greedy {budget : ℚ} {marks : List (α × Bool)}
    (hcost : ∀ m ∈ marks, ∀ c, cost m.1 = some c → 0 ≤ c) (h : IsGreedy cost budget marks) :
    marks = greedy cost budget (marks.map Prod.fst) := by
  induction marks with
  | nil => rfl
  | cons m marks ih =>
    obtain ⟨a, marked⟩ := m
    obtain ⟨hnonneg, hcost⟩ := List.forall_mem_cons.mp hcost
    have hmarks := ih hcost (h.of_cons hnonneg)
    rw [List.map_cons]
    dsimp only
    cases marked with
    | false =>
      obtain ⟨c, ha, hlt⟩ := h.exceeds a marks List.suffix_rfl
      rw [hmarks] at hlt
      rw [greedy_cons_of_lt ha hlt, ← hmarks]
    | true =>
      cases ha : cost a with
      | none => rw [greedy_cons_none ha, ← hmarks]
      | some c =>
        have hbudget : 0 ≤ budget := le_of_not_gt fun hb =>
          nomatch ha.symm.trans (h.overdrawn hb _ List.mem_cons_self rfl)
        have hle := h.within hbudget
        rw [spent_cons_some cost ha, hmarks] at hle
        rw [greedy_cons_of_le ha hle, ← hmarks]

variable (cost) in
/-- The marks that a fit of added items makes. -/
def fitting (budget : ℚ) : List α → List (α × Bool)
  | [] => []
  | newest :: older => (newest, true) :: greedy cost budget older

/-- **There is one fit**, and it is the greedy one. -/
theorem fitting_iff {budget : ℚ} {added : List α}
    (hcost : ∀ a ∈ added, ∀ c, cost a = some c → 0 ≤ c) {marks : List (α × Bool)} :
    Fitting cost budget added marks ↔ marks = fitting cost budget added := by
  constructor
  · rintro ⟨rfl, hnewest, hgreedy⟩
    cases marks with
    | nil => rfl
    | cons m older =>
      obtain ⟨a, marked⟩ := m
      obtain rfl : marked = true := hnewest _ rfl
      exact congrArg _ (hgreedy.eq_greedy fun m hm =>
        hcost m.1 (List.mem_cons_of_mem a (List.mem_map_of_mem hm)))
  · rintro rfl
    cases added with
    | nil => exact ⟨rfl, fun m hm => (nomatch hm), isGreedy_greedy budget hcost⟩
    | cons newest older =>
      refine ⟨congrArg _ (map_fst_greedy budget older), fun m hm => ?_,
        isGreedy_greedy budget (List.forall_mem_cons.mp hcost).2⟩
      obtain rfl := Option.some.inj hm
      rfl

end Marks

/-! ## The walk -/

section Walk

variable {α β : Type} [LE β] [DecidableLE β] [Sub β]

/-- **The marks of a walk** with a budget through items and what they cost. -/
def walk : β → List (α × Option β) → List (α × Bool)
  | _, [] => []
  | budget, (a, none) :: rest => (a, true) :: walk budget rest
  | budget, (a, some cost) :: rest =>
    if cost ≤ budget then (a, true) :: walk (budget - cost) rest
    else (a, false) :: walk budget rest

/-- What fits is what the walk marks as kept. -/
theorem fit_fst (budget : β) (items : List (α × Option β)) :
    (fit budget items).1 = kept (walk budget items) := by
  induction items generalizing budget with
  | nil => rfl
  | cons item rest ih =>
    obtain ⟨a, cost⟩ := item
    cases cost with
    | none => exact congrArg (a :: ·) (ih budget)
    | some cost =>
      unfold fit walk
      by_cases hle : cost ≤ budget
      · rw [if_pos hle, if_pos hle, kept_cons_true]
        exact congrArg (a :: ·) (ih (budget - cost))
      · rw [if_neg hle, if_neg hle, kept_cons_false]
        exact ih budget

/-- A walk marks the items, in their order. -/
theorem map_fst_walk (budget : β) (items : List (α × Option β)) :
    (walk budget items).map Prod.fst = items.map Prod.fst := by
  induction items generalizing budget with
  | nil => rfl
  | cons item rest ih =>
    obtain ⟨a, cost⟩ := item
    cases cost with
    | none => exact congrArg (a :: ·) (ih budget)
    | some cost =>
      unfold walk
      by_cases hle : cost ≤ budget
      · rw [if_pos hle]
        exact congrArg (a :: ·) (ih (budget - cost))
      · rw [if_neg hle]
        exact congrArg (a :: ·) (ih budget)

/-- Only what has a cost is dropped. -/
theorem exists_cost_of_dropped {budget : β} {items : List (α × Option β)} {a : α}
    (h : (a, false) ∈ walk budget items) : ∃ cost, (a, some cost) ∈ items := by
  induction items generalizing budget with
  | nil => exact absurd h List.not_mem_nil
  | cons item rest ih =>
    obtain ⟨b, cost⟩ := item
    have hrest : ∀ {budget : β}, (a, false) ∈ walk budget rest →
        ∃ c, (a, some c) ∈ (b, cost) :: rest := fun h =>
      (ih h).imp fun c hc => List.mem_cons_of_mem _ hc
    cases cost with
    | none =>
      rcases List.mem_cons.mp h with he | h
      · exact absurd (congrArg Prod.snd he) Bool.false_ne_true
      · exact hrest h
    | some cost =>
      unfold walk at h
      by_cases hle : cost ≤ budget
      · rw [if_pos hle] at h
        rcases List.mem_cons.mp h with he | h
        · exact absurd (congrArg Prod.snd he) Bool.false_ne_true
        · exact hrest h
      · rw [if_neg hle] at h
        rcases List.mem_cons.mp h with he | h
        · obtain rfl := congrArg Prod.fst he
          exact ⟨cost, List.mem_cons_self⟩
        · exact hrest h

/-- Where no cost is within the budget, only what has none is kept. -/
theorem costless_of_kept {budget : β} {items : List (α × Option β)}
    (hover : ∀ a cost, (a, some cost) ∈ items → ¬ cost ≤ budget) {a : α}
    (h : (a, true) ∈ walk budget items) : (a, none) ∈ items := by
  induction items with
  | nil => exact absurd h List.not_mem_nil
  | cons item rest ih =>
    obtain ⟨b, cost⟩ := item
    have hrest := ih fun a cost hmem => hover a cost (List.mem_cons_of_mem _ hmem)
    cases cost with
    | none =>
      rcases List.mem_cons.mp h with he | h
      · obtain rfl := congrArg Prod.fst he
        exact List.mem_cons_self
      · exact List.mem_cons_of_mem _ (hrest h)
    | some cost =>
      unfold walk at h
      rw [if_neg (hover b cost List.mem_cons_self)] at h
      rcases List.mem_cons.mp h with he | h
      · exact absurd (congrArg Prod.snd he).symm Bool.false_ne_true
      · exact List.mem_cons_of_mem _ (hrest h)

variable (counted : α → Option β)

/-- **The marks of added items**, the newest first: that one is kept, and the walk
goes through the others, the oldest first. -/
def walked (budget : β) : List α → List (α × Bool)
  | [] => []
  | newest :: older =>
    (newest, true) :: (walk budget (older.reverse.map fun a => (a, counted a))).reverse

section Walked

variable {counted} {budget : β} {added : List α}

/-- The items are marked in their order. -/
theorem map_fst_walked : (walked counted budget added).map Prod.fst = added := by
  cases added with
  | nil => rfl
  | cons newest older =>
    have hwalk : (walk budget (older.reverse.map fun a => (a, counted a))).map Prod.fst
        = older.reverse := by
      rw [map_fst_walk, List.map_map]
      exact List.map_id _
    rw [walked, List.map_cons, List.map_reverse, hwalk, List.reverse_reverse]

/-- The newest one is kept. -/
theorem head?_walked : ∀ m ∈ (walked counted budget added).head?, m.2 = true := by
  cases added with
  | nil => exact fun m hm => nomatch hm
  | cons newest older =>
    intro m hm
    obtain rfl := Option.some.inj hm
    rfl

/-- Every item without a cost is kept. -/
theorem walked_of_costless {m : α × Bool} (hm : m ∈ walked counted budget added)
    (hcost : counted m.1 = none) : m.2 = true := by
  cases added with
  | nil => exact absurd hm List.not_mem_nil
  | cons newest older =>
    rcases List.mem_cons.mp hm with rfl | hm
    · rfl
    · obtain ⟨a, marked⟩ := m
      cases marked with
      | true => rfl
      | false =>
        obtain ⟨cost, hmem⟩ := exists_cost_of_dropped (List.mem_reverse.mp hm)
        obtain ⟨b, -, hb⟩ := List.mem_map.mp hmem
        obtain ⟨rfl, hsome⟩ := Prod.mk.inj hb
        exact nomatch hsome.symm.trans hcost

/-- Where no cost is within the budget, every older item that is kept has none. -/
theorem costless_of_walked (hover : ∀ a ∈ added, ∀ cost, counted a = some cost → ¬ cost ≤ budget)
    {m : α × Bool} (hm : m ∈ (walked counted budget added).tail) (hkept : m.2 = true) :
    counted m.1 = none := by
  cases added with
  | nil => exact absurd hm List.not_mem_nil
  | cons newest older =>
    obtain ⟨a, marked⟩ := m
    obtain rfl : marked = true := hkept
    have hcostless := costless_of_kept (fun b cost hmem => by
      obtain ⟨b', hb', he⟩ := List.mem_map.mp hmem
      obtain ⟨rfl, hsome⟩ := Prod.mk.inj he
      exact hover b' (List.mem_cons_of_mem _ (List.mem_reverse.mp hb')) cost hsome)
      (List.mem_reverse.mp hm)
    obtain ⟨b, -, he⟩ := List.mem_map.mp hcostless
    obtain ⟨rfl, hnone⟩ := Prod.mk.inj he
    exact hnone

end Walked

/-- **Whether numbers are read as rationals**: they compare as what they are
read as, and so does a difference, if there is a number that is read as it. -/
structure ReadsAs (reads : β → ℚ → Prop) : Prop where
  le_iff : ∀ {x y : β} {p q : ℚ}, reads x p → reads y q → (x ≤ y ↔ p ≤ q)
  sub : ∀ {x y : β} {p q : ℚ}, reads x p → reads y q → (∃ z, reads z (p - q)) →
    reads (x - y) (p - q)

/-- Rationals are read as themselves. -/
theorem readsAs_eq : ReadsAs (@Eq ℚ) where
  le_iff := by
    rintro x y p q rfl rfl
    rfl
  sub := by
    rintro x y p q rfl rfl -
    rfl

/-- Floats are read as what they stand for. -/
theorem readsAs_stands : ReadsAs Number.Stands where
  le_iff := Number.Stands.le_iff
  sub := by
    rintro x y p q hp hq ⟨z, hz⟩
    exact hp.sub hq hz

variable {counted} {reads : β → ℚ → Prop} (hreads : ReadsAs reads) {cost : α → Option ℚ}
  {x : β} {budget : ℚ} (hx : reads x budget)

include hreads hx

/-- **The walk marks what a greedy fit marks**, as long as what is left of the
budget at each step is a number. Items that are older than all others come
first in the walk, and so it can be cut off before any item. -/
theorem walk_of_readsAs {items : List α}
    (hcosts : ∀ a ∈ items, Option.Rel reads (counted a) (cost a))
    (hleft : ∀ older, older <:+ items →
      ∃ z, reads z (budget - spent cost (greedy cost budget older))) :
    ∃ x', reads x' (budget - spent cost (greedy cost budget items))
      ∧ ∀ rest, walk x ((items.reverse.map fun a => (a, counted a)) ++ rest)
        = (greedy cost budget items).reverse ++ walk x' rest := by
  induction items with
  | nil =>
    refine ⟨x, ?_, fun rest => rfl⟩
    rwa [greedy_nil, spent_nil, sub_zero]
  | cons b items ih =>
    obtain ⟨hcost, hcosts⟩ := List.forall_mem_cons.mp hcosts
    obtain ⟨x', hx', hwalk⟩ :=
      ih hcosts fun older h => hleft older (h.trans (List.suffix_cons b items))
    have hlast := hleft (b :: items) List.suffix_rfl
    have hfirst : ∀ rest, walk x (((b :: items).reverse.map fun a => (a, counted a)) ++ rest)
        = (greedy cost budget items).reverse ++ walk x' ((b, counted b) :: rest) := by
      intro rest
      rw [List.reverse_cons, List.map_append, List.append_assoc, hwalk]
      rfl
    generalize hb : cost b = c at hcost
    generalize counted b = counts at hcost hfirst
    cases hcost with
    | none =>
      rw [greedy_cons_none hb, spent_cons_none cost hb]
      refine ⟨x', hx', fun rest => ?_⟩
      rw [hfirst, List.reverse_cons, List.append_assoc]
      rfl
    | @some y c hy =>
      have hfits : y ≤ x' ↔ c + spent cost (greedy cost budget items) ≤ budget := by
        rw [hreads.le_iff hy hx', le_sub_iff_add_le]
      rcases le_or_gt (c + spent cost (greedy cost budget items)) budget with hle | hlt
      · have hsplit : budget - (c + spent cost (greedy cost budget items))
            = budget - spent cost (greedy cost budget items) - c := by rw [add_comm, sub_sub]
        rw [greedy_cons_of_le hb hle, spent_cons_some cost hb, hsplit] at hlast ⊢
        refine ⟨x' - y, hreads.sub hx' hy hlast, fun rest => ?_⟩
        rw [hfirst, walk, if_pos (hfits.mpr hle), List.reverse_cons, List.append_assoc]
        rfl
      · rw [greedy_cons_of_lt hb hlt, spent_cons_false]
        refine ⟨x', hx', fun rest => ?_⟩
        rw [hfirst, walk, if_neg (mt hfits.mp hlt.not_ge), List.reverse_cons, List.append_assoc]
        rfl

/-- **Added items are marked as by the fit** if costs and what is left of the
budget are read as what they are. -/
theorem walked_of_readsAs {added : List α}
    (hcosts : ∀ a ∈ added.tail, Option.Rel reads (counted a) (cost a))
    (hleft : ∀ older, older <:+ added.tail →
      ∃ z, reads z (budget - spent cost (greedy cost budget older))) :
    walked counted x added = fitting cost budget added := by
  cases added with
  | nil => rfl
  | cons newest older =>
    obtain ⟨x', -, hwalk⟩ := walk_of_readsAs hreads hx hcosts hleft
    have hwhole := hwalk []
    rw [List.append_nil, walk, List.append_nil] at hwhole
    rw [walked, fitting]
    exact congrArg _ ((congrArg List.reverse hwhole).trans (List.reverse_reverse _))

end Walk

/-! ## Plays -/

end Listening.History

namespace Listening

/-- **The length of a play in seconds**, exactly, if it is known. -/
def Play.length? (p : Play) : Option ℚ :=
  match p.duration.key with
  | .number q => some q
  | _ => none

/-- A length that is not negative, or is not known. -/
def Play.Lasts (p : Play) : Prop :=
  p.duration.key = .absent ∨ ∃ q : ℚ, p.duration.key = .number q ∧ 0 ≤ q

theorem Play.length?_of_key {p : Play} {q : ℚ} (h : p.duration.key = .number q) :
    p.length? = some q := by
  unfold Play.length?
  rw [h]

/-- A float is counted as the length it stands for. -/
theorem Play.stands_of_seconds {p : Play} {x : Float} (h : p.duration = .seconds x) {q : ℚ}
    (hq : p.length? = some q) : Number.Stands x q := by
  have hkey : p.duration.key = .ofFloat x := by rw [h]; rfl
  unfold Play.length? at hq
  rw [hkey] at hq
  unfold Json.Key.ofFloat at hq
  cases hread : Number.read x with
  | undefined => rw [hread] at hq; exact nomatch hq
  | infinite negative => rw [hread] at hq; exact nomatch hq
  | finite negative mantissa exponent =>
    rw [hread] at hq
    unfold Number.Stands
    rw [hread]
    exact hq

/-- A play whose length is not known costs nothing. -/
theorem Play.Lasts.number?_of_none {p : Play} (h : p.Lasts) (htyped : p.Typed)
    (hnone : p.length? = none) : p.duration.number? = .ok none := by
  rcases h with habsent | ⟨q, hq, -⟩
  · rcases Amount.isNumeric_cases htyped.duration with hd | ⟨x, hd⟩ | ⟨n, hd⟩ | ⟨b, hd⟩ <;>
      rw [hd] at habsent ⊢
    · rfl
    · change Json.Key.ofFloat x = .absent at habsent
      unfold Json.Key.ofFloat at habsent
      split at habsent <;> exact nomatch habsent
    · exact nomatch habsent
    · exact nomatch habsent
  · exact nomatch hnone.symm.trans (length?_of_key hq)

theorem Play.Lasts.nonneg {p : Play} (h : p.Lasts) {q : ℚ}
    (hq : p.length? = some q) : 0 ≤ q := by
  rcases h with habsent | ⟨r, hr, hle⟩
  · unfold Play.length? at hq
    rw [habsent] at hq
    exact nomatch hq
  · obtain rfl := Option.some.inj (hq.symm.trans (length?_of_key hr))
    exact hle

/-- The seconds of a play as a look counts them. -/
def Play.seconds? (p : Play) : Option Float := p.duration.number?.toOption.join

theorem Play.seconds?_of_number? {p : Play} {length : Option Float}
    (h : p.duration.number? = .ok length) : p.seconds? = length := by
  unfold seconds?
  rw [h]
  rfl

/-- A play of a length that is not known is not counted. -/
theorem Play.Lasts.seconds?_eq_none {p : Play} (h : p.Lasts) (htyped : p.Typed)
    (hnone : p.length? = none) : p.seconds? = none :=
  seconds?_of_number? (h.number?_of_none htyped hnone)

/-- A length that is counted as what it is. -/
def Play.IsExact (p : Play) : Prop := Option.Rel Number.Stands p.seconds? p.length?

/-- What is counted exactly is known as what it is counted as. -/
theorem Play.IsExact.exists_length {p : Play} (h : p.IsExact) {x : Float}
    (hx : p.seconds? = some x) : ∃ q, p.length? = some q ∧ Number.Stands x q := by
  unfold IsExact at h
  rw [hx] at h
  cases hq : p.length? with
  | none =>
    rw [hq] at h
    exact nomatch h
  | some q =>
    rw [hq] at h
    cases h with
    | some hstands => exact ⟨q, rfl, hstands⟩

/-- A play that is not counted is of a length that is not known. -/
theorem Play.Typed.length?_eq_none {p : Play} (h : p.Typed) (hnone : p.seconds? = none) :
    p.length? = none := by
  unfold seconds? at hnone
  rcases Amount.isNumeric_cases h.duration with hd | ⟨x, hd⟩ | ⟨n, hd⟩ | ⟨b, hd⟩
  · unfold length?
    rw [hd]
    rfl
  all_goals
    rw [hd] at hnone
    exact nomatch hnone

/-- A length that is known as a float is counted as what it is. -/
theorem Play.Lasts.isExact_of_seconds {p : Play} (h : p.Lasts) {x : Float}
    (hx : p.duration = .seconds x) : p.IsExact := by
  have hcounted : p.seconds? = some x := seconds?_of_number? (by rw [hx]; rfl)
  unfold IsExact
  rcases h with habsent | ⟨q, hq, -⟩
  · rw [hx] at habsent
    change Json.Key.ofFloat x = .absent at habsent
    unfold Json.Key.ofFloat at habsent
    split at habsent <;> exact nomatch habsent
  · have hlength := length?_of_key hq
    rw [hcounted, hlength]
    exact .some (stands_of_seconds hx hlength)

/-- **No length is at most less than nothing**, however it is rounded. -/
theorem Play.Lasts.not_seconds_le {p : Play} (h : p.Lasts) (htyped : p.Typed) {cost x : Float}
    (hcost : p.seconds? = some cost) {budget : ℚ} (hx : Number.Stands x budget)
    (hneg : budget < 0) : ¬ cost ≤ x := by
  rcases Amount.isNumeric_cases htyped.duration with hd | ⟨y, hd⟩ | ⟨n, hd⟩ | ⟨b, hd⟩
  · have hnone : p.seconds? = none := seconds?_of_number? (by rw [hd]; rfl)
    exact nomatch hnone.symm.trans hcost
  · obtain ⟨q, hq, hstands⟩ := (h.isExact_of_seconds hd).exists_length hcost
    rw [hstands.le_iff hx]
    exact (hneg.trans_le (h.nonneg hq)).not_ge
  · obtain rfl := Option.some.inj ((seconds?_of_number? (by rw [hd]; rfl)).symm.trans hcost)
    have hlength : p.length? = some (n : ℚ) := length?_of_key (by rw [hd]; rfl)
    exact Number.not_ofInt_le (Int.cast_nonneg_iff.mp (h.nonneg hlength)) hx hneg
  · obtain rfl := Option.some.inj ((seconds?_of_number? (by rw [hd]; rfl)).symm.trans hcost)
    have hstands : Number.Stands (if b then 1 else 0) (if b then 1 else 0) := by
      unfold Number.Stands
      cases b <;> decide +kernel
    rw [hstands.le_iff hx]
    refine (hneg.trans_le ?_).not_ge
    split
    · exact zero_le_one
    · exact le_rfl

namespace History

/-- The marks of older items come last. -/
theorem greedy_suffix {α : Type} {cost : α → Option ℚ} (budget : ℚ) {older items : List α}
    (h : older <:+ items) : greedy cost budget older <:+ greedy cost budget items := by
  induction items with
  | nil =>
    obtain rfl := List.suffix_nil.mp h
    exact List.suffix_rfl
  | cons a items ih =>
    rcases List.suffix_cons_iff.mp h with rfl | hsuffix
    · exact List.suffix_rfl
    · exact (ih hsuffix).trans (List.suffix_cons _ _)

/-- **Where seconds are exact**, the walk makes the one fit there is. -/
theorem walked_length? (budget : ℚ) (added : List Play) :
    walked Play.length? budget added = fitting Play.length? budget added := by
  refine walked_of_readsAs readsAs_eq (Eq.refl budget) (fun p _ => ?_) fun _ _ => ⟨_, rfl⟩
  cases p.length? with
  | none => exact .none
  | some c => exact .some rfl

/-- **Nothing is rounded** where added plays are marked so: their lengths and
what is left of the budget after each are what floats stand for. -/
structure Unrounded (budget : ℚ) (marks : List (Play × Bool)) : Prop where
  lengths : ∀ m ∈ marks.tail, m.1.IsExact
  left : ∀ older, older <:+ marks.tail →
    ∃ z, Number.Stands z (budget - spent Play.length? older)

/-- **The walk over floats makes the marks of the fit** where nothing is
rounded. -/
theorem Unrounded.walked_seconds? {x : Float} {budget : ℚ} {added : List Play}
    (h : Unrounded budget (fitting Play.length? budget added)) (hx : Number.Stands x budget) :
    walked Play.seconds? x added = fitting Play.length? budget added := by
  cases added with
  | nil => rfl
  | cons newest older =>
    refine walked_of_readsAs readsAs_stands hx (fun p hp => ?_) fun rest hrest =>
      h.left _ (greedy_suffix budget hrest)
    have hitems : (greedy Play.length? budget older).map Prod.fst = older :=
      map_fst_greedy budget _
    obtain ⟨m, hm, rfl⟩ := List.mem_map.mp (hitems.symm ▸ hp)
    exact h.lengths m hm

/-- **The plays that are not taken for skipped** are those that the walk keeps. -/
theorem unskipped?_eq_kept {h : History} {added plays : List Play} {now t : Instant} {x : Float}
    (hobserved : h.observedAt = some t) (hbudget : h.budget? t now = .ok x)
    (htyped : ∀ p ∈ added, p.Typed) (hplays : h.unskipped? added now = .ok plays) :
    plays = kept (walked Play.seconds? x added) := by
  match added with
  | [] =>
    unfold unskipped? at hplays
    exact (Except.ok.inj hplays).symm
  | [p] =>
    unfold unskipped? at hplays
    exact (Except.ok.inj hplays).symm
  | newest :: second :: older =>
    unfold unskipped? at hplays
    rw [hobserved] at hplays
    dsimp only at hplays
    obtain ⟨x', hx', hplays⟩ := exists_of_bind_eq_ok hplays
    obtain rfl := Except.ok.inj (hbudget.symm.trans hx')
    obtain ⟨costs, hcosts, hplays⟩ := exists_of_bind_eq_ok hplays
    obtain ⟨lines, -, hplays⟩ := exists_of_bind_eq_ok hplays
    obtain rfl := Except.ok.inj hplays
    have hread : ∀ p ∈ (second :: older).reverse,
        (p.duration.number?.map fun cost => (p, cost)) = .ok (p, p.seconds?) := by
      intro p hp
      obtain ⟨length, hlength⟩ := Amount.number?_of_isNumeric
        (htyped p (List.mem_cons_of_mem _ (List.mem_reverse.mp hp))).duration
      rw [hlength, Play.seconds?_of_number? hlength]
      rfl
    obtain rfl := Except.ok.inj (hcosts.symm.trans (mapM_eq_ok hread))
    rw [fit_fst, walked, kept_cons_true, kept_reverse]

/-- Whole costs add up to a whole one. -/
theorem exists_natCast_spent {α : Type} {cost : α → Option ℚ} {marks : List (α × Bool)}
    (hwhole : ∀ m ∈ marks, ∀ c, cost m.1 = some c → ∃ n : ℕ, c = n) :
    ∃ n : ℕ, spent cost marks = n := by
  induction marks with
  | nil => exact ⟨0, Nat.cast_zero.symm⟩
  | cons m marks ih =>
    obtain ⟨a, marked⟩ := m
    obtain ⟨hfirst, hrest⟩ := List.forall_mem_cons.mp hwhole
    obtain ⟨n, hn⟩ := ih hrest
    cases marked with
    | false => exact ⟨n, hn⟩
    | true =>
      cases ha : cost a with
      | none => exact ⟨n, (spent_cons_none cost ha marks).trans hn⟩
      | some c =>
        obtain ⟨k, rfl⟩ := hfirst c ha
        exact ⟨k + n, by rw [spent_cons_some cost ha, hn, Nat.cast_add]⟩

/-- Nothing is spent on what has no known cost. -/
theorem spent_eq_zero {α : Type} {cost : α → Option ℚ} {marks : List (α × Bool)}
    (h : ∀ m ∈ marks, m.2 = true → cost m.1 = none) : spent cost marks = 0 := by
  unfold spent
  rw [List.filterMap_eq_nil_iff.mpr, List.sum_nil]
  intro a ha
  obtain ⟨m, hm, rfl⟩ := List.mem_map.mp ha
  exact h m (List.mem_of_mem_filter hm) (List.of_mem_filter hm)

/-- **Whole seconds are never rounded**, whatever the budget, as long as it is
not too large for a float to tell seconds. -/
theorem unrounded_of_whole {x : Float} {budget : ℚ} (hx : Number.Stands x budget)
    (hbudget : budget < 2 ^ 53) {marks : List (Play × Bool)}
    (hgreedy : IsGreedy Play.length? budget marks.tail)
    (hwhole : ∀ m ∈ marks.tail, ∀ q, m.1.length? = some q → ∃ n : ℕ, q = n)
    (hlengths : ∀ m ∈ marks.tail, m.1.IsExact) : Unrounded budget marks where
  lengths := hlengths
  left older hsuffix := by
    have holder : ∀ m ∈ older, m ∈ marks.tail := fun m hm => hsuffix.subset hm
    have hnonneg : ∀ m ∈ marks.tail, ∀ q, m.1.length? = some q → 0 ≤ q := by
      intro m hm q hq
      obtain ⟨n, rfl⟩ := hwhole m hm q hq
      exact Nat.cast_nonneg n
    have hfit := hgreedy.of_suffix hnonneg hsuffix
    rcases le_or_gt 0 budget with hpos | hneg
    · obtain ⟨n, hn⟩ := exists_natCast_spent fun m hm => hwhole m (holder m hm)
      have hle := hfit.within hpos
      rw [hn] at hle ⊢
      exact hx.exists_sub_natCast hbudget hle
    · rw [spent_eq_zero (hfit.overdrawn hneg), sub_zero]
      exact ⟨x, hx⟩

/-! ## Looks -/

/-- A finding of plays that were added on top is of those not taken for
skipped. -/
def BringsUnskipped (h : History) (known candidate : List Play) (now : Instant)
    (finding : Finding) : Prop :=
  finding.kind = .added → finding.place = some .prepend →
    ∃ count plays, Growth.ofPlays? known candidate = .ok (.prepend count)
      ∧ h.unskipped? (candidate.take count) now = .ok plays
      ∧ finding.plays = plays.map (stamp now)

section Looks

variable {h : History} {known candidate : List Play} {now : Instant}

/-- A list that differs brings what its growth brings, and nothing else is
taken for plays added on top. -/
theorem exists_changed (hcandidate : ∀ p ∈ candidate, p.Typed) (hold : ∀ p ∈ known, p.Typed)
    (hclock : ∀ t, h.observedAt = some t → Instant.comparable now t = true) (d : ListDiff) :
    ∃ finding h', h.changed known candidate d now = .ok finding h'
      ∧ h.BringsUnskipped known candidate now finding := by
  have hgrowth := Growth.ofPlays?_of_typed hold hcandidate
  unfold changed
  rw [Bump.ofPlays?_of_typed hold hcandidate]
  dsimp only
  split
  · exact ⟨_, _, rfl, fun hkind => nomatch hkind⟩
  generalize Growth.ofKeys (Play.identities known) (Play.identities candidate)
    = growth at hgrowth
  rw [hgrowth, Step.of_ok, Step.andThen_ok]
  split
  · unfold grown
    split
    · rename_i hontop
      obtain ⟨plays, hplays, -⟩ :=
        exists_unskipped? (typed_plays_growth hcandidate growth) hclock
      rw [hplays, Step.of_ok, Step.andThen_ok, accept_of_typed h hcandidate now, Step.andThen_ok]
      cases growth with
      | prepend count => exact ⟨_, _, rfl, fun _ _ => ⟨count, plays, hgrowth, hplays, rfl⟩⟩
      | none => exact absurd hontop Bool.false_ne_true
      | insert => exact absurd hontop Bool.false_ne_true
      | append count => exact absurd hontop Bool.false_ne_true
    · rename_i hontop
      rw [accept_of_typed h hcandidate now, Step.andThen_ok]
      refine ⟨_, _, rfl, fun _ hplace => ?_⟩
      cases growth with
      | prepend count => exact absurd rfl hontop
      | none => exact nomatch hplace
      | insert => exact nomatch hplace
      | append count => exact nomatch hplace
  · rw [Step.of_ok, Step.andThen_ok]
    split
    · unfold bumped
      rw [accept_of_typed h hcandidate now, Step.andThen_ok]
      split <;> exact ⟨_, _, rfl, fun hkind => nomatch hkind⟩
    · unfold jumbled
      rw [accept_of_typed h hcandidate now]
      dsimp only
      split <;> exact ⟨_, _, rfl, fun _ hplace => nomatch hplace⟩

/-- **A look at typed plays succeeds**, and plays that were added on top are
found but for those that are taken for skipped. -/
theorem exists_evaluate {fetched : List Play} (hknown : h.known = some known)
    (hold : ∀ p ∈ known, p.Typed) (htyped : ∀ p ∈ fetched, p.Typed)
    (hclock : ∀ t, h.observedAt = some t → Instant.comparable now t = true) :
    ∃ finding h', h.evaluate fetched now = .ok finding h'
      ∧ h.BringsUnskipped known (h.ordered fetched) now finding := by
  have hcandidate : ∀ p ∈ h.ordered fetched, p.Typed := fun p hp => htyped p (mem_ordered.mp hp)
  rw [evaluate_of_diff htyped hknown (ListDiff.ofPlays?_of_typed hold hcandidate false) now]
  split
  · exact ⟨_, _, rfl, fun hkind => nomatch hkind⟩
  split
  · exact ⟨_, _, rfl, fun hkind => nomatch hkind⟩
  · exact exists_changed hcandidate hold hclock _

/-- **What is found of added plays** by a look that has so many seconds for them:
plays are marked as kept or not, the newest first, and those that are kept are
found. -/
structure Finds (seconds : Float) (now : Instant) (added found : List Play)
    (marks : List (Play × Bool)) : Prop where
  /-- The added plays are marked, in their order. -/
  items : marks.map Prod.fst = added
  /-- What is kept is found, in that order. -/
  plays : found = (kept marks).map (stamp now)
  /-- The newest play is kept. -/
  newest : ∀ m ∈ marks.head?, m.2 = true
  /-- A play of unknown length is kept. -/
  unknown : ∀ m ∈ marks, m.1.length? = none → m.2 = true
  /-- If there are less than no seconds, no older play of known length is kept. -/
  overdrawn : ∀ budget, Number.Stands seconds budget → budget < 0 →
    ∀ m ∈ marks.tail, m.2 = true → m.1.length? = none
  /-- Where nothing is rounded, the older plays are fitted into the seconds. -/
  unrounded : ∀ budget, Number.Stands seconds budget →
    Unrounded budget (fitting Play.length? budget added) →
    Fitting Play.length? budget added marks
  /-- With lengths in whole seconds, nothing is. -/
  whole : ∀ budget, Number.Stands seconds budget → budget < 2 ^ 53 → (∀ p ∈ added, p.IsExact) →
    (∀ p ∈ added, ∀ q, p.length? = some q → ∃ n : ℕ, q = n) →
    Fitting Play.length? budget added marks

/-- **The plays that the walk keeps are found so.** -/
theorem finds_walked {seconds : Float} {added : List Play} (htyped : ∀ p ∈ added, p.Typed)
    (hlasts : ∀ p ∈ added, p.Lasts) :
    Finds seconds now added ((kept (walked Play.seconds? seconds added)).map (stamp now))
      (walked Play.seconds? seconds added) := by
  have hitems : (walked Play.seconds? seconds added).map Prod.fst = added := map_fst_walked
  have hmem : ∀ m ∈ walked Play.seconds? seconds added, m.1 ∈ added := fun m hm =>
    hitems.subst (motive := (m.1 ∈ ·)) (List.mem_map_of_mem hm)
  have hnonneg : ∀ p ∈ added, ∀ q, p.length? = some q → 0 ≤ q :=
    fun p hp q hq => (hlasts p hp).nonneg hq
  have hunrounded : ∀ budget, Number.Stands seconds budget →
      Unrounded budget (fitting Play.length? budget added) →
      Fitting Play.length? budget added (walked Play.seconds? seconds added) :=
    fun budget hseconds h => (fitting_iff hnonneg).mpr (h.walked_seconds? hseconds)
  refine ⟨hitems, rfl, head?_walked, fun m hm hnone => ?_,
    fun budget hseconds hneg m hm hkept => ?_, hunrounded,
    fun budget hseconds hsmall hexact hwhole => hunrounded budget hseconds ?_⟩
  · have hp := hmem m hm
    exact walked_of_costless hm ((hlasts _ hp).seconds?_eq_none (htyped _ hp) hnone)
  · have hover : ∀ p ∈ added, ∀ cost, p.seconds? = some cost → ¬ cost ≤ seconds :=
      fun p hp cost hcost => (hlasts p hp).not_seconds_le (htyped p hp) hcost hseconds hneg
    exact (htyped _ (hmem m (List.mem_of_mem_tail hm))).length?_eq_none
      (costless_of_walked hover hm hkept)
  · have hfit := (fitting_iff hnonneg).mpr (rfl : fitting Play.length? budget added = _)
    have hadded : ∀ m ∈ (fitting Play.length? budget added).tail, m.1 ∈ added := fun m hm =>
      hfit.items ▸ List.mem_map_of_mem (List.mem_of_mem_tail hm)
    exact unrounded_of_whole hseconds hsmall hfit.older
      (fun m hm => hwhole m.1 (hadded m hm)) fun m hm => hexact m.1 (hadded m hm)

/-- **The plays found on top of a list are those of the greedy fit** into the
seconds since the last look and the tolerance. There is one such fit, and it
is what the walk over exact seconds makes. -/
theorem evaluate_fits {fetched : List Play} {t : Instant} (hknown : h.known = some known)
    (hobserved : h.observedAt = some t) (hold : ∀ p ∈ known, p.Typed)
    (htyped : ∀ p ∈ fetched, p.Typed) (hlasts : ∀ p ∈ fetched, p.Lasts)
    (hclock : Instant.comparable now t = true) :
    ∃ finding h', h.evaluate fetched now = .ok finding h'
      ∧ (finding.kind = .added → finding.place = some .prepend →
        ∃ count marks, Growth.ofPlays? known (h.ordered fetched) = .ok (.prepend count)
          ∧ Finds (Instant.seconds (now.micros - t.micros) + h.tolerance) now
            ((h.ordered fetched).take count) finding.plays marks
          ∧ ∀ budget others, Fitting Play.length? budget ((h.ordered fetched).take count) others
            ↔ others = walked Play.length? budget ((h.ordered fetched).take count)) := by
  have hcomparable : ∀ t, h.observedAt = some t → Instant.comparable now t = true := by
    intro t' ht'
    obtain rfl := Option.some.inj (hobserved.symm.trans ht')
    exact hclock
  obtain ⟨finding, h', hlook, hbrings⟩ := exists_evaluate hknown hold htyped hcomparable
  refine ⟨finding, h', hlook, fun hkind hplace => ?_⟩
  obtain ⟨count, plays, hgrowth, hplays, hfound⟩ := hbrings hkind hplace
  have hmem : ∀ p ∈ (h.ordered fetched).take count, p ∈ fetched :=
    fun p hp => mem_ordered.mp (List.mem_of_mem_take hp)
  have hbudget :
      h.budget? t now = .ok (Instant.seconds (now.micros - t.micros) + h.tolerance) := by
    unfold budget?
    rw [Instant.minus?_of_comparable hclock]
    rfl
  refine ⟨count, walked Play.seconds? (Instant.seconds (now.micros - t.micros) + h.tolerance)
    ((h.ordered fetched).take count), hgrowth, ?_, fun budget others => ?_⟩
  · rw [hfound, unskipped?_eq_kept hobserved hbudget (fun p hp => htyped p (hmem p hp)) hplays]
    exact finds_walked (fun p hp => htyped p (hmem p hp)) fun p hp => hlasts p (hmem p hp)
  · rw [walked_length?]
    exact fitting_iff fun p hp q hq => (hlasts p (hmem p hp)).nonneg hq

/-- A song of a known length. -/
def songOf (name : String) (length : Float) : Play :=
  { title := .text name, trackId := .text name, duration := .seconds length }

/-- A history that has seen one song. -/
def afterOne : History where
  known := some [songOf "a" 180]
  observedAt := some ⟨0, some 0⟩
  seen := [Play.identities [songOf "a" 180]]

/-- Three more songs on top of that one. -/
def fourSongs : List Play := [songOf "d" 190, songOf "c" 200, songOf "b" 100, songOf "a" 180]

/-- How the three fit into four minutes and ten seconds: the first of them does, the
second does not any more, and the newest is kept in any case. -/
def threeMarks : List (Play × Bool) :=
  [(songOf "d" 190, true), (songOf "c" 200, false), (songOf "b" 100, true)]

theorem typed_songOf (name : String) (length : Float) : (songOf name length).Typed :=
  ⟨rfl, fun _ h => absurd h List.not_mem_nil, rfl, rfl, rfl, rfl⟩

/-- The marks are those of the greedy fit. -/
theorem fitting_threeMarks : fitting Play.length? 250 (fourSongs.take 3) = threeMarks := by
  have hb : (songOf "b" 100).length? = some 100 := by decide +kernel
  have hc : (songOf "c" 200).length? = some 200 := by decide +kernel
  have holdest : greedy Play.length? 250 [songOf "b" 100] = [(songOf "b" 100, true)] :=
    greedy_cons_of_le hb (by rw [greedy_nil, spent_nil]; norm_num)
  have holder : greedy Play.length? 250 [songOf "c" 200, songOf "b" 100]
      = [(songOf "c" 200, false), (songOf "b" 100, true)] := by
    rw [greedy_cons_of_lt hc, holdest]
    rw [holdest, spent_cons_some _ hb, spent_nil]
    norm_num
  exact congrArg _ holder

/-- Four minutes after one song, three more are on top of it. -/
theorem evaluate_fits_fourSongs :
    ∃ finding h', afterOne.evaluate fourSongs ⟨240000000, some 0⟩ = .ok finding h'
      ∧ finding.plays = [songOf "d" 190, songOf "b" 100].map (stamp ⟨240000000, some 0⟩) := by
  have hkeys : ∀ p ∈ fourSongs, ∃ n : ℕ, p.duration.key = .number n := by
    simp only [fourSongs, List.forall_mem_cons]
    exact ⟨⟨190, by decide +kernel⟩, ⟨200, by decide +kernel⟩, ⟨100, by decide +kernel⟩,
      ⟨180, by decide +kernel⟩, fun _ h => absurd h List.not_mem_nil⟩
  have htyped : ∀ p ∈ fourSongs, p.Typed := by
    simp only [fourSongs, List.forall_mem_cons]
    exact ⟨typed_songOf _ _, typed_songOf _ _, typed_songOf _ _, typed_songOf _ _,
      fun _ h => absurd h List.not_mem_nil⟩
  have hknown : ∀ p ∈ [songOf "a" 180], p.Typed :=
    List.forall_mem_singleton.mpr (typed_songOf _ _)
  have hlasts : ∀ p ∈ fourSongs, p.Lasts := fun p hp =>
    let ⟨n, hn⟩ := hkeys p hp
    Or.inr ⟨n, hn, Nat.cast_nonneg n⟩
  obtain ⟨finding, h', hlook, hfits⟩ := @evaluate_fits afterOne _ ⟨240000000, some 0⟩ fourSongs _
    rfl rfl hknown htyped hlasts rfl
  refine ⟨finding, h', hlook, ?_⟩
  have hkind : ((afterOne.evaluate fourSongs ⟨240000000, some 0⟩).result.toOption.map
      fun finding => (finding.kind, finding.place)) = some (.added, some .prepend) := by
    decide +kernel
  have hcount : (Growth.ofPlays? [songOf "a" 180] fourSongs).toOption = some (.prepend 3) := by
    decide +kernel
  have hstands : Number.Stands (Instant.seconds 240000000 + 10) 250 := by
    unfold Number.Stands
    decide +kernel
  rw [hlook] at hkind
  obtain ⟨hadded, hontop⟩ := Prod.mk.inj (Option.some.inj hkind)
  obtain ⟨count, marks, hgrowth, hfinds, -⟩ := hfits hadded hontop
  change Growth.ofPlays? [songOf "a" 180] fourSongs = _ at hgrowth
  rw [hgrowth] at hcount
  obtain rfl := Growth.prepend.inj (Option.some.inj hcount)
  have hmem : ∀ p ∈ fourSongs.take 3, p ∈ fourSongs := fun p => List.mem_of_mem_take
  have hseconds : ∀ p ∈ fourSongs, ∃ x, p.duration = .seconds x := by
    simp only [fourSongs, List.forall_mem_cons]
    exact ⟨⟨190, rfl⟩, ⟨200, rfl⟩, ⟨100, rfl⟩, ⟨180, rfl⟩, fun _ h => absurd h List.not_mem_nil⟩
  have hfitting : Fitting Play.length? 250 (fourSongs.take 3) marks := by
    refine hfinds.whole 250 hstands (by norm_num) (fun p hp => ?_) fun p hp q hq => ?_
    · obtain ⟨x, hx⟩ := hseconds p (hmem p hp)
      exact (hlasts p (hmem p hp)).isExact_of_seconds hx
    · obtain ⟨n, hn⟩ := hkeys p (hmem p hp)
      exact ⟨n, Option.some.inj (hq.symm.trans (Play.length?_of_key hn))⟩
  obtain rfl :=
    ((fitting_iff fun p hp c hc => (hlasts p (hmem p hp)).nonneg hc).mp hfitting).trans
    fitting_threeMarks
  exact hfinds.plays

end Looks

end History

end Listening
