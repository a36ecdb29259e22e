import Listening.Match
import Mathlib.Algebra.BigOperators.Group.List.Basic
import Mathlib.Data.List.TakeWhile
import Mathlib.Algebra.Ring.Nat

/-!
# The normal form of a credit

A credit is a row of artists with commas in between. What can be recognised
in its normal form? A normal form is the text from its first to its last solid
character – a word character that is no white space – with the white space
collapsed (`normalize_of_edged`). So what has no solid characters may stand before
or after a text without changing the normal form, as may a comma, and the
solid characters of a credit are those of its artists, all of them.

Hence a credit names the same artists as the row it was made of, if and only
if at most one artist of the row has a normal form at all
(`Match.sameMembers_creditOf_iff`): with none there is nothing to be recognised,
with one it is found again, and from two on they have become another artist.
-/

namespace Listening

namespace Text

/-! ## Trimming -/

section Trimming

variable {p : Char → Bool}

/-- Where a row goes on with what is not dropped, no more is dropped. -/
theorem dropWhile_append_cons {c : Char} (hc : p c = false) (before after : List Char) :
    (before ++ c :: after).dropWhile p = before.dropWhile p ++ c :: after := by
  rw [List.dropWhile_append]
  split
  · rename_i hempty
    rw [List.isEmpty_iff.mp hempty, List.dropWhile_cons_of_neg (by simp [hc]), List.nil_append]
  · rfl

/-- **Whether a row begins and ends with what is not trimmed.** -/
def IsEdged (p : Char → Bool) (cs : List Char) : Prop :=
  (∃ c rest, cs = c :: rest ∧ p c = false) ∧ ∃ init c, cs = init ++ [c] ∧ p c = false

/-- What is around such a row is trimmed for itself. -/
theorem trimBoth_around {cs : List Char} (h : IsEdged p cs) (before after : List Char) :
    trimBoth p (before ++ cs ++ after)
      = before.dropWhile p ++ cs ++ (after.reverse.dropWhile p).reverse := by
  obtain ⟨⟨c, rest, hfirst, hc⟩, init, d, hlast, hd⟩ := h
  have hfront : (before ++ cs ++ after).dropWhile p = before.dropWhile p ++ cs ++ after := by
    rw [hfirst, List.append_assoc, List.cons_append, dropWhile_append_cons hc, List.append_assoc,
      List.cons_append]
  have hback : (before.dropWhile p ++ cs ++ after).reverse
      = after.reverse ++ d :: (init.reverse ++ (before.dropWhile p).reverse) := by
    rw [hlast]
    simp only [List.reverse_append, List.append_assoc, List.reverse_cons, List.nil_append,
      List.cons_append]
  unfold trimBoth
  rw [hfront, hback, dropWhile_append_cons hd, List.reverse_append, hlast]
  simp only [List.reverse_cons, List.reverse_append, List.reverse_reverse, List.append_assoc,
    List.cons_append, List.nil_append]

/-- All of a row may be trimmed. -/
theorem trimBoth_of_forall {cs : List Char} (h : ∀ c ∈ cs, p c = true) : trimBoth p cs = [] := by
  unfold trimBoth
  rw [List.dropWhile_eq_nil_iff.mpr h]
  rfl

/-- Nothing of a row is left where only what is trimmed is around it. -/
theorem trimBoth_of_edged {before cs after : List Char} (h : IsEdged p cs)
    (hbefore : ∀ c ∈ before, p c = true) (hafter : ∀ c ∈ after, p c = true) :
    trimBoth p (before ++ cs ++ after) = cs := by
  rw [trimBoth_around h, List.dropWhile_eq_nil_iff.mpr hbefore, List.dropWhile_eq_nil_iff.mpr
    fun c hc => hafter c (List.mem_reverse.mp hc)]
  simp

/-- The first item that is not dropped. -/
theorem exists_first {cs : List Char} (h : ∃ c ∈ cs, p c = false) :
    ∃ before c after, cs = before ++ c :: after ∧ (∀ x ∈ before, p x = true) ∧ p c = false := by
  induction cs with
  | nil =>
    obtain ⟨c, hc, -⟩ := h
    exact absurd hc List.not_mem_nil
  | cons d rest ih =>
    cases hd : p d with
    | false => exact ⟨[], d, rest, rfl, fun _ h => absurd h List.not_mem_nil, hd⟩
    | true =>
      obtain ⟨c, hc, hpc⟩ := h
      rcases List.mem_cons.mp hc with rfl | hc
      · exact absurd (hd.symm.trans hpc) (by decide)
      · obtain ⟨before, e, after, rfl, hbefore, he⟩ := ih ⟨c, hc, hpc⟩
        exact ⟨d :: before, e, after, rfl, List.forall_mem_cons.mpr ⟨hd, hbefore⟩, he⟩

/-- **A row has a core**, unless all of it may be trimmed. -/
theorem exists_core (p : Char → Bool) (cs : List Char) :
    (∀ c ∈ cs, p c = true) ∨ ∃ before core after, cs = before ++ core ++ after ∧ IsEdged p core
      ∧ (∀ c ∈ before, p c = true) ∧ ∀ c ∈ after, p c = true := by
  by_cases hall : ∀ c ∈ cs, p c = true
  · exact Or.inl hall
  simp only [not_forall, Bool.not_eq_true] at hall
  obtain ⟨c, hc, hpc⟩ := hall
  obtain ⟨before, first, rest, rfl, hbefore, hfirst⟩ := exists_first ⟨c, hc, hpc⟩
  obtain ⟨after, last, init, hrest, hafter, hlast⟩ :=
    exists_first ⟨first, List.mem_reverse.mpr (List.mem_cons_self (l := rest)), hfirst⟩
  have hcore : first :: rest = init.reverse ++ [last] ++ after.reverse := by
    rw [← List.reverse_reverse (first :: rest), hrest]
    simp only [List.reverse_append, List.reverse_cons, List.append_assoc]
  refine Or.inr ⟨before, init.reverse ++ [last], after.reverse, ?_, ⟨?_, init.reverse, last, rfl,
    hlast⟩, hbefore, fun x hx => hafter x (List.mem_reverse.mp hx)⟩
  · rw [List.append_assoc, ← hcore]
  · cases hinit : init.reverse ++ [last] with
    | nil => exact absurd (List.append_eq_nil_iff.mp hinit).2 (List.cons_ne_nil _ _)
    | cons x xs =>
      rw [hinit] at hcore
      exact ⟨x, xs, rfl, (List.cons.inj hcore).1 ▸ hfirst⟩

end Trimming

/-! ## White space -/

/-- What is no white space stays. -/
theorem collapseBlanks_cons {c : Char} (hc : isBlank c = false) (cs : List Char) :
    collapseBlanks (c :: cs) = c :: collapseBlanks cs := by
  rw [collapseBlanks, if_neg (by simp [hc])]

/-- A row with one space in front. -/
def spaced : List Char → List Char
  | ' ' :: more => ' ' :: more
  | more => ' ' :: more

theorem spaced_of_ne {c : Char} (h : c ≠ ' ') (cs : List Char) :
    spaced (c :: cs) = ' ' :: c :: cs := by
  unfold spaced
  split
  · rename_i heq
    exact absurd (List.cons.inj heq).1 h
  · rfl

/-- What is in front is a space. -/
theorem spaced_eq (cs : List Char) :
    ∃ more, spaced cs = ' ' :: more ∧ (cs = ' ' :: more ∨ cs = more) := by
  cases cs with
  | nil => exact ⟨[], rfl, Or.inr rfl⟩
  | cons c cs =>
    by_cases hc : c = ' '
    · subst hc
      exact ⟨cs, rfl, Or.inl rfl⟩
    · exact ⟨c :: cs, spaced_of_ne hc cs, Or.inr rfl⟩

theorem spaced_append {c : Char} (hc : c ≠ ' ') (before after : List Char) :
    spaced (before ++ c :: after) = spaced before ++ c :: after := by
  cases before with
  | nil => exact spaced_of_ne hc after
  | cons d before =>
    by_cases hd : d = ' '
    · subst hd
      rfl
    · rw [List.cons_append, spaced_of_ne hd, spaced_of_ne hd]
      rfl

/-- White space becomes one space, together with the white space after it. -/
theorem collapseBlanks_cons_of_isBlank {c : Char} (hc : isBlank c = true) (cs : List Char) :
    collapseBlanks (c :: cs) = spaced (collapseBlanks cs) := by
  rw [collapseBlanks, if_pos hc]
  rfl

/-- White space is collapsed on both sides of what is none. -/
theorem collapseBlanks_append_cons {c : Char} (hc : isBlank c = false)
    (before after : List Char) :
    collapseBlanks (before ++ c :: after) = collapseBlanks before
      ++ c :: collapseBlanks after := by
  have hspace : c ≠ ' ' := fun e => by
    rw [e] at hc
    exact absurd hc (by decide)
  induction before with
  | nil => exact collapseBlanks_cons hc after
  | cons d before ih =>
    cases hd : isBlank d with
    | false =>
      rw [List.cons_append, collapseBlanks_cons hd, collapseBlanks_cons hd, ih, List.cons_append]
    | true =>
      rw [List.cons_append, collapseBlanks_cons_of_isBlank hd, collapseBlanks_cons_of_isBlank hd,
        ih, spaced_append hspace]

/-- What is left is a space, or it is what it was and no white space. -/
theorem mem_collapseBlanks {c : Char} {cs : List Char} (h : c ∈ collapseBlanks cs) :
    c = ' ' ∨ c ∈ cs ∧ isBlank c = false := by
  induction cs with
  | nil => exact absurd h List.not_mem_nil
  | cons d cs ih =>
    have hrest : c ∈ collapseBlanks cs → c = ' ' ∨ c ∈ d :: cs ∧ isBlank c = false := fun hc =>
      (ih hc).imp_right fun ⟨hmem, hblank⟩ => ⟨List.mem_cons_of_mem d hmem, hblank⟩
    cases hd : isBlank d with
    | false =>
      rw [collapseBlanks_cons hd] at h
      rcases List.mem_cons.mp h with rfl | hc
      · exact Or.inr ⟨List.mem_cons_self, hd⟩
      · exact hrest hc
    | true =>
      rw [collapseBlanks_cons_of_isBlank hd] at h
      obtain ⟨more, hmore, hcs⟩ := spaced_eq (collapseBlanks cs)
      rw [hmore] at h
      rcases List.mem_cons.mp h with rfl | hc
      · exact Or.inl rfl
      · rcases hcs with hcs | hcs
        · exact hrest (hcs ▸ List.mem_cons_of_mem ' ' hc)
        · exact hrest (hcs ▸ hc)

/-! ## Solid characters -/

/-- **Whether a character is solid**: a word character that is no white
space. -/
def isSolid (c : Char) : Bool := isWord c && !isBlank c

/-- Whether it is not. -/
def isLoose (c : Char) : Bool := !isSolid c

theorem not_isBlank_of_isSolid {c : Char} (h : isSolid c = true) : isBlank c = false := by
  unfold isSolid at h
  simpa using (Bool.and_eq_true_iff.mp h).2

theorem isWord_of_isSolid {c : Char} (h : isSolid c = true) : isWord c = true :=
  (Bool.and_eq_true_iff.mp h).1

theorem isLoose_eq_false_iff {c : Char} : isLoose c = false ↔ isSolid c = true := by
  unfold isLoose
  simp

/-- What is loose and left after white space is collapsed is no word
character. -/
theorem not_isWord_of_mem_collapseBlanks {cs : List Char} (hcs : ∀ c ∈ cs, isLoose c = true)
    {c : Char} (h : c ∈ collapseBlanks cs) : isWord c = false := by
  rcases mem_collapseBlanks h with rfl | ⟨hmem, hblank⟩
  · decide
  · have hloose := hcs c hmem
    unfold isLoose isSolid at hloose
    simpa [hblank] using hloose

/-- A row whose ends are solid has solid ends when its white space is
collapsed. -/
theorem isEdged_collapseBlanks {cs : List Char} (h : IsEdged isLoose cs) {p : Char → Bool}
    (hp : ∀ c, isSolid c = true → p c = false) : IsEdged p (collapseBlanks cs) := by
  obtain ⟨⟨c, rest, hfirst, hc⟩, init, d, hlast, hd⟩ := h
  rw [isLoose_eq_false_iff] at hc hd
  refine ⟨⟨c, collapseBlanks rest, ?_, hp c hc⟩, collapseBlanks init, d, ?_, hp d hd⟩
  · rw [hfirst, collapseBlanks_cons (not_isBlank_of_isSolid hc)]
  · rw [hlast, collapseBlanks_append_cons (not_isBlank_of_isSolid hd)]
    rfl

/-- White space around such a row is collapsed for itself. -/
theorem collapseBlanks_around {cs : List Char} (h : IsEdged isLoose cs)
    (before after : List Char) :
    collapseBlanks (before ++ cs ++ after)
      = collapseBlanks before ++ collapseBlanks cs ++ collapseBlanks after := by
  obtain ⟨⟨c, rest, hfirst, hc⟩, init, d, hlast, hd⟩ := h
  rw [isLoose_eq_false_iff] at hc hd
  have hback : collapseBlanks (cs ++ after) = collapseBlanks cs ++ collapseBlanks after := by
    rw [hlast, List.append_assoc, List.singleton_append,
      collapseBlanks_append_cons (not_isBlank_of_isSolid hd),
      collapseBlanks_append_cons (not_isBlank_of_isSolid hd), List.append_assoc]
    rfl
  have hfront : collapseBlanks (before ++ (cs ++ after))
      = collapseBlanks before ++ collapseBlanks (cs ++ after) := by
    rw [hfirst, List.cons_append, collapseBlanks_append_cons (not_isBlank_of_isSolid hc),
      collapseBlanks_cons (not_isBlank_of_isSolid hc)]
  rw [List.append_assoc, hfront, hback, List.append_assoc]

/-! ## Normal forms -/

/-- The letters of a text. -/
def letters (s : String) : List Char := plainLetters s.toList

/-- The letters of two texts one after the other. -/
theorem letters_append (s t : String) : letters (s ++ t) = letters s ++ letters t := by
  unfold letters plainLetters
  rw [String.toList_append, List.flatMap_append, List.filter_append, List.flatMap_append]

/-- **A normal form goes from the first solid character to the last one.** -/
theorem normalize_of_edged {s : String} {before core after : List Char}
    (hs : letters s = before ++ core ++ after) (hcore : IsEdged isLoose core)
    (hbefore : ∀ c ∈ before, isLoose c = true) (hafter : ∀ c ∈ after, isLoose c = true) :
    normalize s = .ofList (collapseBlanks core) := by
  have hword : ∀ {cs : List Char}, (∀ c ∈ cs, isLoose c = true) →
      ∀ c ∈ collapseBlanks cs, (fun c => !isWord c) c = true := fun hcs c hc => by
    have hnot := not_isWord_of_mem_collapseBlanks hcs hc
    simp [hnot]
  unfold normalize
  rw [show plainLetters s.toList = letters s from rfl, hs, collapseBlanks_around hcore,
    trimBoth_around (isEdged_collapseBlanks hcore fun c => not_isBlank_of_isSolid)]
  refine congrArg String.ofList (trimBoth_of_edged
    (isEdged_collapseBlanks hcore fun c hc => ?_) (fun c hc => ?_) fun c hc => ?_)
  · simp [isWord_of_isSolid hc]
  · exact hword hbefore c ((List.dropWhile_sublist _).subset hc)
  · exact hword hafter c (List.mem_reverse.mp
      ((List.dropWhile_sublist _).subset (List.mem_reverse.mp hc)))

/-- **What has no solid character has an empty normal form.** -/
theorem normalize_of_loose {s : String} (h : ∀ c ∈ letters s, isLoose c = true) :
    normalize s = "" := by
  have hword : ∀ c ∈ trimBoth isBlank (collapseBlanks (letters s)), (!isWord c) = true := by
    intro c hc
    unfold trimBoth at hc
    have hmem := (List.dropWhile_sublist _).subset (List.mem_reverse.mp
      ((List.dropWhile_sublist _).subset (List.mem_reverse.mp hc)))
    have hnot := not_isWord_of_mem_collapseBlanks h hmem
    simp [hnot]
  unfold normalize
  exact congrArg String.ofList (trimBoth_of_forall hword)

/-! ## Counting solid characters -/

/-- How many solid characters there are. -/
def solids (cs : List Char) : Nat := cs.countP isSolid

theorem solids_append (cs ds : List Char) : solids (cs ++ ds) = solids cs + solids ds :=
  List.countP_append ..

theorem solids_eq_zero_iff {cs : List Char} : solids cs = 0 ↔ ∀ c ∈ cs, isLoose c = true := by
  unfold solids isLoose
  rw [List.countP_eq_zero]
  simp

/-- White space is not solid. -/
theorem solids_collapseBlanks (cs : List Char) : solids (collapseBlanks cs) = solids cs := by
  induction cs with
  | nil => rfl
  | cons c cs ih =>
    cases hc : isBlank c with
    | false =>
      rw [collapseBlanks_cons hc]
      unfold solids at ih ⊢
      rw [List.countP_cons, List.countP_cons, ih]
    | true =>
      have hloose : isSolid c = false := by simp [isSolid, hc]
      have hspace : isSolid ' ' = false := by decide
      obtain ⟨more, hmore, hcs⟩ := spaced_eq (collapseBlanks cs)
      rw [collapseBlanks_cons_of_isBlank hc, hmore]
      unfold solids at ih ⊢
      rw [List.countP_cons_of_neg (by simp [hspace]), List.countP_cons_of_neg (by simp [hloose]),
        ← ih]
      rcases hcs with hcs | hcs <;> rw [hcs]
      rw [List.countP_cons_of_neg (by simp [hspace])]

/-- **A normal form has all solid characters of the text.** -/
theorem solids_normalize (s : String) : solids (normalize s).toList = solids (letters s) := by
  rcases exists_core isLoose (letters s) with
    hall | ⟨before, core, after, hs, hcore, hbefore, hafter⟩
  · rw [normalize_of_loose hall, solids_eq_zero_iff.mpr hall]
    rfl
  · rw [normalize_of_edged hs hcore hbefore hafter, String.toList_ofList, solids_collapseBlanks,
      hs, solids_append, solids_append, solids_eq_zero_iff.mpr hbefore,
      solids_eq_zero_iff.mpr hafter]
    omega

/-- **A normal form is empty if there are none.** -/
theorem normalize_eq_empty_iff (s : String) : normalize s = "" ↔ solids (letters s) = 0 := by
  constructor
  · intro h
    rw [← solids_normalize, h]
    rfl
  · intro h
    exact normalize_of_loose (solids_eq_zero_iff.mp h)

/-- **What has no solid character may stand around a text.** -/
theorem normalize_around {s t u : String} (hs : solids (letters s) = 0)
    (hu : solids (letters u) = 0) : normalize (s ++ t ++ u) = normalize t := by
  rcases exists_core isLoose (letters t) with
    hall | ⟨before, core, after, ht, hcore, hbefore, hafter⟩
  · rw [normalize_of_loose hall, normalize_eq_empty_iff]
    rw [letters_append, letters_append, solids_append, solids_append, hs, hu,
      solids_eq_zero_iff.mpr hall]
  · have hwhole :
        letters (s ++ t ++ u) = (letters s ++ before) ++ core ++ (after ++ letters u) := by
      rw [letters_append, letters_append, ht]
      simp only [List.append_assoc]
    rw [normalize_of_edged ht hcore hbefore hafter, normalize_of_edged hwhole hcore]
    · exact fun c hc => (List.mem_append.mp hc).elim (solids_eq_zero_iff.mp hs c) (hbefore c)
    · exact fun c hc => (List.mem_append.mp hc).elim (hafter c) (solids_eq_zero_iff.mp hu c)

/-! ## Credits -/

/-- The artists of a row that have a normal form, in normal form. -/
def namesOf (artists : List String) : List String :=
  (artists.map normalize).filter (!·.isEmpty)

/-- The artists of a row as one credit. -/
def creditOf (artists : List String) : String := ", ".intercalate artists

theorem solids_comma : solids (letters ", ") = 0 := by decide

/-- **The solid characters of a credit are those of its artists.** -/
theorem solids_creditOf (artists : List String) :
    solids (letters (creditOf artists)) = (artists.map fun s => solids (letters s)).sum := by
  unfold creditOf
  induction artists with
  | nil => rfl
  | cons first rest ih =>
    cases rest with
    | nil => simp
    | cons second rest =>
      rw [String.intercalate_cons_cons, letters_append, letters_append, solids_append,
        solids_append, ih, solids_comma]
      rfl

theorem namesOf_cons (first : String) (rest : List String) :
    namesOf (first :: rest)
      = if normalize first = "" then namesOf rest else normalize first :: namesOf rest := by
  unfold namesOf
  by_cases h : normalize first = "" <;> simp [h]

/-- A name is not empty, and is a normal form. -/
theorem mem_namesOf {name : String} {artists : List String} :
    name ∈ namesOf artists ↔ name ≠ "" ∧ ∃ artist ∈ artists, normalize artist = name := by
  unfold namesOf
  simp [and_comm]

/-- The solid characters of a row of artists are those of its names. -/
theorem sum_solids_namesOf (artists : List String) :
    ((namesOf artists).map fun name => solids name.toList).sum
      = (artists.map fun s => solids (letters s)).sum := by
  induction artists with
  | nil => rfl
  | cons first rest ih =>
    rw [namesOf_cons, List.map_cons, List.sum_cons]
    by_cases h : normalize first = ""
    · rw [if_pos h, ih, (normalize_eq_empty_iff first).mp h, Nat.zero_add]
    · rw [if_neg h, List.map_cons, List.sum_cons, ih, solids_normalize]

/-- **A credit with at most one name names it.** -/
theorem namesOf_creditOf {artists : List String} (h : (namesOf artists).length ≤ 1) :
    namesOf [creditOf artists] = namesOf artists := by
  induction artists with
  | nil => decide
  | cons first rest ih =>
    cases rest with
    | nil => rfl
    | cons second rest =>
      have hcredit : creditOf (first :: second :: rest)
          = first ++ ", " ++ creditOf (second :: rest) := String.intercalate_cons_cons
      rw [namesOf_cons] at h ⊢
      rw [hcredit, namesOf_cons first]
      by_cases hfirst : normalize first = ""
      · rw [if_pos hfirst] at h
        have hfront : solids (letters (first ++ ", ")) = 0 := by
          rw [letters_append, solids_append,
            (normalize_eq_empty_iff first).mp hfirst, solids_comma]
        have hrest : normalize (first ++ ", " ++ creditOf (second :: rest))
            = normalize (creditOf (second :: rest)) := by
          have haround := normalize_around (t := creditOf (second :: rest)) hfront
            (show solids (letters "") = 0 from rfl)
          rwa [String.append_empty] at haround
        rw [if_pos hfirst, hrest, ← namesOf_cons]
        exact ih h
      · rw [if_neg hfirst, List.length_cons] at h
        have hnone : namesOf (second :: rest) = [] := List.length_eq_zero_iff.mp (by omega)
        have hback : solids (letters (", " ++ creditOf (second :: rest))) = 0 := by
          rw [letters_append, solids_append, solids_comma, solids_creditOf, ← sum_solids_namesOf,
            hnone]
          rfl
        have hone :
            normalize (first ++ ", " ++ creditOf (second :: rest)) = normalize first := by
          have haround :=
            normalize_around (t := first) (show solids (letters "") = 0 from rfl) hback
          rwa [String.empty_append, ← String.append_assoc] at haround
        rw [hone, if_neg hfirst, if_neg hfirst, hnone]
        rfl

end Text

/-- **A credit names the same artists as its row** if and only if the row has
at most one name. -/
theorem Match.sameMembers_creditOf_iff (artists : List String) :
    Match.sameMembers (Text.namesOf [Text.creditOf artists]) (Text.namesOf artists) = true
      ↔ (Text.namesOf artists).length ≤ 1 := by
  constructor
  · intro h
    -- every name is the one of the credit, which has the solid characters of all of them
    have hmember : ∀ name ∈ Text.namesOf artists,
        name = Text.normalize (Text.creditOf artists) := by
      intro name hname
      have hin := List.all_eq_true.mp (Bool.and_eq_true_iff.mp h).2 name hname
      obtain ⟨-, artist, hartist, rfl⟩ := Text.mem_namesOf.mp (List.elem_iff.mp hin)
      rw [List.mem_singleton.mp hartist]
    have hsum := Text.sum_solids_namesOf artists
    rw [List.eq_replicate_of_mem hmember, List.map_replicate, List.sum_replicate,
      Text.solids_normalize, ← Text.solids_creditOf] at hsum
    rcases Nat.eq_zero_or_pos
      (Text.solids (Text.letters (Text.creditOf artists))) with hzero | hpos
    · rw [(Text.normalize_eq_empty_iff _).mpr hzero] at hmember
      cases hnames : Text.namesOf artists with
      | nil => exact Nat.zero_le 1
      | cons name rest =>
        have hname : name ∈ Text.namesOf artists := hnames ▸ List.mem_cons_self
        exact absurd (hmember name hname) (Text.mem_namesOf.mp hname).1
    · exact Nat.le_of_eq (Nat.eq_of_mul_eq_mul_right hpos (hsum.trans (Nat.one_mul _).symm))
  · intro h
    rw [Text.namesOf_creditOf h]
    exact Match.sameMembers_self _

end Listening
