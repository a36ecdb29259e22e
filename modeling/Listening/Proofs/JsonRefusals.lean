import Listening.Json.Reader
import Mathlib.Data.List.Infix

/-!
# What a text is refused for

A text that is no JSON is malformed. Two refusals are of another kind, and meet
JSON texts as well: a whole number has too many digits, or too many lists and
objects are inside one another. `Json.ofText_of_moderate` says that they meet no
text in which no run of digits is too long and not that many brackets are opened
(`Json.IsModerate`).

The reader goes through a text from the front, and what it has not read yet is
the end of it (`Json.Goes`). So the runs of digits ahead are runs of the text,
and every list that it is inside of has used up one of the brackets.
-/

namespace Listening.Json

/-! ## Going through a text -/

/-- **Whether a reader goes through a text**: it comes to a rest of it, or to
what is no JSON. -/
def Goes {α : Type} (cs : List Char) (reading : Except Refusal (α × List Char)) : Prop :=
  reading = .error .malformed ∨ ∃ a rest, reading = .ok (a, rest) ∧ rest <:+ cs

section Goes

variable {α β : Type} {cs cs' : List Char}

theorem Goes.malformed :
    Goes cs (.error .malformed : Except Refusal (α × List Char)) := Or.inl rfl

theorem Goes.ok (a : α) {rest : List Char} (h : rest <:+ cs) : Goes cs (.ok (a, rest)) :=
  Or.inr ⟨a, rest, rfl, h⟩

/-- Going through the end of a text is going through the text. -/
theorem Goes.of_suffix {reading : Except Refusal (α × List Char)} (h : Goes cs' reading)
    (hcs : cs' <:+ cs) : Goes cs reading :=
  h.imp_right fun ⟨a, rest, hreading, hrest⟩ => ⟨a, rest, hreading, hrest.trans hcs⟩

/-- **One reader after another** goes through what the first one has left. -/
theorem Goes.bind {reading : Except Refusal (α × List Char)}
    {next : α × List Char → Except Refusal (β × List Char)} (h : Goes cs reading)
    (hnext : ∀ a rest, rest <:+ cs → Goes rest (next (a, rest))) :
    Goes cs (reading >>= next) := by
  rcases h with rfl | ⟨a, rest, rfl, hrest⟩
  · exact Goes.malformed
  · exact (hnext a rest hrest).of_suffix hrest

theorem skip_suffix (cs : List Char) : skip cs <:+ cs := List.dropWhile_suffix _

theorem suffix_of_skip_eq_cons {c : Char} {more : List Char} (h : skip cs = c :: more) :
    more <:+ cs :=
  (h ▸ List.suffix_cons c more).trans (skip_suffix cs)

end Goes

/-! ## Texts -/

theorem suffix_of_takeHex4 {cs rest : List Char} {n : Nat} (h : takeHex4 cs = some (n, rest)) :
    rest <:+ cs := by
  unfold takeHex4 at h
  split at h
  · simp only [Option.bind_eq_bind, Option.bind_eq_some_iff] at h
    obtain ⟨a, -, b, -, c, -, d, -, h⟩ := h
    obtain ⟨-, rfl⟩ := Prod.mk.inj (Option.some.inj h)
    exact List.suffix_append [_, _, _, _] _
  · exact nomatch h

theorem suffix_of_takeNumbered {cs rest : List Char} {c : Char}
    (h : takeNumbered cs = some (c, rest)) : rest <:+ cs := by
  unfold takeNumbered at h
  simp only [Option.bind_eq_bind, Option.bind_eq_some_iff] at h
  obtain ⟨⟨high, more⟩, hhex, h⟩ := h
  have hmore := suffix_of_takeHex4 hhex
  dsimp only at h
  have hpast (after : List Char) : after <:+ '\\' :: 'u' :: after :=
    List.suffix_append ['\\', 'u'] after
  -- a first half of a pair may be followed by the second half, and by anything else
  split at h
  · split at h
    · split at h
      · rename_i hlow
        split at h
        · obtain ⟨-, rfl⟩ := Prod.mk.inj (Option.some.inj h)
          exact ((suffix_of_takeHex4 hlow).trans (hpast _)).trans hmore
        · obtain ⟨-, rfl⟩ := Prod.mk.inj (Option.some.inj h)
          exact hmore
      · obtain ⟨-, rfl⟩ := Prod.mk.inj (Option.some.inj h)
        exact hmore
    · obtain ⟨-, rfl⟩ := Prod.mk.inj (Option.some.inj h)
      exact hmore
  · split at h <;> (obtain ⟨-, rfl⟩ := Prod.mk.inj (Option.some.inj h); exact hmore)

theorem suffix_of_takeEscape {cs rest : List Char} {c : Char}
    (h : takeEscape cs = some (c, rest)) : rest <:+ cs := by
  unfold takeEscape at h
  split at h
  case h_9 => exact (suffix_of_takeNumbered h).trans (List.suffix_cons _ _)
  case h_10 => exact nomatch h
  all_goals
    obtain ⟨-, rfl⟩ := Prod.mk.inj (Option.some.inj h)
    exact List.suffix_cons _ _

/-- A reader goes through a text in quotes. -/
theorem goes_takeString (fuel : Nat) (cs found : List Char) :
    Goes cs (takeString fuel cs found) := by
  induction fuel generalizing cs found with
  | zero => exact Goes.malformed
  | succ fuel ih =>
    unfold takeString
    split
    · exact Goes.malformed
    · exact Goes.ok _ (List.suffix_cons _ _)
    · split
      · rename_i hescape
        exact (ih _ _).of_suffix ((suffix_of_takeEscape hescape).trans (List.suffix_cons _ _))
      · exact Goes.malformed
    · split
      · exact Goes.malformed
      · exact (ih _ _).of_suffix (List.suffix_cons _ _)

/-! ## Numbers -/

/-- **Whether no run of digits is too long** to be read as a whole number. -/
def HasShortRuns (cs : List Char) : Prop :=
  ∀ digits, digits <:+: cs → (∀ c ∈ digits, c.isDigit = true) → digits.length ≤ Number.digitLimit

theorem HasShortRuns.of_suffix {cs rest : List Char} (h : HasShortRuns cs)
    (hrest : rest <:+ cs) :
    HasShortRuns rest :=
  fun digits hdigits => h digits (hdigits.trans hrest.isInfix)

/-- A whole number is a run of digits at the front. -/
theorem append_of_takeWhole {cs whole rest : List Char} (h : takeWhole cs = some (whole, rest)) :
    cs = whole ++ rest ∧ ∀ c ∈ whole, c.isDigit = true := by
  unfold takeWhole at h
  split at h
  · obtain ⟨rfl, rfl⟩ := Prod.mk.inj (Option.some.inj h)
    exact ⟨rfl, List.forall_mem_singleton.mpr rfl⟩
  · split at h
    · exact nomatch h
    · obtain ⟨rfl, rfl⟩ := Prod.mk.inj (Option.some.inj h)
      exact ⟨(List.takeWhile_append_dropWhile).symm, List.all_eq_true.mp List.all_takeWhile⟩

theorem suffix_takeDecimals (cs : List Char) : (takeDecimals cs).2 <:+ cs := by
  unfold takeDecimals
  split
  · split
    · exact List.suffix_refl _
    · exact (List.dropWhile_suffix _).trans (List.suffix_cons _ _)
  · exact List.suffix_refl _

theorem suffix_takeSign (cs : List Char) : (Number.takeSign cs).2 <:+ cs := by
  unfold Number.takeSign
  split
  · exact List.suffix_cons _ _
  · exact List.suffix_cons _ _
  · exact List.suffix_refl _

theorem suffix_takeExponent (cs : List Char) : (takeExponent cs).2 <:+ cs := by
  unfold takeExponent
  split
  · split
    · dsimp only
      split
      · exact List.suffix_refl _
      · exact ((List.dropWhile_suffix _).trans (suffix_takeSign _)).trans (List.suffix_cons _ _)
    · exact List.suffix_refl _
  · exact List.suffix_refl _

/-- **A reader goes through a number**, unless its digits are too many. -/
theorem goes_takeNumber {cs : List Char} (h : HasShortRuns cs) (negative : Bool) :
    Goes cs (takeNumber negative cs) := by
  unfold takeNumber
  split
  · exact Goes.malformed
  · rename_i whole rest hwhole
    obtain ⟨rfl, hdigits⟩ := append_of_takeWhole hwhole
    have hrest : (takeExponent (takeDecimals rest).2).2 <:+ whole ++ rest :=
      ((suffix_takeExponent _).trans (suffix_takeDecimals _)).trans (List.suffix_append _ _)
    dsimp only
    split
    · have hshort : ¬ Number.digitLimit < whole.length :=
        Nat.not_lt.mpr (h whole (List.prefix_append _ _).isInfix hdigits)
      rw [if_neg hshort]
      exact Goes.ok _ hrest
    · exact Goes.ok _ hrest

/-! ## Words -/

theorem suffix_of_after? {word cs rest : List Char} (h : after? word cs = some rest) :
    rest <:+ cs := by
  induction word generalizing cs with
  | nil =>
    obtain rfl := Option.some.inj h
    exact List.suffix_refl _
  | cons w word ih =>
    cases cs with
    | nil => exact nomatch h
    | cons c cs =>
      rw [after?] at h
      split at h
      · exact (ih h).trans (List.suffix_cons _ _)
      · exact nomatch h

theorem suffix_of_takeWord {cs rest : List Char} {v : Json} (h : takeWord cs = some (v, rest)) :
    rest <:+ cs := by
  have hword {word : List Char} {w : Json}
      (hw : (after? word cs).map (fun rest => (w, rest)) = some (v, rest)) : rest <:+ cs := by
    obtain ⟨rest', hrest', hpair⟩ := Option.map_eq_some_iff.mp hw
    obtain ⟨-, rfl⟩ := Prod.mk.inj hpair
    exact suffix_of_after? hrest'
  unfold takeWord at h
  simp only [Option.orElse_eq_orElse, Option.orElse_eq_or, Option.or_eq_some_iff] at h
  rcases h with h | ⟨-, h | ⟨-, h | ⟨-, h | ⟨-, h | ⟨-, h⟩⟩⟩⟩⟩ <;> exact hword h

/-! ## Values -/

/-- How many lists and objects a row of characters could open. -/
def openings (cs : List Char) : Nat := cs.countP fun c => c = '[' ∨ c = '\x7b'

theorem openings_le_of_suffix {cs rest : List Char} (h : rest <:+ cs) :
    openings rest ≤ openings cs :=
  h.sublist.countP_le

/-- **Whether a row of characters inside of so many lists can be read** as far
as its numbers and its brackets go. -/
structure IsModerate (depth : Nat) (cs : List Char) : Prop where
  /-- No run of digits is too long. -/
  runs : HasShortRuns cs
  /-- Even if every bracket opened a list, they were not too deep. -/
  depth : depth + openings cs ≤ depthLimit

section IsModerate

variable {depth : Nat} {cs rest : List Char}

theorem IsModerate.of_suffix (h : IsModerate depth cs) (hrest : rest <:+ cs) :
    IsModerate depth rest where
  runs := h.runs.of_suffix hrest
  depth := (Nat.add_le_add_left (openings_le_of_suffix hrest) depth).trans h.depth

/-- A bracket can be opened, and what follows can be read inside of it. -/
theorem IsModerate.opened {c : Char} (h : IsModerate depth (c :: cs))
    (hc : c = '[' ∨ c = '\x7b') :
    depth < depthLimit ∧ IsModerate (depth + 1) cs := by
  have hdepth := h.depth
  have hcount : openings (c :: cs) = openings cs + 1 :=
    List.countP_cons_of_pos (decide_eq_true hc)
  rw [hcount] at hdepth
  exact ⟨by omega, h.runs.of_suffix (List.suffix_cons _ _), by omega⟩

end IsModerate

section Values

variable {fuel : Nat}
  (hvalue : ∀ depth cs, IsModerate depth cs → Goes cs (takeValue depth fuel cs))
  (hitems : ∀ depth cs found, IsModerate depth cs → Goes cs (takeItems depth fuel cs found))
  (hfields : ∀ depth cs found, IsModerate depth cs → Goes cs (takeFields depth fuel cs found))

include hitems hfields in
/-- A reader goes through a value if it goes through the parts of one. -/
theorem goes_takeValue_succ {depth : Nat} {cs : List Char} (h : IsModerate depth cs) :
    Goes cs (takeValue depth (fuel + 1) cs) := by
  unfold takeValue
  split
  · exact Goes.ok _ (suffix_of_takeWord ‹_›)
  · split
    · refine Goes.of_suffix (.bind (goes_takeString _ _ _) fun s more _ => ?_)
        (List.suffix_cons _ _)
      exact Goes.ok _ (List.suffix_refl _)
    · obtain ⟨hdepth, hrest⟩ := h.opened (Or.inl rfl)
      rw [if_neg (Nat.not_le.mpr hdepth)]
      refine Goes.of_suffix ?_ (List.suffix_cons _ _)
      split
      · exact Goes.ok _ (suffix_of_skip_eq_cons ‹_›)
      · exact (hitems _ _ _ (hrest.of_suffix (skip_suffix _))).of_suffix (skip_suffix _)
    · obtain ⟨hdepth, hrest⟩ := h.opened (Or.inr rfl)
      rw [if_neg (Nat.not_le.mpr hdepth)]
      refine Goes.of_suffix ?_ (List.suffix_cons _ _)
      split
      · exact Goes.ok _ (suffix_of_skip_eq_cons ‹_›)
      · exact (hfields _ _ _ (hrest.of_suffix (skip_suffix _))).of_suffix (skip_suffix _)
    · exact (goes_takeNumber (h.runs.of_suffix (List.suffix_cons _ _)) true).of_suffix
        (List.suffix_cons _ _)
    · exact goes_takeNumber h.runs false

include hvalue hitems in
/-- Through the items of a list the reader goes one by one. -/
theorem goes_takeItems_succ {depth : Nat} {cs : List Char} (h : IsModerate depth cs)
    (found : List Json) : Goes cs (takeItems depth (fuel + 1) cs found) := by
  unfold takeItems
  refine (hvalue depth cs h).bind fun v rest hrest => ?_
  dsimp only
  split
  · rename_i more hskip
    have hmore := (skip_suffix more).trans (suffix_of_skip_eq_cons hskip)
    exact (hitems _ _ _ (h.of_suffix (hmore.trans hrest))).of_suffix hmore
  · exact Goes.ok _ (suffix_of_skip_eq_cons ‹_›)
  · exact Goes.malformed

include hvalue hfields in
/-- Through the fields of an object the reader goes one by one. -/
theorem goes_takeFields_succ {depth : Nat} {cs : List Char} (h : IsModerate depth cs)
    (found : List (String × Json)) : Goes cs (takeFields depth (fuel + 1) cs found) := by
  unfold takeFields
  split
  · refine Goes.of_suffix (.bind (goes_takeString _ _ _) fun k rest hrest => ?_)
      (List.suffix_cons _ _)
    have hahead := h.of_suffix (hrest.trans (List.suffix_cons '"' _))
    dsimp only
    split
    · rename_i more hskip
      have hmore := (skip_suffix more).trans (suffix_of_skip_eq_cons hskip)
      have hbehind := hahead.of_suffix hmore
      refine ((hvalue _ _ hbehind).bind fun v rest' hrest' => ?_).of_suffix hmore
      dsimp only
      split
      · rename_i more' hskip'
        have hmore' := (skip_suffix more').trans (suffix_of_skip_eq_cons hskip')
        exact (hfields _ _ _ (hbehind.of_suffix (hmore'.trans hrest'))).of_suffix hmore'
      · exact Goes.ok _ (suffix_of_skip_eq_cons ‹_›)
      · exact Goes.malformed
    · exact Goes.malformed
  · exact Goes.malformed

end Values

/-- **A reader goes through values**, through the items of lists and through the
fields of objects, as long as there are not too many digits and brackets. -/
theorem goes_takeValue (fuel : Nat) :
    (∀ depth cs, IsModerate depth cs → Goes cs (takeValue depth fuel cs))
      ∧ (∀ depth cs found, IsModerate depth cs → Goes cs (takeItems depth fuel cs found))
      ∧ ∀ depth cs found, IsModerate depth cs → Goes cs (takeFields depth fuel cs found) := by
  induction fuel with
  | zero =>
    exact ⟨fun _ _ _ => Goes.malformed, fun _ _ _ _ => Goes.malformed,
      fun _ _ _ _ => Goes.malformed⟩
  | succ fuel ih =>
    obtain ⟨hvalue, hitems, hfields⟩ := ih
    exact ⟨fun _ _ h => goes_takeValue_succ hitems hfields h,
      fun _ _ found h => goes_takeItems_succ hvalue hitems h found,
      fun _ _ found h => goes_takeFields_succ hvalue hfields h found⟩

/-- **Moderate texts are read or malformed**: no other refusal meets a text
without long runs of digits in which no more brackets are opened than lists may
be inside one another. -/
theorem ofText_of_moderate {s : String} (h : IsModerate 0 s.toList) :
    (∃ v, ofText s = .ok v) ∨ ofText s = .error .malformed := by
  have hgoes := (goes_takeValue (s.toList.length + 2)).1 0 _ (h.of_suffix (skip_suffix s.toList))
  unfold ofText
  rcases hgoes with hread | ⟨v, rest, hread, -⟩
  · simp only [hread]
    exact Or.inr rfl
  · simp only [hread, Bind.bind, Except.bind]
    split
    · exact Or.inl ⟨v, rfl⟩
    · exact Or.inr rfl

end Listening.Json
