import Listening.Instant
import Listening.Number.Numeral
import Mathlib.Data.Nat.Basic
import Mathlib.Algebra.Ring.Nat

/-!
# Timestamps there and back

An instant leaves the program as a timestamp, a whole number of seconds, and
comes back as one or as the numeral of one. What is left of it? A numeral is
read as the number it shows, unless it has too many digits
(`Number.wholeNumber?_toString`), and a timestamp of the calendar is read as
its second (`Instant.ofUnixSeconds?_eq_ok_iff`). The second itself is less than
a second before the instant and at most half a second after it – the number of
seconds is rounded before its whole part is taken –, so that the instant
that comes back is never further away than a second
(`Instant.near_of_unixSeconds?`).
-/

namespace Listening

namespace Number

/-! ## Rounding -/

/-- A rounded quotient is at most half too large. -/
theorem two_mul_roundDiv_mul_le (num den : Nat) :
    2 * (roundDiv num den * den) ≤ 2 * num + den := by
  have hdiv := Nat.div_add_mod' num den
  have hsucc : (num / den + 1) * den = num / den * den + den := Nat.succ_mul (num / den) den
  unfold roundDiv
  dsimp only
  split_ifs <;> omega

/-- A rounded quotient is at most half too small. -/
theorem two_mul_le_roundDiv_mul {den : Nat} (hden : 0 < den) (num : Nat) :
    2 * num ≤ 2 * (roundDiv num den * den) + den := by
  have hdiv := Nat.div_add_mod' num den
  have hsucc : (num / den + 1) * den = num / den * den + den := Nat.succ_mul (num / den) den
  have hmod := Nat.mod_lt num hden
  unfold roundDiv
  dsimp only
  split_ifs <;> omega

/-- The whole part of a quotient that is rounded on a finer scale is at most
half too large. -/
theorem two_mul_roundDiv_div_mul_le {scale : Nat} (hscale : 0 < scale) (num den : Nat) :
    2 * (roundDiv (num * scale) den / scale * den) ≤ 2 * num + den := by
  refine Nat.le_of_mul_le_mul_right ?_ hscale
  calc 2 * (roundDiv (num * scale) den / scale * den) * scale
      = 2 * (roundDiv (num * scale) den / scale * scale * den) := by
        rw [Nat.mul_assoc, Nat.mul_right_comm]
    _ ≤ 2 * (roundDiv (num * scale) den * den) :=
        Nat.mul_le_mul_left _ (Nat.mul_le_mul_right _ (Nat.div_mul_le_self _ scale))
    _ ≤ 2 * (num * scale) + den := two_mul_roundDiv_mul_le _ den
    _ ≤ 2 * (num * scale) + den * scale :=
        Nat.add_le_add_left (Nat.le_mul_of_pos_right _ hscale) _
    _ = (2 * num + den) * scale := by rw [Nat.add_mul, Nat.mul_assoc]

/-- The whole part of a quotient that is rounded on a finer scale is less than
one too small. -/
theorem lt_roundDiv_div_mul {scale den : Nat} (hscale : 0 < scale) (hden : 0 < den) (num : Nat) :
    num < (roundDiv (num * scale) den / scale + 1) * den := by
  have hround := two_mul_le_roundDiv_mul hden (num * scale)
  -- on the finer scale there is a step between what was rounded and the next whole number
  have hwhole : roundDiv (num * scale) den + 1
      ≤ (roundDiv (num * scale) den / scale + 1) * scale := by
    rw [Nat.add_mul, Nat.one_mul]
    exact Nat.lt_div_mul_add hscale
  refine Nat.lt_of_mul_lt_mul_right (a := scale) ?_
  calc num * scale < (roundDiv (num * scale) den + 1) * den := by
        rw [Nat.add_mul, Nat.one_mul]
        omega
    _ ≤ (roundDiv (num * scale) den / scale + 1) * scale * den := Nat.mul_le_mul_right _ hwhole
    _ = (roundDiv (num * scale) den / scale + 1) * den * scale := Nat.mul_right_comm ..

theorem twoTo_pos (exponent : Nat) : 0 < twoTo exponent := Nat.pow_pos (by decide)

/-! ## Numerals -/

/-- What a numeral that is written in ASCII is made of. -/
def isPlain (c : Char) : Bool := c.isDigit || c == '-'

/-- A digit is its own ASCII digit. -/
theorem plainCharacter_of_isDigit {c : Char} (h : c.isDigit = true) : plainCharacter c = c := by
  have hbounds : 48 ≤ c.toNat ∧ c.toNat ≤ 57 := Char.isDigit_iff_toNat.mp h
  have hvalue : Text.digitValue? c = some (c.toNat - 48) := by
    unfold Text.digitValue?
    rw [if_pos (by omega), if_pos h]
    rfl
  have hsum : '0'.toNat + (c.toNat - 48) = c.toNat := Nat.add_sub_of_le hbounds.1
  unfold plainCharacter
  rw [hvalue]
  dsimp only
  rw [hsum, Char.ofNat_toNat]

theorem plainCharacter_of_isPlain {c : Char} (h : isPlain c = true) : plainCharacter c = c := by
  rcases Bool.or_eq_true_iff.mp h with hdigit | hsign
  · exact plainCharacter_of_isDigit hdigit
  · rw [beq_iff_eq.mp hsign]
    decide

/-- Nothing is trimmed from what has nothing to be trimmed at its ends. -/
theorem trimBoth_of_forall_not {p : Char → Bool} {cs : List Char} (h : ∀ c ∈ cs, p c = false) :
    Text.trimBoth p cs = cs := by
  have hkeep : ∀ {ds : List Char}, (∀ c ∈ ds, p c = false) → ds.dropWhile p = ds := by
    intro ds hds
    cases ds with
    | nil => rfl
    | cons d ds => exact List.dropWhile_cons_of_neg (by simp [hds d List.mem_cons_self])
  unfold Text.trimBoth
  rw [hkeep h, hkeep fun c hc => h c (List.mem_reverse.mp hc), List.reverse_reverse]

theorem numeralCharacters_of_isPlain {s : String} (h : ∀ c ∈ s.toList, isPlain c = true) :
    numeralCharacters s = s.toList := by
  have hspace : isPlain ' ' = false := by decide
  unfold numeralCharacters
  rw [List.map_congr_left fun c hc => plainCharacter_of_isPlain (h c hc), List.map_id']
  refine trimBoth_of_forall_not fun c hc => beq_false_of_ne fun e => ?_
  rw [← e, h c hc] at hspace
  exact nomatch hspace

/-- There are no underscores to be dropped. -/
theorem dropUnderscores_of_isPlain {cs : List Char} (h : ∀ c ∈ cs, isPlain c = true)
    (before : Bool) : dropUnderscores before cs = some cs := by
  induction cs generalizing before with
  | nil => rfl
  | cons c cs ih =>
    have hc : c ≠ '_' := fun e => by
      have hplain := h c List.mem_cons_self
      rw [e] at hplain
      exact absurd hplain (by decide)
    rw [dropUnderscores.eq_4 before c cs (fun e => hc e),
      ih fun d hd => h d (List.mem_cons_of_mem c hd)]
    rfl

theorem digitsValue_toDigits (n : Nat) : digitsValue (Nat.toDigits 10 n) = n := by
  have hvalue : digitsValue (Nat.toDigits 10 n) = Nat.ofDigitChars 10 (Nat.toDigits 10 n) 0 := by
    unfold digitsValue
    rw [Nat.ofDigitChars_eq_foldl]
    simp only [Nat.mul_comm]
  rw [hvalue, Nat.ofDigitChars_ten_toDigits]

theorem isDigit_of_mem_toDigits {n : Nat} {c : Char} (h : c ∈ Nat.toDigits 10 n) :
    c.isDigit = true := Nat.isDigit_of_mem_toDigits (by decide) (by decide) h

/-- Digits have no sign. -/
theorem takeSign_toDigits (n : Nat) :
    takeSign (Nat.toDigits 10 n) = (false, Nat.toDigits 10 n) := by
  cases hdigits : Nat.toDigits 10 n with
  | nil => rfl
  | cons c cs =>
    have hc : c.isDigit = true := isDigit_of_mem_toDigits (hdigits ▸ List.mem_cons_self)
    refine takeSign.eq_3 _ (fun rest e => ?_) fun rest e => ?_ <;>
      · rw [(List.cons.inj e).1] at hc
        exact absurd hc (by decide)

/-- The numeral of a whole number is read as the number. -/
theorem wholeNumber?_eq {s : String} {negative : Bool} {n : Nat}
    (hplain : ∀ c ∈ s.toList, isPlain c = true)
    (hsign : takeSign s.toList = (negative, Nat.toDigits 10 n)) :
    wholeNumber? s
      = if n < 10 ^ digitLimit then some (if negative then -(n : Int) else n) else none := by
  have hall : (Nat.toDigits 10 n).all Char.isDigit = true :=
    List.all_eq_true.mpr fun c hc => isDigit_of_mem_toDigits hc
  have hsome : (Nat.toDigits 10 n).isEmpty = false := by simp
  have hlimit : digitLimit < (Nat.toDigits 10 n).length ↔ ¬ n < 10 ^ digitLimit := by
    rw [← Nat.length_toDigits_le_iff (by decide) (by decide : 0 < digitLimit), Nat.not_le]
  -- nothing is trimmed, replaced or dropped, so what is left to do is to take the sign off
  unfold wholeNumber?
  rw [numeralCharacters_of_isPlain hplain, dropUnderscores_of_isPlain hplain]
  simp only [Option.bind_eq_bind, Option.bind_some, hsign, hall, hsome, digitsValue_toDigits,
    hlimit, Bool.false_eq_true, Bool.not_true, false_or]
  exact ite_not ..

/-- **A numeral is read as the number it shows**, unless it has too many
digits. -/
theorem wholeNumber?_toString (n : Int) :
    wholeNumber? (toString n) = if n.natAbs < 10 ^ digitLimit then some n else none := by
  have hdigits : ∀ {m : Nat}, ∀ c ∈ Nat.toDigits 10 m, isPlain c = true := fun c hc => by
    unfold isPlain
    rw [isDigit_of_mem_toDigits hc, Bool.true_or]
  cases n with
  | ofNat m =>
    have hlist : (toString (Int.ofNat m)).toList = Nat.toDigits 10 m := Nat.toList_repr
    rw [wholeNumber?_eq (hlist ▸ hdigits)
      ((congrArg takeSign hlist).trans (takeSign_toDigits m))]
    rfl
  | negSucc m =>
    have hlist : (toString (Int.negSucc m)).toList = '-' :: Nat.toDigits 10 (m + 1) := by
      show ("-" ++ Nat.repr (m + 1)).toList = _
      rw [String.toList_append, Nat.toList_repr]
      rfl
    rw [wholeNumber?_eq (hlist ▸ List.forall_mem_cons.mpr ⟨rfl, hdigits⟩)
      (congrArg takeSign hlist)]
    rfl

end Number

namespace Instant

/-! ## Seconds -/

/-- The whole seconds are at most half a second too many. -/
theorem wholeSeconds_mul_le (n : Nat) : 2 * (wholeSeconds n * 1000000) ≤ 2 * n + 1000000 :=
  Number.two_mul_roundDiv_div_mul_le (Number.twoTo_pos _) n 1000000

/-- The whole seconds are less than a second too few. -/
theorem lt_wholeSeconds_mul (n : Nat) : n < (wholeSeconds n + 1) * 1000000 :=
  Number.lt_roundDiv_div_mul (Number.twoTo_pos _) (by decide) n

/-- **A timestamp is never further away from its instant than a second.** -/
theorem near_of_unixSeconds? {t : Instant} {n : Int} (h : t.unixSeconds? = .ok n) :
    (((n * second - t.micros).natAbs : Nat) : Int) ≤ second := by
  unfold unixSeconds? at h
  split at h
  · exact nomatch h
  · have hle := wholeSeconds_mul_le t.micros.natAbs
    have hlt := lt_wholeSeconds_mul t.micros.natAbs
    have hsecond : second = 1000000 := rfl
    rw [← Except.ok.inj h, hsecond]
    rcases Int.lt_trichotomy t.micros 0 with hneg | hzero | hpos
    · rw [Int.sign_eq_neg_one_of_neg hneg]
      omega
    · rw [hzero]
      decide
    · rw [Int.sign_eq_one_of_pos hpos]
      omega

/-- **Whether a timestamp is one of the calendar**: of a year from 1 to
9999. -/
def InCalendar (n : Int) : Prop := earliest ≤ n * second ∧ n * second < latest

instance (n : Int) : Decidable (InCalendar n) := inferInstanceAs (Decidable (_ ∧ _))

/-- **A timestamp of the calendar is read as its second**, and no other one is
read. -/
theorem ofUnixSeconds?_eq_ok_iff {n : Int} {t : Instant} :
    ofUnixSeconds? n = .ok t ↔ InCalendar n ∧ t = ⟨n * second, some 0⟩ := by
  have hearliest : earliest = -62135596800000000 := by decide
  have hlatest : latest = 253402300800000000 := by decide
  have hword : (Number.twoTo 63 : Int) = 9223372036854775808 := by decide
  have hsecond : second = 1000000 := rfl
  unfold ofUnixSeconds? InCalendar
  dsimp only
  constructor
  · intro h
    split at h
    · exact nomatch h
    · split at h
      · rename_i hin
        exact ⟨hin, (Except.ok.inj h).symm⟩
      · split at h <;> exact nomatch h
  · rintro ⟨hin, rfl⟩
    rw [if_neg, if_pos hin]
    rw [hearliest, hlatest, hsecond] at hin
    rw [hword]
    omega

/-- A timestamp of the calendar has few enough digits to be read. -/
theorem InCalendar.natAbs_lt {n : Int} (h : InCalendar n) :
    n.natAbs < 10 ^ Number.digitLimit := by
  have hearliest : earliest = -62135596800000000 := by decide
  have hlatest : latest = 253402300800000000 := by decide
  have hsecond : second = 1000000 := rfl
  unfold InCalendar at h
  rw [hearliest, hlatest, hsecond] at h
  have hfew : n.natAbs < 10 ^ 12 := by omega
  exact Nat.lt_of_lt_of_le hfew (Nat.pow_le_pow_right (by decide) (by decide))

end Instant

end Listening
