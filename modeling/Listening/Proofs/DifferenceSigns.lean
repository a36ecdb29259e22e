import Listening.Range
import Mathlib.Algebra.Ring.Nat

/-!
# The sign of a difference

Positions are floats, and a move within a track is the difference of two of
them. Rounding could spoil the sign: of two numbers close to each other the
difference might come out as zero. With subnormal numbers it does not, and so
a position behind another one always means that the listener moved *back*; and
no other position does.

A float is looked at the way its arithmetic sees it, unpacked into digits and
an exponent. `IsLeast` is the form in which floats are unpacked, in which of
two numbers with different exponents the larger exponent makes the larger
number; `Fits` is the form rounding leaves, which is all that is needed for a
number to be packed as something other than zero.
-/

namespace Listening.Number

open Float.Model Float.Model.UnpackedFloat

/-! ## Rounding -/

theorem targetExponent_eq (total : Int) :
    Format.binary64.targetExponent total = max (total - 53) (-1074) := rfl

theorem mantissa_shiftRight (m : ExtendedMantissa) (count : Nat) :
    (m >>> count).mantissa = m.mantissa / 2 ^ count := by
  induction count with
  | zero => exact (Nat.div_one _).symm
  | succ count ih =>
    show (m >>> count).mantissa / 2 = _
    rw [ih, Nat.div_div_eq_div_mul, Nat.pow_succ]

theorem mantissa_ofMantissaAndAccuracy (digits : Nat) (a : Accuracy) :
    (ExtendedMantissa.ofMantissaAndAccuracy digits a).mantissa = digits := by
  cases a with
  | exact => rfl
  | inexact half => cases half <;> rfl

/-- Digits are never rounded to fewer. -/
theorem le_roundedMantissa (m : ExtendedMantissa) : m.mantissa ≤ m.roundedMantissa := by
  unfold ExtendedMantissa.roundedMantissa
  cases m.accuracy with
  | exact => exact Nat.le_refl _
  | inexact half =>
    cases half with
    | lt => exact Nat.le_refl _
    | eq => exact Nat.le_add_right _ _
    | gt => exact Nat.le_succ _

/-- **Digits and an exponent that a number can be packed with.** They are not
all zero. -/
def Fits (digits : Nat) (exponent : Int) : Prop :=
  0 < digits ∧ digits < 2 ^ 53 ∧ -1074 ≤ exponent

/-- Digits cut off at the exponent that suits them fit. -/
theorem fits_shift {digits : Nat} {exponent : Int} (hpos : 0 < digits)
    (hlow : -1074 ≤ exponent) :
    Fits (digits / 2 ^ (Format.binary64.targetExponent (totalExponent digits exponent)
        - exponent).toNat)
      (exponent + (Format.binary64.targetExponent (totalExponent digits exponent)
        - exponent).toNat) := by
  have hle := Nat.log2_self_le (Nat.ne_of_gt hpos)
  have hlt := @Nat.lt_log2_self digits
  rw [targetExponent_eq]
  unfold totalExponent
  by_cases hlong : 53 ≤ digits.log2
  · have hcount : (max ((digits.log2 : Int) + 1 + exponent - 53) (-1074) - exponent).toNat
        = digits.log2 - 52 := by omega
    rw [hcount]
    refine ⟨Nat.div_pos ?_ (Nat.two_pow_pos _), ?_, by omega⟩
    · exact Nat.le_trans (Nat.pow_le_pow_right (by decide) (Nat.sub_le _ _)) hle
    · rw [Nat.div_lt_iff_lt_mul (Nat.two_pow_pos _)]
      refine Nat.lt_of_lt_of_le hlt (Nat.le_of_eq ?_)
      rw [← Nat.pow_add]
      congr 1
      omega
  · have hcount :
        (max ((digits.log2 : Int) + 1 + exponent - 53) (-1074) - exponent).toNat = 0 := by
      omega
    rw [hcount, Nat.pow_zero, Nat.div_one]
    refine ⟨hpos, Nat.lt_of_lt_of_le hlt (Nat.pow_le_pow_right (by decide) (by omega)), by omega⟩

/-- **Digits are rounded to digits**, however much was cut off before. -/
theorem exists_roundWithAccuracy (sign : Sign) {digits : Nat} {exponent : Int}
    (hpos : 0 < digits)
    (hlow : -1074 ≤ exponent) (accuracy : Accuracy) :
    ∃ digits' exponent' h, roundWithAccuracy Format.binary64 sign digits exponent accuracy
        = .finite sign digits' exponent' h ∧ Fits digits' exponent' := by
  obtain ⟨hshifted, -, hlow'⟩ := fits_shift hpos hlow
  unfold roundWithAccuracy shiftToTargetExponent shiftToExponent
  have hmantissa : ∀ (m count : Nat) (a : Accuracy),
      (ExtendedMantissa.ofMantissaAndAccuracy m a >>> count).mantissa = m / 2 ^ count := by
    intro m count a
    rw [mantissa_shiftRight, mantissa_ofMantissaAndAccuracy]
  dsimp only
  generalize hrounded : ExtendedMantissa.roundedMantissa _ = rounded
  have hrounded' : 0 < rounded := by
    rw [← hrounded]
    refine Nat.lt_of_lt_of_le ?_ (le_roundedMantissa _)
    rwa [hmantissa]
  have hfits := fits_shift hrounded' hlow'
  rw [← hmantissa _ _ .exact] at hfits
  rw [dif_neg (Nat.ne_of_gt hfits.1)]
  exact ⟨_, _, hfits.1, rfl, hfits⟩

/-- **A number other than zero is rounded to one**, and of the same sign. -/
theorem exists_round (sign : Sign) {digits : Nat} {exponent : Int} (hpos : 0 < digits)
    (hlow : -1074 ≤ exponent) :
    ∃ digits' exponent' h, UnpackedFloat.round Format.binary64 sign digits exponent
        = .finite sign digits' exponent' h ∧ Fits digits' exponent' := by
  unfold UnpackedFloat.round decreaseExponent
  refine exists_roundWithAccuracy sign ?_ ?_ .exact
  · rw [Nat.shiftLeft_eq]
    exact Nat.mul_pos hpos (Nat.two_pow_pos _)
  · rw [targetExponent_eq]
    omega

/-- Rounding keeps the sign, whatever it leaves of the number and however exact
that was. -/
theorem roundWithAccuracy_cases (sign : Sign) (digits : Nat) (exponent : Int)
    (accuracy : Accuracy) :
    roundWithAccuracy Format.binary64 sign digits exponent accuracy = .zero sign
      ∨ ∃ digits' exponent' h, roundWithAccuracy Format.binary64 sign digits exponent accuracy
          = .finite sign digits' exponent' h := by
  unfold roundWithAccuracy
  exact (Classical.em _).imp (fun h => dif_pos h)
    (fun h => ⟨_, _, Nat.pos_of_ne_zero h, dif_neg h⟩)

/-- Rounding a number that was not cut off before keeps the sign. -/
theorem round_cases (sign : Sign) (digits : Nat) (exponent : Int) :
    UnpackedFloat.round Format.binary64 sign digits exponent = .zero sign
      ∨ ∃ digits' exponent' h, UnpackedFloat.round Format.binary64 sign digits exponent
          = .finite sign digits' exponent' h :=
  roundWithAccuracy_cases sign _ _ _

/-! ## Negative numbers -/

/-- **Whether a number is negative**, and can be packed. -/
def IsNegative : UnpackedFloat → Prop
  | .infinity .negative => True
  | .finite .negative digits exponent _ => Fits digits exponent
  | _ => False

/-- A packed number keeps its sign. -/
theorem sign_packComponents (sign : Sign) (exponent : BitVec 11) (digits : BitVec 52) :
    Sign.ofBitVec (unpackSign (packComponents .binary64 sign exponent digits)) = sign := by
  have h : unpackSign (packComponents .binary64 sign exponent digits) = sign.toBitVec := by
    show (sign.toBitVec ++ exponent ++ digits).extractLsb' 63 1 = sign.toBitVec
    rw [BitVec.extractLsb'_append_eq_of_le (by decide),
      BitVec.extractLsb'_append_eq_of_le (by decide)]
    cases sign <;> rfl
  rw [h]
  cases sign <;> rfl

/-- Read back, a negative infinity, or a negative number other than zero, is below
zero. -/
theorem lt_zero_unpack {b : BitVec Format.binary64.numBits}
    (hsign : Sign.ofBitVec (unpackSign b) = .negative)
    (h : (unpackExponent b = -1#11 ∧ unpackMantissa b = 0#52)
      ∨ (unpackExponent b ≠ -1#11 ∧ (unpackExponent b ≠ 0#11 ∨ unpackMantissa b ≠ 0#52))) :
    (UnpackedFloat.unpack .binary64 b).compare (.zero .positive) = some .lt := by
  unfold UnpackedFloat.unpack
  dsimp only
  rw [hsign]
  rcases h with ⟨hinfinite, hzero⟩ | ⟨hfinite, hnonzero⟩
  · rw [if_pos hinfinite, if_pos hzero]
    rfl
  · rw [if_neg hfinite]
    by_cases hzero : unpackExponent b = 0#11
    · rw [if_pos hzero, dif_neg (hnonzero.resolve_left fun h => h hzero)]
      rfl
    · rw [if_neg hzero]
      rfl

theorem lt_zero_unpack_packComponents {exponent : BitVec 11} {digits : BitVec 52}
    (h : (exponent = -1#11 ∧ digits = 0#52)
      ∨ (exponent ≠ -1#11 ∧ (exponent ≠ 0#11 ∨ digits ≠ 0#52))) :
    (UnpackedFloat.unpack .binary64
      (packComponents .binary64 .negative exponent digits)).compare (.zero .positive)
        = some .lt := by
  refine lt_zero_unpack (sign_packComponents .negative exponent digits) ?_
  rw [unpackExponent_packComponents, unpackMantissa_packComponents]
  exact h

/-- **A negative number is packed as one.** -/
theorem IsNegative.lt_zero {x : UnpackedFloat} (h : IsNegative x) :
    (UnpackedFloat.unpack .binary64 (UnpackedFloat.pack .binary64 x)).compare (.zero .positive)
      = some .lt := by
  cases x with
  | notANumber => exact h.elim
  | zero sign => exact h.elim
  | infinity sign =>
    cases sign with
    | positive => exact h.elim
    | negative => exact lt_zero_unpack_packComponents (Or.inl ⟨rfl, rfl⟩)
  | finite sign digits exponent hpos =>
    cases sign with
    | positive => exact h.elim
    | negative =>
      obtain ⟨-, hlt, hlow⟩ := h
      have hbias : exponent + Format.binary64.exponentBias
          + Format.binary64.mantissaBitsWithoutImplicit = exponent + 1075 := by
        show exponent + 1023 + 52 = _
        omega
      unfold UnpackedFloat.pack
      dsimp only
      rw [hbias]
      split
      · exact lt_zero_unpack_packComponents (Or.inl ⟨rfl, rfl⟩)
      · rename_i hsmall
        change ¬ 2048 ≤ _ at hsmall
        split
        · refine lt_zero_unpack_packComponents (Or.inr ⟨?_, Or.inl ?_⟩)
          · intro h
            have hones := congrArg BitVec.toNat h
            rw [BitVec.toNat_ofNat] at hones
            change _ % 2048 = 2047 at hones
            omega
          · intro h
            have hnone := congrArg BitVec.toNat h
            rw [BitVec.toNat_ofNat] at hnone
            change _ % 2048 = 0 at hnone
            omega
        · rename_i hshort
          refine lt_zero_unpack_packComponents (Or.inr ⟨by decide, Or.inr ?_⟩)
          intro h
          have hnone := congrArg BitVec.toNat h
          rw [BitVec.toNat_ofNat] at hnone
          change digits % 2 ^ 52 = 0 at hnone
          change ¬ digits.log2 + 1 = 53 at hshort
          have hlog : digits.log2 < 53 := (Nat.log2_lt (Nat.ne_of_gt hpos)).mpr hlt
          have hfew : digits < 2 ^ 52 := (Nat.log2_lt (Nat.ne_of_gt hpos)).mp (by omega)
          omega

/-! ## Subtraction -/

/-- **Digits with the least exponent there is for them**: there are as many as
there can be, unless the exponent is the least of all. -/
structure IsLeast (digits : Nat) (exponent : Int) : Prop where
  /-- The number can be packed. -/
  fits : Fits digits exponent
  /-- Few digits have the least exponent. -/
  long : digits < 2 ^ 52 → exponent = -1074

/-- **What is unpacked** has the sign of the bits, and a number has digits and an
exponent in their least form. -/
theorem unpack_cases (b : BitVec Format.binary64.numBits) :
    UnpackedFloat.unpack .binary64 b = .notANumber
      ∨ UnpackedFloat.unpack .binary64 b = .infinity (Sign.ofBitVec (unpackSign b))
      ∨ UnpackedFloat.unpack .binary64 b = .zero (Sign.ofBitVec (unpackSign b))
      ∨ ∃ digits exponent h, UnpackedFloat.unpack .binary64 b
          = .finite (Sign.ofBitVec (unpackSign b)) digits exponent h
          ∧ IsLeast digits exponent := by
  have hwidth := (unpackMantissa b).isLt
  have hbias :
      ((Format.binary64.exponentBias : Int) + Format.binary64.mantissaBitsWithoutImplicit)
      = 1075 := rfl
  unfold UnpackedFloat.unpack
  dsimp only
  rw [hbias]
  by_cases hinfinite : unpackExponent b = -1#11
  · rw [if_pos hinfinite]
    by_cases hzero : unpackMantissa b = 0#52
    · exact Or.inr (Or.inl (if_pos hzero))
    · exact Or.inl (if_neg hzero)
  · rw [if_neg hinfinite]
    by_cases hlow : unpackExponent b = 0#11
    · rw [if_pos hlow]
      by_cases hzero : unpackMantissa b = 0#52
      · exact Or.inr (Or.inr (Or.inl (dif_pos hzero)))
      · have hpos : 0 < (unpackMantissa b).toNat :=
          Nat.pos_of_ne_zero fun h => hzero (BitVec.eq_of_toNat_eq h)
        have hexponent : (unpackExponent b).toNat = 0 := congrArg BitVec.toNat hlow
        refine Or.inr (Or.inr (Or.inr ⟨_, _, hpos, dif_neg hzero, ?_⟩))
        change _ < 2 ^ 52 at hwidth
        exact ⟨⟨hpos, by omega, by omega⟩, fun _ => by omega⟩
    · have hdigits : (1#1 ++ unpackMantissa b).toNat = 2 ^ 52 + (unpackMantissa b).toNat := by
        rw [BitVec.toNat_append, ← Nat.shiftLeft_add_eq_or_of_lt (unpackMantissa b).isLt]
        rfl
      have hpos : 0 < (1#1 ++ unpackMantissa b).toNat := by omega
      have hexponent : (unpackExponent b).toNat ≠ 0 := fun h =>
        hlow (BitVec.eq_of_toNat_eq h)
      refine Or.inr (Or.inr (Or.inr ⟨_, _, hpos, if_neg hlow, ?_⟩))
      change _ < 2 ^ 52 at hwidth
      rw [hdigits]
      exact ⟨⟨by omega, by omega, by omega⟩, fun _ => by omega⟩

/-- Numbers are unpacked in that form. -/
theorem isLeast_unpack {b : BitVec Format.binary64.numBits} {sign : Sign} {digits : Nat}
    {exponent : Int} {hpos : 0 < digits}
    (h : UnpackedFloat.unpack .binary64 b = .finite sign digits exponent hpos) :
    IsLeast digits exponent := by
  rcases unpack_cases b with hcase | hcase | hcase | ⟨digits', exponent', hpos', hcase, hleast⟩
  · cases hcase.symm.trans h
  · cases hcase.symm.trans h
  · cases hcase.symm.trans h
  · obtain ⟨-, rfl, rfl⟩ := UnpackedFloat.finite.inj (hcase.symm.trans h)
    exact hleast

/-- Brought to one exponent, the digits of the lesser number are the lesser
ones. -/
theorem shiftLeft_lt_of_compare {m n : Nat} {e f : Int} (hm : IsLeast m e) (hn : IsLeast n f)
    (h : (compare e f).then (compare m n) = .lt) :
    m <<< (e - min e f).toNat < n <<< (f - min e f).toNat := by
  rw [Nat.shiftLeft_eq, Nat.shiftLeft_eq]
  obtain ⟨-, hm', he⟩ := hm.fits
  rcases Ordering.then_eq_lt.mp h with hlt | ⟨heq, hlt⟩
  · have hef : e < f := Int.compare_eq_lt.mp hlt
    have hlong : 2 ^ 52 ≤ n := by
      refine Nat.le_of_not_lt fun hshort => ?_
      have hleast := hn.long hshort
      omega
    obtain ⟨count, hcount⟩ : ∃ count, (f - min e f).toNat = count + 1 :=
      ⟨(f - min e f).toNat - 1, by omega⟩
    rw [show (e - min e f).toNat = 0 by omega, hcount, Nat.pow_zero, Nat.mul_one, Nat.pow_succ]
    have hdouble : n * 2 ≤ n * (2 ^ count * 2) :=
      Nat.mul_le_mul_left n (Nat.le_mul_of_pos_left 2 (Nat.two_pow_pos count))
    omega
  · obtain rfl := Int.compare_eq_eq.mp heq
    have hmn := Nat.compare_eq_lt.mp hlt
    rw [Int.min_self, Int.sub_self]
    simpa using hmn

/-- What is below zero is rounded to what is. -/
theorem isNegative_normalize {digits : Int} {exponent : Int} (hneg : digits < 0)
    (hlow : -1074 ≤ exponent) :
    IsNegative (UnpackedFloat.normalize .binary64 digits exponent .positive) := by
  unfold UnpackedFloat.normalize
  rw [Int.compare_eq_lt.mpr hneg]
  obtain ⟨digits', exponent', hpos, hround, hfits⟩ :=
    exists_round .negative (show 0 < (-digits).toNat by omega) hlow
  dsimp only
  rw [hround]
  exact hfits

/-- **A lesser finite number minus a greater one is negative.** -/
theorem isNegative_finite_sub {s t : Sign} {m n : Nat} {e f : Int} {hm : 0 < m} {hn : 0 < n}
    (hx : IsLeast m e) (hy : IsLeast n f)
    (h : (UnpackedFloat.finite s m e hm).compare (.finite t n f hn) = some .lt) :
    IsNegative (UnpackedFloat.sub .binary64 (.finite s m e hm) (.finite t n f hn)) := by
  refine isNegative_normalize ?_ (Int.le_min.mpr ⟨hx.fits.2.2, hy.fits.2.2⟩)
  have hposx : 0 < m <<< (e - min e f).toNat := by
    rw [Nat.shiftLeft_eq]
    exact Nat.mul_pos hm (Nat.two_pow_pos _)
  have hposy : 0 < n <<< (f - min e f).toNat := by
    rw [Nat.shiftLeft_eq]
    exact Nat.mul_pos hn (Nat.two_pow_pos _)
  have horder : (compare e f).then (compare m n) = .lt →
      m <<< (e - min e f).toNat < n <<< (f - min e f).toNat := shiftLeft_lt_of_compare hx hy
  have hturned : (compare f e).then (compare n m) = .lt →
      n <<< (f - min e f).toNat < m <<< (e - min e f).toNat := by
    rw [Int.min_comm e f]
    exact shiftLeft_lt_of_compare hy hx
  show s.apply (m <<< (e - min e f).toNat : Nat) - t.apply (n <<< (f - min e f).toNat : Nat) < 0
  generalize m <<< (e - min e f).toNat = a at *
  generalize n <<< (f - min e f).toNat = b at *
  cases s with
  | negative =>
    cases t with
    | negative =>
      have hlt : b < a := hturned (by
        rw [← Int.compare_swap, ← Nat.compare_swap, ← Ordering.swap_then]
        exact Option.some.inj h)
      show -(a : Int) - -(b : Int) < 0
      omega
    | positive =>
      show -(a : Int) - (b : Int) < 0
      omega
  | positive =>
    cases t with
    | negative => exact nomatch Option.some.inj h
    | positive =>
      have hlt : a < b := horder (Option.some.inj h)
      show (a : Int) - (b : Int) < 0
      omega

/-- Whether a number is in the form in which numbers are unpacked. -/
def IsCanonical : UnpackedFloat → Prop
  | .finite _ digits exponent _ => IsLeast digits exponent
  | _ => True

/-- A lesser number minus a greater one is below zero. -/
theorem isNegative_sub {x y : UnpackedFloat} (hx : IsCanonical x) (hy : IsCanonical y)
    (h : x.compare y = some .lt) : IsNegative (UnpackedFloat.sub .binary64 x y) := by
  cases x with
  | notANumber => exact nomatch h
  | infinity s =>
    cases s with
    | negative => cases y with
      | notANumber => exact nomatch h
      | infinity t =>
        cases t with
        | negative => exact nomatch h
        | positive => trivial
      | zero t => trivial
      | finite t n f hn => trivial
    | positive => cases y with
      | infinity t => cases t <;> exact nomatch h
      | _ => exact nomatch h
  | zero s => cases y with
    | notANumber => exact nomatch h
    | infinity t =>
      cases t with
      | negative => exact nomatch h
      | positive => trivial
    | zero t => exact nomatch h
    | finite t n f hn =>
      cases t with
      | negative => exact nomatch h
      | positive => exact hy.fits
  | finite s m e hm => cases y with
    | notANumber => cases s <;> exact nomatch h
    | infinity t =>
      cases t with
      | negative => cases s <;> exact nomatch h
      | positive => trivial
    | zero t =>
      cases s with
      | negative => exact hx.fits
      | positive => exact nomatch h
    | finite t n f hn => exact isNegative_finite_sub hx hy h

theorem isCanonical_unpack (b : BitVec Format.binary64.numBits) :
    IsCanonical (UnpackedFloat.unpack .binary64 b) := by
  cases h : UnpackedFloat.unpack .binary64 b with
  | finite sign digits exponent hpos => exact isLeast_unpack h
  | _ => trivial

theorem lt_iff_compare {x y : Float} :
    x < y ↔ x.toModel.unpack.compare y.toModel.unpack = some .lt := by
  show decide (x.toModel < y.toModel) = true ↔ _
  rw [decide_eq_true_iff]
  show ((_ : Option Ordering) == some .lt) = true ↔ _
  exact beq_iff_eq

/-- **A lesser float minus a greater one is below zero**: no rounding makes it
zero. -/
theorem sub_lt_zero {x y : Float} (h : x < y) : x - y < 0 := by
  rw [lt_iff_compare] at h ⊢
  exact (isNegative_sub (isCanonical_unpack _) (isCanonical_unpack _) h).lt_zero

/-! ## Differences that are not negative -/

/-- Whether a number is not below zero, if it is one. -/
def IsUpper : UnpackedFloat → Prop
  | .infinity .negative => False
  | .finite .negative _ _ _ => False
  | _ => True

/-- Read back, the parts of a number without a sign are not below zero. -/
theorem not_lt_zero_unpack_packComponents (exponent : BitVec 11) (digits : BitVec 52) :
    (UnpackedFloat.unpack .binary64
      (packComponents .binary64 .positive exponent digits)).compare (.zero .positive)
        ≠ some .lt := by
  have hcases := unpack_cases (packComponents .binary64 .positive exponent digits)
  rw [sign_packComponents] at hcases
  intro hlt
  rcases hcases with hcase | hcase | hcase | ⟨digits', exponent', hpos, hcase, -⟩
  all_goals
    rw [hcase] at hlt
    cases hlt

/-- **A number that is not below zero is packed as one.** -/
theorem IsUpper.not_lt_zero {x : UnpackedFloat} (h : IsUpper x) :
    (UnpackedFloat.unpack .binary64 (UnpackedFloat.pack .binary64 x)).compare (.zero .positive)
      ≠ some .lt := by
  cases x with
  | notANumber => exact not_lt_zero_unpack_packComponents _ _
  | zero sign => cases sign <;> exact fun h => nomatch h
  | infinity sign =>
    cases sign with
    | positive => exact not_lt_zero_unpack_packComponents _ _
    | negative => exact h.elim
  | finite sign digits exponent hpos =>
    cases sign with
    | negative => exact h.elim
    | positive =>
      unfold UnpackedFloat.pack
      dsimp only
      split
      · exact not_lt_zero_unpack_packComponents _ _
      · split <;> exact not_lt_zero_unpack_packComponents _ _

/-- What is not below zero is rounded to what is not. -/
theorem isUpper_normalize {digits : Int} (hpos : 0 ≤ digits) (exponent : Int) :
    IsUpper (UnpackedFloat.normalize .binary64 digits exponent .positive) := by
  unfold UnpackedFloat.normalize
  cases hcompare : compare digits 0 with
  | lt => exact absurd (Int.compare_eq_lt.mp hcompare) (Int.not_lt.mpr hpos)
  | eq => trivial
  | gt =>
    dsimp only
    rcases round_cases .positive digits.toNat exponent with hround | ⟨_, _, _, hround⟩
    all_goals
      rw [hround]
      trivial

/-- Brought to one exponent, the digits of a number that is not the lesser one
are not the lesser ones. -/
theorem shiftLeft_le_of_compare {m n : Nat} {e f : Int} (hm : IsLeast m e) (hn : IsLeast n f)
    (h : (compare e f).then (compare m n) ≠ .lt) :
    n <<< (f - min e f).toNat ≤ m <<< (e - min e f).toNat := by
  cases hcompare : (compare e f).then (compare m n) with
  | lt => exact absurd hcompare h
  | eq =>
    obtain ⟨he, hd⟩ := Ordering.then_eq_eq.mp hcompare
    exact Nat.le_of_eq (by rw [Int.compare_eq_eq.mp he, Nat.compare_eq_eq.mp hd])
  | gt =>
    have hturned : (compare f e).then (compare n m) = .lt := by
      rw [← Int.compare_swap, ← Nat.compare_swap, ← Ordering.swap_then, hcompare]
      rfl
    have hlt := shiftLeft_lt_of_compare hn hm hturned
    rw [Int.min_comm e f]
    exact Nat.le_of_lt hlt

/-- **A finite number minus one that is not greater is not below zero.** -/
theorem isUpper_finite_sub {s t : Sign} {m n : Nat} {e f : Int} {hm : 0 < m} {hn : 0 < n}
    (hx : IsLeast m e) (hy : IsLeast n f)
    (h : (UnpackedFloat.finite s m e hm).compare (.finite t n f hn) ≠ some .lt) :
    IsUpper (UnpackedFloat.sub .binary64 (.finite s m e hm) (.finite t n f hn)) := by
  refine isUpper_normalize ?_ _
  have horder : (compare e f).then (compare m n) ≠ .lt →
      n <<< (f - min e f).toNat ≤ m <<< (e - min e f).toNat := shiftLeft_le_of_compare hx hy
  have hturned : (compare f e).then (compare n m) ≠ .lt →
      m <<< (e - min e f).toNat ≤ n <<< (f - min e f).toNat := by
    rw [Int.min_comm e f]
    exact shiftLeft_le_of_compare hy hx
  show 0 ≤ s.apply (m <<< (e - min e f).toNat : Nat) - t.apply (n <<< (f - min e f).toNat : Nat)
  generalize m <<< (e - min e f).toNat = a at *
  generalize n <<< (f - min e f).toNat = b at *
  cases s with
  | negative =>
    cases t with
    | negative =>
      have hle : a ≤ b := hturned fun hlt => h (by
        rw [← Int.compare_swap, ← Nat.compare_swap, ← Ordering.swap_then] at hlt
        exact congrArg some hlt)
      show 0 ≤ -(a : Int) - -(b : Int)
      omega
    | positive => exact absurd rfl h
  | positive =>
    cases t with
    | negative =>
      show 0 ≤ (a : Int) - -(b : Int)
      omega
    | positive =>
      have hle : b ≤ a := horder fun hlt => h (congrArg some hlt)
      show 0 ≤ (a : Int) - (b : Int)
      omega

/-- A number minus one that is not greater is not below zero. -/
theorem isUpper_sub {x y : UnpackedFloat} (hx : IsCanonical x) (hy : IsCanonical y)
    (h : x.compare y ≠ some .lt) : IsUpper (UnpackedFloat.sub .binary64 x y) := by
  cases x with
  | notANumber => trivial
  | infinity s =>
    cases s with
    | negative => cases y with
      | notANumber => trivial
      | infinity t =>
        cases t with
        | negative => trivial
        | positive => exact absurd rfl h
      | zero t => exact absurd rfl h
      | finite t n f hn => exact absurd rfl h
    | positive => cases y with
      | infinity t => cases t <;> trivial
      | _ => trivial
  | zero s => cases y with
    | notANumber => trivial
    | infinity t =>
      cases t with
      | negative => trivial
      | positive => exact absurd rfl h
    | zero t => cases s <;> cases t <;> trivial
    | finite t n f hn =>
      cases t with
      | negative => trivial
      | positive => exact absurd rfl h
  | finite s m e hm => cases y with
    | notANumber => trivial
    | infinity t =>
      cases t with
      | negative => trivial
      | positive => cases s <;> exact absurd rfl h
    | zero t =>
      cases s with
      | negative => exact absurd rfl h
      | positive => trivial
    | finite t n f hn => exact isUpper_finite_sub hx hy h

/-- **A difference is below zero only if the lesser float comes first.** -/
theorem lt_of_sub_lt_zero {x y : Float} (h : x - y < 0) : x < y := by
  rw [lt_iff_compare] at h ⊢
  exact Classical.byContradiction fun hnot =>
    (isUpper_sub (isCanonical_unpack _) (isCanonical_unpack _) hnot).not_lt_zero h

end Listening.Number
