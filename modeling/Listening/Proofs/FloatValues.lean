import Listening.Proofs.DifferenceSigns
import Mathlib.Algebra.Order.Field.Power
import Mathlib.Data.Rat.Cast.Order
import Mathlib.Tactic.Ring

/-!
# What floats stand for

A finite float stands for a rational number, and `Number.Stands` says for which:
the one that its reading has. Two floats compare as the numbers they stand for
(`Stands.le_iff`). A difference of two floats need not stand for the difference
of the numbers, as it is rounded. But where a float stands for that difference
at all, nothing is lost.
-/

namespace Listening.Number

open Float.Model Float.Model.UnpackedFloat

/-- **The number that a float stands for.** -/
def Stands (x : Float) (q : ℚ) : Prop := (read x).value? = some q

/-! ## Unpacked floats -/

/-- The number that an unpacked float stands for. -/
def unpackedValue? : UnpackedFloat → Option ℚ
  | .zero _ => some 0
  | .finite s m e _ => some ((s.apply m : ℤ) * 2 ^ e)
  | _ => none

theorem unpackedValue?_finite (s : Sign) (m : Nat) (e : Int) (h : 0 < m) :
    unpackedValue? (.finite s m e h) = some (((s.apply m : ℤ) : ℚ) * 2 ^ e) := rfl

theorem toNat_unpackExponent (b : BitVec Format.binary64.numBits) :
    (unpackExponent b).toNat = b.toNat / 2 ^ 52 % 2048 := by
  show (b.toNat >>> 52) % 2 ^ 11 = _
  rw [Nat.shiftRight_eq_div_pow]

theorem toNat_unpackMantissa (b : BitVec Format.binary64.numBits) :
    (unpackMantissa b).toNat = b.toNat % 2 ^ 52 := by
  show (b.toNat >>> 0) % 2 ^ 52 = _
  rfl

theorem sign_unpackSign (b : BitVec Format.binary64.numBits) :
    Sign.ofBitVec (unpackSign b) = if 2 ^ 63 ≤ b.toNat then .negative else .positive := by
  have hbit : (unpackSign b).toNat = b.toNat / 2 ^ 63 % 2 := by
    show (b.toNat >>> 63) % 2 ^ 1 = _
    rw [Nat.shiftRight_eq_div_pow]
  have hwidth : b.toNat < 2 ^ 64 := b.isLt
  have hzero : unpackSign b = 0#1 ↔ (unpackSign b).toNat = 0 :=
    ⟨congrArg BitVec.toNat, fun h => BitVec.eq_of_toNat_eq h⟩
  unfold Sign.ofBitVec
  simp only [hzero, hbit]
  split <;> split <;> first | rfl | omega

/-- A mantissa and an exponent stand for a mantissa times a power of two. -/
theorem value?_finite (negative : Bool) (mantissa : Nat) (exponent : Int) :
    (Reading.finite negative mantissa exponent).value?
      = some ((if negative then -(mantissa : ℚ) else mantissa) * 2 ^ exponent) := by
  unfold Reading.value? fraction twoTo
  dsimp only
  rw [Rat.mkRat_eq_div]
  by_cases hexponent : 0 ≤ exponent
  · obtain ⟨n, rfl⟩ := Int.eq_ofNat_of_zero_le hexponent
    rw [if_pos hexponent]
    cases negative <;> simp
  · obtain ⟨n, hn⟩ := Int.eq_ofNat_of_zero_le (Int.neg_nonneg.mpr (Int.not_le.mp hexponent).le)
    obtain rfl : exponent = -(n : ℤ) := by omega
    rw [if_neg hexponent]
    cases negative <;> simp [div_eq_mul_inv]

/-- The leading digit goes without saying. -/
theorem toNat_leading (digits : BitVec 52) : (1#1 ++ digits).toNat = 2 ^ 52 + digits.toNat := by
  rw [BitVec.toNat_append, ← Nat.shiftLeft_add_eq_or_of_lt digits.isLt]
  rfl

/-- A number is unpacked by the fields of its bits. -/
theorem unpackedValue?_unpack (b : BitVec Format.binary64.numBits) :
    unpackedValue? (UnpackedFloat.unpack .binary64 b)
      = if b.toNat / 2 ^ 52 % 2048 = 2047 then none
        else some ((if 2 ^ 63 ≤ b.toNat then (-1 : ℚ) else 1)
          * if b.toNat / 2 ^ 52 % 2048 = 0 then ((b.toNat % 2 ^ 52 : Nat) : ℚ) * 2 ^ (-1074 : ℤ)
            else ((b.toNat % 2 ^ 52 + 2 ^ 52 : Nat) : ℚ)
              * 2 ^ ((b.toNat / 2 ^ 52 % 2048 : Nat) - 1075 : ℤ)) := by
  rw [← toNat_unpackExponent, ← toNat_unpackMantissa]
  have hall : unpackExponent b = -1#11 ↔ (unpackExponent b).toNat = 2047 :=
    ⟨congrArg BitVec.toNat, fun h => BitVec.eq_of_toNat_eq h⟩
  have hnone : unpackExponent b = 0#11 ↔ (unpackExponent b).toNat = 0 :=
    ⟨congrArg BitVec.toNat, fun h => BitVec.eq_of_toNat_eq h⟩
  have hempty : unpackMantissa b = 0#52 ↔ (unpackMantissa b).toNat = 0 :=
    ⟨congrArg BitVec.toNat, fun h => BitVec.eq_of_toNat_eq h⟩
  have happlied : ∀ m : Nat, (((Sign.ofBitVec (unpackSign b)).apply m : ℤ) : ℚ)
      = (if 2 ^ 63 ≤ b.toNat then (-1 : ℚ) else 1) * m := by
    intro m
    rw [sign_unpackSign]
    split <;> simp [Sign.apply]
  have hdigits : (1#1 ++ unpackMantissa b).toNat = (unpackMantissa b).toNat + 2 ^ 52 :=
    (toNat_leading _).trans (Nat.add_comm _ _)
  have hbias :
      ((Format.binary64.exponentBias : Int) + Format.binary64.mantissaBitsWithoutImplicit)
      = 1075 := rfl
  unfold UnpackedFloat.unpack
  dsimp only
  rw [hbias]
  by_cases hinfinite : unpackExponent b = -1#11
  · rw [if_pos hinfinite, if_pos (hall.mp hinfinite)]
    split <;> rfl
  · rw [if_neg hinfinite, if_neg fun h => hinfinite (hall.mpr h)]
    by_cases hlow : unpackExponent b = 0#11
    · rw [if_pos hlow, if_pos (hnone.mp hlow)]
      by_cases hzero : unpackMantissa b = 0#52
      · rw [dif_pos hzero, hempty.mp hzero]
        rw [Nat.cast_zero, zero_mul, mul_zero]
        rfl
      · rw [dif_neg hzero]
        rw [unpackedValue?_finite, happlied, hnone.mp hlow, mul_assoc]
        rfl
    · rw [if_neg hlow, if_neg fun h => hlow (hnone.mpr h)]
      rw [unpackedValue?_finite, happlied, hdigits, mul_assoc]

/-- A float stands for what it is unpacked to. -/
theorem value?_read (x : Float) : (read x).value? = unpackedValue? x.toModel.unpack := by
  show _ = unpackedValue? (UnpackedFloat.unpack .binary64 x.toModel.toBits.toBitVec)
  rw [unpackedValue?_unpack]
  show _ = if x.toBits.toNat / 2 ^ 52 % 2048 = 2047 then none else
    some ((if 2 ^ 63 ≤ x.toBits.toNat then (-1 : ℚ) else 1)
      * if x.toBits.toNat / 2 ^ 52 % 2048 = 0 then
          ((x.toBits.toNat % 2 ^ 52 : Nat) : ℚ) * 2 ^ (-1074 : ℤ)
        else ((x.toBits.toNat % 2 ^ 52 + 2 ^ 52 : Nat) : ℚ)
          * 2 ^ ((x.toBits.toNat / 2 ^ 52 % 2048 : Nat) - 1075 : ℤ))
  have hsigned : ∀ m : ℚ, (if decide (2 ^ 63 ≤ x.toBits.toNat) = true then -m else m)
      = (if 2 ^ 63 ≤ x.toBits.toNat then (-1 : ℚ) else 1) * m := by
    intro m
    by_cases hsign : 2 ^ 63 ≤ x.toBits.toNat
    · rw [if_pos (decide_eq_true hsign), if_pos hsign, neg_one_mul]
    · rw [decide_eq_false hsign, if_neg hsign, if_neg Bool.false_ne_true, one_mul]
  have hpow : ∀ n, twoTo n = 2 ^ n := fun _ => rfl
  unfold read
  simp only [hpow]
  by_cases hinfinite : x.toBits.toNat / 2 ^ 52 % 2048 = 2047
  · rw [if_pos hinfinite, if_pos hinfinite]
    split <;> rfl
  · rw [if_neg hinfinite, if_neg hinfinite]
    split <;> rw [value?_finite, hsigned, mul_assoc]

/-! ## Order -/

/-- Digits followed by zeros stand for the same, with a lesser exponent. -/
theorem mul_two_pow_mul (m count : Nat) (e : Int) :
    ((m * 2 ^ count : Nat) : ℚ) * 2 ^ (e - count) = m * 2 ^ e := by
  rw [Nat.cast_mul, Nat.cast_pow, Nat.cast_ofNat, mul_assoc, ← zpow_natCast,
    ← zpow_add₀ two_ne_zero, add_sub_cancel]

/-- Digits that were moved to a lesser exponent stand for the same. -/
theorem shiftLeft_mul {m : Nat} {e least : Int} (h : least ≤ e) :
    ((m <<< (e - least).toNat : Nat) : ℚ) * 2 ^ least = m * 2 ^ e := by
  have hmoved := mul_two_pow_mul m (e - least).toNat e
  rwa [← Nat.shiftLeft_eq, Int.toNat_of_nonneg (Int.sub_nonneg.mpr h),
    Int.sub_sub_self] at hmoved

section Least

variable {m n : Nat} {e f : Int} (hm : IsLeast m e) (hn : IsLeast n f)
include hm hn

/-- **Digits in their least form compare as what they stand for.** -/
theorem lt_of_compare (h : (compare e f).then (compare m n) = .lt) :
    (m : ℚ) * 2 ^ e < n * 2 ^ f := by
  have hlt := shiftLeft_lt_of_compare hm hn h
  rw [← shiftLeft_mul (Int.min_le_left e f), ← shiftLeft_mul (m := n) (Int.min_le_right e f)]
  exact mul_lt_mul_of_pos_right (Nat.cast_lt.mpr hlt) (zpow_pos two_pos _)

theorem isLE_compare_iff :
    ((compare e f).then (compare m n)).isLE = true ↔ (m : ℚ) * 2 ^ e ≤ n * 2 ^ f := by
  cases hcompare : (compare e f).then (compare m n) with
  | lt => exact iff_of_true rfl (lt_of_compare hm hn hcompare).le
  | eq =>
    obtain ⟨he, hd⟩ := Ordering.then_eq_eq.mp hcompare
    obtain rfl := Int.compare_eq_eq.mp he
    obtain rfl := Nat.compare_eq_eq.mp hd
    exact iff_of_true rfl le_rfl
  | gt =>
    have hturned : (compare f e).then (compare n m) = .lt := by
      rw [← Int.compare_swap, ← Nat.compare_swap, ← Ordering.swap_then, hcompare]
      rfl
    exact iff_of_false Bool.false_ne_true (lt_of_compare hn hm hturned).not_ge

end Least

/-- With a sign, digits stand for a number of that sign. -/
theorem apply_negative (m : Nat) (e : Int) :
    ((Sign.negative.apply m : ℤ) : ℚ) * 2 ^ e = -(m * 2 ^ e) := by
  rw [show Sign.negative.apply m = -(m : ℤ) from rfl, Int.cast_neg, Int.cast_natCast, neg_mul]

theorem apply_positive (m : Nat) (e : Int) :
    ((Sign.positive.apply m : ℤ) : ℚ) * 2 ^ e = m * 2 ^ e := by
  rw [show Sign.positive.apply m = (m : ℤ) from rfl, Int.cast_natCast]

theorem mantissa_pos {m : Nat} (h : 0 < m) (e : Int) : (0 : ℚ) < m * 2 ^ e :=
  mul_pos (Nat.cast_pos.mpr h) (zpow_pos two_pos e)

/-- Unpacked floats compare as the numbers they stand for. -/
theorem isLE_compare_unpacked_iff {x y : UnpackedFloat} (hx : IsCanonical x) (hy : IsCanonical y)
    {p q : ℚ} (hp : unpackedValue? x = some p) (hq : unpackedValue? y = some q) :
    (x.compare y).any (·.isLE) = true ↔ p ≤ q := by
  cases x with
  | notANumber => exact nomatch hp
  | infinity s => exact nomatch hp
  | zero s =>
    obtain rfl := Option.some.inj hp
    cases y with
    | notANumber => exact nomatch hq
    | infinity t => exact nomatch hq
    | zero t =>
      obtain rfl := Option.some.inj hq
      exact iff_of_true rfl le_rfl
    | finite t n f hn =>
      obtain rfl := Option.some.inj hq
      have hpos := mantissa_pos hn f
      cases t with
      | negative =>
        rw [apply_negative]
        exact iff_of_false Bool.false_ne_true (neg_lt_zero.mpr hpos).not_ge
      | positive =>
        rw [apply_positive]
        exact iff_of_true rfl hpos.le
  | finite s m e hm =>
    obtain rfl := Option.some.inj hp
    have hpos := mantissa_pos hm e
    cases y with
    | notANumber => exact nomatch hq
    | infinity t => exact nomatch hq
    | zero t =>
      obtain rfl := Option.some.inj hq
      cases s with
      | negative =>
        rw [apply_negative]
        exact iff_of_true rfl (neg_lt_zero.mpr hpos).le
      | positive =>
        rw [apply_positive]
        exact iff_of_false Bool.false_ne_true hpos.not_ge
    | finite t n f hn =>
      obtain rfl := Option.some.inj hq
      have hpos' := mantissa_pos hn f
      cases s with
      | negative =>
        cases t with
        | negative =>
          rw [apply_negative, apply_negative, neg_le_neg_iff, ← isLE_compare_iff hy hx,
            ← Int.compare_swap e f, ← Nat.compare_swap m n, ← Ordering.swap_then]
          rfl
        | positive =>
          rw [apply_negative, apply_positive]
          exact iff_of_true rfl ((neg_lt_zero.mpr hpos).trans hpos').le
      | positive =>
        cases t with
        | negative =>
          rw [apply_positive, apply_negative]
          exact iff_of_false Bool.false_ne_true ((neg_lt_zero.mpr hpos').trans hpos).not_ge
        | positive =>
          rw [apply_positive, apply_positive]
          exact isLE_compare_iff hx hy

/-- **Floats compare as the numbers they stand for.** -/
theorem Stands.le_iff {x y : Float} {p q : ℚ} (hp : Stands x p) (hq : Stands y q) :
    x ≤ y ↔ p ≤ q := by
  unfold Stands at hp hq
  rw [value?_read] at hp hq
  rw [← isLE_compare_unpacked_iff (isCanonical_unpack _) (isCanonical_unpack _) hp hq]
  show decide (x.toModel ≤ y.toModel) = true ↔ _
  rw [decide_eq_true_iff]
  rfl

/-! ## Packing -/

/-- **What a float holds**: zero, or digits in their least form, with an exponent
that is not too large. -/
def IsHeld : UnpackedFloat → Prop
  | .zero _ => True
  | .finite _ m e _ => IsLeast m e ∧ e ≤ 971
  | _ => False

/-- Components are unpacked as they were packed. -/
theorem unpack_packComponents (s : Sign) (exponent : BitVec 11) (digits : BitVec 52) :
    UnpackedFloat.unpack .binary64 (packComponents .binary64 s exponent digits)
      = if exponent = -1#11 then if digits = 0#52 then .infinity s else .notANumber
        else if exponent = 0#11 then
          if h : digits = 0#52 then .zero s
          else .finite s digits.toNat (exponent.toNat - 1075 + 1)
            (Nat.pos_of_ne_zero fun e => h (BitVec.eq_of_toNat_eq e))
        else .finite s (1#1 ++ digits).toNat (exponent.toNat - 1075)
          (by rw [toNat_leading]; omega) := by
  have hsign := sign_packComponents s exponent digits
  have hexponent : unpackExponent (packComponents .binary64 s exponent digits) = exponent :=
    unpackExponent_packComponents
  have hdigits : unpackMantissa (packComponents .binary64 s exponent digits) = digits :=
    unpackMantissa_packComponents
  -- The fields are all that counts, and they stand in proofs of positivity too.
  generalize packComponents .binary64 s exponent digits = b at hsign hexponent hdigits ⊢
  subst hsign hexponent hdigits
  rfl

/-- **What a float holds is unpacked as it was packed.** -/
theorem IsHeld.unpack_pack {u : UnpackedFloat} (h : IsHeld u) :
    UnpackedFloat.unpack .binary64 (UnpackedFloat.pack .binary64 u) = u := by
  cases u with
  | notANumber => exact h.elim
  | infinity s => exact h.elim
  | zero s =>
    show UnpackedFloat.unpack .binary64 (packComponents .binary64 s 0#11 0#52) = _
    rw [unpack_packComponents, if_neg (by decide), if_pos rfl, dif_pos rfl]
  | finite s m e hm =>
    obtain ⟨⟨⟨-, hwidth, hlow⟩, hlong⟩, hhigh⟩ := h
    obtain ⟨biased, hbiased⟩ : ∃ biased : Nat, (biased : Int) = e + 1075 :=
      ⟨(e + 1075).toNat, by omega⟩
    have hbias : (e + Format.binary64.exponentBias
        + Format.binary64.mantissaBitsWithoutImplicit).toNat = biased := by
      show (e + 1023 + 52).toNat = _
      omega
    have hpack : UnpackedFloat.pack .binary64 (.finite s m e hm)
        = if 2048 ≤ biased + 1 then packedInfinity .binary64 s
          else if m.log2 + 1 = 53 then
            packComponents .binary64 s (BitVec.ofNat 11 biased) (BitVec.ofNat 52 m)
          else packComponents .binary64 s 0#11 (BitVec.ofNat 52 m) := by
      rw [← hbias]
      rfl
    rw [hpack, if_neg (show ¬ 2048 ≤ biased + 1 by omega)]
    by_cases hfull : m.log2 + 1 = 53
    · have hleast : 2 ^ 52 ≤ m := (Nat.le_log2 (Nat.ne_of_gt hm)).mp (by omega)
      have hexponent : (BitVec.ofNat 11 biased).toNat = biased := by
        rw [BitVec.toNat_ofNat]
        omega
      have hdigits : (1#1 ++ BitVec.ofNat 52 m).toNat = m := by
        rw [toNat_leading, BitVec.toNat_ofNat]
        omega
      rw [if_pos hfull, unpack_packComponents, if_neg, if_neg]
      · rw [UnpackedFloat.finite.injEq]
        exact ⟨rfl, hdigits, by omega⟩
      · intro hzero
        have := congrArg BitVec.toNat hzero
        rw [hexponent] at this
        change biased = 0 at this
        omega
      · intro hall
        have := congrArg BitVec.toNat hall
        rw [hexponent] at this
        change biased = 2047 at this
        omega
    · have hfew : m < 2 ^ 52 := by
        have hlog : m.log2 < 53 := (Nat.log2_lt (Nat.ne_of_gt hm)).mpr hwidth
        exact (Nat.log2_lt (Nat.ne_of_gt hm)).mp (by omega)
      have hdigits : (BitVec.ofNat 52 m).toNat = m := by
        rw [BitVec.toNat_ofNat]
        exact Nat.mod_eq_of_lt hfew
      rw [if_neg hfull, unpack_packComponents, if_neg (by decide), if_pos rfl, dif_neg]
      · rw [UnpackedFloat.finite.injEq]
        exact ⟨rfl, hdigits, (hlong hfew).symm⟩
      · intro hzero
        have := congrArg BitVec.toNat hzero
        rw [hdigits] at this
        change m = 0 at this
        omega

/-- A float stands for what it was packed from. -/
theorem IsHeld.stands {x : Float} {u : UnpackedFloat} {q : ℚ} (h : IsHeld u)
    (hx : x.toModel = .pack u) (hu : unpackedValue? u = some q) : Stands x q := by
  unfold Stands
  rw [value?_read, hx]
  show unpackedValue? (UnpackedFloat.unpack .binary64 (UnpackedFloat.pack .binary64 u)) = _
  rw [h.unpack_pack, hu]

/-! ## Rounding what need not be rounded -/

/-- Zeros that are shifted out leave nothing to round. -/
theorem shiftRight_mul (m count : Nat) :
    (ExtendedMantissa.mk (m * 2 ^ count) false false) >>> count = .mk m false false := by
  induction count generalizing m with
  | zero =>
    rw [Nat.pow_zero, Nat.mul_one]
    rfl
  | succ count ih =>
    show ((ExtendedMantissa.mk _ false false) >>> count).shiftRightOne = _
    rw [Nat.pow_succ', ← Nat.mul_assoc, ih]
    unfold ExtendedMantissa.shiftRightOne
    simp

/-- Digits and an exponent lie between two powers of two. -/
theorem mem_Ico_totalExponent {m : Nat} (hm : 0 < m) (e : Int) :
    (m : ℚ) * 2 ^ e ∈ Set.Ico ((2 : ℚ) ^ (totalExponent m e - 1)) (2 ^ totalExponent m e) := by
  have hle : ((2 ^ m.log2 : Nat) : ℚ) ≤ m := Nat.cast_le.mpr (Nat.log2_self_le (Nat.ne_of_gt hm))
  have hlt : (m : ℚ) < (2 ^ (m.log2 + 1) : Nat) := Nat.cast_lt.mpr Nat.lt_log2_self
  rw [Nat.cast_pow, Nat.cast_ofNat, ← zpow_natCast] at hle hlt
  have hpos : (0 : ℚ) < 2 ^ e := zpow_pos two_pos e
  have htotal : totalExponent m e = ((m.log2 + 1 : Nat) : ℤ) + e := rfl
  constructor
  · rw [htotal, show ((m.log2 + 1 : Nat) : ℤ) + e - 1 = m.log2 + e by omega,
      zpow_add₀ two_ne_zero]
    exact mul_le_mul_of_nonneg_right hle hpos.le
  · rw [htotal, zpow_add₀ two_ne_zero]
    exact mul_lt_mul_of_pos_right hlt hpos

/-- Digits and exponents that stand for the same number lie between the same
powers of two. -/
theorem totalExponent_congr {m n : Nat} {e f : Int} (hm : 0 < m) (hn : 0 < n)
    (h : (m : ℚ) * 2 ^ e = n * 2 ^ f) : totalExponent m e = totalExponent n f := by
  obtain ⟨hle, hlt⟩ := mem_Ico_totalExponent hm e
  obtain ⟨hle', hlt'⟩ := mem_Ico_totalExponent hn f
  rw [h] at hle hlt
  have hone := (zpow_lt_zpow_iff_right₀ one_lt_two).mp (hle.trans_lt hlt')
  have htwo := (zpow_lt_zpow_iff_right₀ one_lt_two).mp (hle'.trans_lt hlt)
  omega

theorem totalExponent_mul_two_pow {m : Nat} (hm : 0 < m) (count : Nat) (e : Int) :
    totalExponent (m * 2 ^ count) (e - count) = totalExponent m e :=
  totalExponent_congr (Nat.mul_pos hm (Nat.two_pow_pos count)) hm (mul_two_pow_mul m count e)

/-- Digits in their least form have the exponent that suits them. -/
theorem IsLeast.targetExponent {d : Nat} {k : Int} (h : IsLeast d k) :
    Format.binary64.targetExponent (totalExponent d k) = k := by
  obtain ⟨⟨hpos, hwidth, hlow⟩, hlong⟩ := h
  have hlog : d.log2 < 53 := (Nat.log2_lt (Nat.ne_of_gt hpos)).mpr hwidth
  rw [targetExponent_eq]
  unfold totalExponent
  by_cases hfew : d < 2 ^ 52
  · have := (Nat.log2_lt (Nat.ne_of_gt hpos)).mpr hfew
    have := hlong hfew
    omega
  · have := (Nat.le_log2 (Nat.ne_of_gt hpos)).mpr (Nat.not_lt.mp hfew)
    omega

/-- Digits stay as they are where their exponent suits them. -/
theorem shiftToTargetExponent_of_isLeast {d : Nat} {k : Int} (h : IsLeast d k) (count : Nat) :
    shiftToTargetExponent Format.binary64 (d * 2 ^ count) (k - count) .exact
      = (.mk d false false, k) := by
  unfold shiftToTargetExponent shiftToExponent
  dsimp only
  rw [totalExponent_mul_two_pow h.fits.1, h.targetExponent,
    show (k - (k - (count : Int))).toNat = count by omega]
  exact Prod.ext (shiftRight_mul d count) (Int.sub_add_cancel k count)

/-- Rounding them leaves them as they are, too. -/
theorem roundWithAccuracy_of_isLeast {d : Nat} {k : Int} (sign : Sign) (h : IsLeast d k)
    (count : Nat) :
    roundWithAccuracy Format.binary64 sign (d * 2 ^ count) (k - count) .exact
      = .finite sign d k h.fits.1 := by
  have hround : ∀ m e first second, shiftToTargetExponent Format.binary64 m e .exact = first →
      shiftToTargetExponent Format.binary64 first.1.roundedMantissa first.2 .exact = second →
      roundWithAccuracy Format.binary64 sign m e .exact
        = if hzero : second.1.mantissa = 0 then .zero sign
          else .finite sign second.1.mantissa second.2 (Nat.pos_of_ne_zero hzero) := by
    rintro m e _ _ rfl rfl
    rfl
  have hfirst := shiftToTargetExponent_of_isLeast h count
  have hsecond := shiftToTargetExponent_of_isLeast h 0
  rw [Nat.pow_zero, Nat.mul_one, Nat.cast_zero, Int.sub_zero] at hsecond
  rw [hround _ _ _ _ hfirst hsecond]
  exact dif_neg (Nat.ne_of_gt h.fits.1)

/-- **What a float holds is not rounded**, with whatever digits it is written. -/
theorem round_of_isLeast {m d : Nat} {e k : Int} (sign : Sign) (hm : 0 < m) (h : IsLeast d k)
    (hsame : (m : ℚ) * 2 ^ e = d * 2 ^ k) :
    UnpackedFloat.round Format.binary64 sign m e = .finite sign d k h.fits.1 := by
  obtain ⟨count, hcount⟩ : ∃ count : Nat, e - (e - k).toNat = k - count :=
    ⟨(k - e).toNat, by omega⟩
  have hdigits : m <<< (e - k).toNat = d * 2 ^ count := by
    have hmoved : ((m <<< (e - k).toNat : Nat) : ℚ) * 2 ^ (k - count)
        = ((d * 2 ^ count : Nat) : ℚ) * 2 ^ (k - count) := by
      rw [mul_two_pow_mul, ← hsame]
      rcases Int.le_total k e with hle | hle
      · rw [show k - (count : Int) = k by omega]
        exact shiftLeft_mul hle
      · rw [show (e - k).toNat = 0 by omega, show k - (count : Int) = e by omega]
        rfl
    exact Nat.cast_injective (mul_right_cancel₀ (zpow_pos two_pos _).ne' hmoved)
  have htarget : Format.binary64.targetExponent (totalExponent m e) = k := by
    rw [totalExponent_congr hm h.fits.1 hsame, h.targetExponent]
  have hround : UnpackedFloat.round Format.binary64 sign m e
      = roundWithAccuracy Format.binary64 sign (m <<< (e - k).toNat)
          (e - (e - k).toNat) .exact := by
    rw [← htarget]
    rfl
  rw [hround, hdigits, hcount]
  exact roundWithAccuracy_of_isLeast sign h count

/-! ## Differences that are not rounded -/

/-- Only so many exponents can be unpacked. -/
theorem exponent_le_of_unpack {b : BitVec Format.binary64.numBits} {s : Sign} {m : Nat} {e : Int}
    {hm : 0 < m} (h : UnpackedFloat.unpack .binary64 b = .finite s m e hm) : e ≤ 971 := by
  have hexponent : (unpackExponent b).toNat < 2048 := (unpackExponent b).isLt
  have hbias :
      ((Format.binary64.exponentBias : Int) + Format.binary64.mantissaBitsWithoutImplicit)
      = 1075 := rfl
  by_cases hall : unpackExponent b = -1#11
  · rw [show UnpackedFloat.unpack .binary64 b = _ from if_pos hall] at h
    by_cases hzero : unpackMantissa b = 0#52
    · cases h.symm.trans (if_pos hzero)
    · cases h.symm.trans (if_neg hzero)
  · have hfinite : (unpackExponent b).toNat ≠ 2047 := fun he => hall (BitVec.eq_of_toNat_eq he)
    rw [show UnpackedFloat.unpack .binary64 b = _ from if_neg hall] at h
    by_cases hlow : unpackExponent b = 0#11
    · have hnone : (unpackExponent b).toNat = 0 := congrArg BitVec.toNat hlow
      rw [if_pos hlow] at h
      by_cases hzero : unpackMantissa b = 0#52
      · cases h.symm.trans (dif_pos hzero)
      · obtain ⟨-, -, rfl⟩ := UnpackedFloat.finite.inj (h.symm.trans (dif_neg hzero))
        omega
    · obtain ⟨-, -, rfl⟩ := UnpackedFloat.finite.inj (h.symm.trans (if_neg hlow))
      omega

/-- A float that stands for a number holds what it is unpacked to. -/
theorem isHeld_unpack {b : BitVec Format.binary64.numBits} {q : ℚ}
    (h : unpackedValue? (UnpackedFloat.unpack .binary64 b) = some q) :
    IsHeld (UnpackedFloat.unpack .binary64 b) := by
  rcases unpack_cases b with hcase | hcase | hcase | ⟨d, e, hpos, hcase, hleast⟩
  · rw [hcase] at h
    cases h
  · rw [hcase] at h
    cases h
  · rw [hcase]
    exact trivial
  · rw [hcase]
    exact ⟨hleast, exponent_le_of_unpack hcase⟩

/-- Digits with a sign are rounded with it. -/
theorem normalize_apply (s : Sign) {m : Nat} (hm : 0 < m) (e : Int) :
    UnpackedFloat.normalize .binary64 (s.apply m) e .positive
      = UnpackedFloat.round .binary64 s m e := by
  unfold UnpackedFloat.normalize
  cases s with
  | negative =>
    rw [show Sign.negative.apply m = -(m : ℤ) from rfl, Int.compare_eq_lt.mpr (by omega),
      Int.neg_neg]
    rfl
  | positive =>
    rw [show Sign.positive.apply m = (m : ℤ) from rfl, Int.compare_eq_gt.mpr (by omega)]
    rfl

/-- A number other than zero has one sign. -/
theorem sign_unique {s t : Sign} {m n : Nat} {e f : Int} (hm : 0 < m) (hn : 0 < n)
    (h : ((s.apply m : ℤ) : ℚ) * 2 ^ e = (t.apply n : ℤ) * 2 ^ f) :
    s = t ∧ (m : ℚ) * 2 ^ e = n * 2 ^ f := by
  have hpos := mantissa_pos hm e
  have hpos' := mantissa_pos hn f
  cases s <;> cases t <;> simp only [apply_negative, apply_positive] at h
  · exact ⟨rfl, neg_injective h⟩
  · exact absurd (h ▸ hpos') (neg_lt_zero.mpr hpos).not_gt
  · exact absurd (h ▸ hpos) (neg_lt_zero.mpr hpos').not_gt
  · exact ⟨rfl, h⟩

/-- **Digits that stand for what a float holds** are rounded to it. -/
theorem normalize_of_isHeld {digits : Int} {e : Int} {u : UnpackedFloat} (hu : IsHeld u)
    (h : unpackedValue? u = some ((digits : ℚ) * 2 ^ e)) :
    IsHeld (UnpackedFloat.normalize .binary64 digits e .positive)
      ∧ unpackedValue? (UnpackedFloat.normalize .binary64 digits e .positive)
        = some ((digits : ℚ) * 2 ^ e) := by
  by_cases hzero : digits = 0
  · rw [hzero, Int.cast_zero, zero_mul]
    exact ⟨trivial, rfl⟩
  obtain ⟨s, m, hm, rfl⟩ : ∃ (s : Sign) (m : Nat), 0 < m ∧ digits = s.apply m := by
    rcases Int.lt_or_gt_of_ne hzero with hneg | hpos
    · exact ⟨.negative, digits.natAbs, by omega, by show _ = -(digits.natAbs : ℤ); omega⟩
    · exact ⟨.positive, digits.natAbs, by omega, by show _ = (digits.natAbs : ℤ); omega⟩
  cases u with
  | notANumber => exact hu.elim
  | infinity t => exact hu.elim
  | zero t =>
    have hvalue := Option.some.inj h
    exact absurd (mul_eq_zero.mp hvalue.symm)
      (not_or.mpr ⟨Int.cast_ne_zero.mpr hzero, (zpow_pos two_pos _).ne'⟩)
  | finite t d k hd =>
    obtain ⟨rfl, hsame⟩ := sign_unique hd hm (Option.some.inj h)
    rw [normalize_apply t hm, round_of_isLeast t hm hu.1 hsame.symm]
    exact ⟨hu, h⟩

/-- Two numbers are subtracted at the lesser of their exponents. -/
theorem apply_sub_apply (s t : Sign) (m n : Nat) (e f : Int) :
    ((s.apply (m <<< (e - min e f).toNat : Nat)
        - t.apply (n <<< (f - min e f).toNat : Nat) : ℤ) : ℚ) * 2 ^ min e f
      = (s.apply m : ℤ) * 2 ^ e - (t.apply n : ℤ) * 2 ^ f := by
  have hm := shiftLeft_mul (m := m) (Int.min_le_left e f)
  have hn := shiftLeft_mul (m := n) (Int.min_le_right e f)
  rw [Int.cast_sub, sub_mul]
  cases s <;> cases t <;> simp only [apply_negative, apply_positive, hm, hn]

/-- **A difference that a float stands for is not rounded.** -/
theorem Stands.sub {x y z : Float} {p q : ℚ} (hp : Stands x p) (hq : Stands y q)
    (hz : Stands z (p - q)) : Stands (x - y) (p - q) := by
  have hdiff : (x - y).toModel
      = .pack (UnpackedFloat.sub .binary64 x.toModel.unpack y.toModel.unpack) := rfl
  unfold Stands at hp hq hz
  rw [value?_read] at hp hq hz
  have hx := isHeld_unpack hp
  have hy := isHeld_unpack hq
  have hheld := isHeld_unpack hz
  change IsHeld x.toModel.unpack at hx
  change IsHeld y.toModel.unpack at hy
  change IsHeld z.toModel.unpack at hheld
  suffices h : IsHeld (UnpackedFloat.sub .binary64 x.toModel.unpack y.toModel.unpack)
      ∧ unpackedValue? (UnpackedFloat.sub .binary64 x.toModel.unpack y.toModel.unpack)
        = some (p - q) from h.1.stands hdiff h.2
  generalize x.toModel.unpack = u at *
  generalize y.toModel.unpack = v at *
  generalize z.toModel.unpack = w at *
  cases u with
  | notANumber => exact hx.elim
  | infinity s => exact hx.elim
  | zero s =>
    obtain rfl := Option.some.inj hp
    cases v with
    | notANumber => exact hy.elim
    | infinity t => exact hy.elim
    | zero t =>
      obtain rfl := Option.some.inj hq
      rw [sub_zero]
      show IsHeld (if _ then _ else _) ∧ unpackedValue? (if _ then _ else _) = _
      split <;> exact ⟨trivial, rfl⟩
    | finite t n f hn =>
      obtain rfl := Option.some.inj hq
      refine ⟨hy, congrArg some ?_⟩
      rw [zero_sub]
      cases t with
      | negative =>
        rw [show (-Sign.negative) = Sign.positive from rfl, apply_negative,
          apply_positive, neg_neg]
      | positive =>
        rw [show (-Sign.positive) = Sign.negative from rfl, apply_negative, apply_positive]
  | finite s m e hm =>
    cases v with
    | notANumber => exact hy.elim
    | infinity t => exact hy.elim
    | zero t =>
      obtain rfl := Option.some.inj hq
      rw [sub_zero]
      exact ⟨hx, hp⟩
    | finite t n f hn =>
      obtain rfl := Option.some.inj hp
      obtain rfl := Option.some.inj hq
      rw [← apply_sub_apply] at hz ⊢
      exact normalize_of_isHeld hheld hz

/-! ## Numbers that floats stand for -/

/-- **Few digits with an exponent in between** are what a float stands for. -/
theorem exists_stands {m : Nat} (hm : m < 2 ^ 53) {e : Int} (hlow : -1074 ≤ e)
    (hhigh : e ≤ 971) :
    ∃ z, Stands z (m * 2 ^ e) := by
  rcases Nat.eq_zero_or_pos m with rfl | hpos
  · refine ⟨.ofModel (.pack (.zero .positive)),
      IsHeld.stands (u := .zero .positive) trivial rfl ?_⟩
    rw [Nat.cast_zero, zero_mul]
    rfl
  · have hlog : m.log2 < 53 := (Nat.log2_lt (Nat.ne_of_gt hpos)).mpr hm
    -- there is room for so many zeros: up to the bound for digits, or to that for exponents
    obtain ⟨count, hcount⟩ : ∃ count : Nat, (count : ℤ) = min (52 - (m.log2 : ℤ)) (e + 1074) :=
      ⟨(min (52 - (m.log2 : ℤ)) (e + 1074)).toNat, by omega⟩
    have hpos' : 0 < m * 2 ^ count := Nat.mul_pos hpos (Nat.two_pow_pos count)
    have hdigits : (m * 2 ^ count).log2 = m.log2 + count := by
      have hsame := totalExponent_mul_two_pow hpos count e
      unfold totalExponent at hsame
      omega
    have hleast : IsLeast (m * 2 ^ count) (e - count) := by
      refine ⟨⟨hpos', (Nat.log2_lt (Nat.ne_of_gt hpos')).mp (by omega), by omega⟩,
        fun hfew => ?_⟩
      have := (Nat.log2_lt (Nat.ne_of_gt hpos')).mpr hfew
      omega
    refine ⟨.ofModel (.pack (.finite .positive _ _ hpos')),
      IsHeld.stands (u := .finite .positive _ _ hpos') ⟨hleast, by omega⟩ rfl ?_⟩
    rw [unpackedValue?_finite, apply_positive, mul_two_pow_mul]

/-- **Whole numbers can be taken off a float**, one that is not too large, as
long as enough is left. -/
theorem Stands.exists_sub_natCast {x : Float} {q : ℚ} (hx : Stands x q)
    (hq : q < 2 ^ 53) {n : Nat}
    (hn : (n : ℚ) ≤ q) : ∃ z, Stands z (q - n) := by
  have hheld : IsHeld x.toModel.unpack := isHeld_unpack (by rw [← hx, value?_read]; rfl)
  have hvalue : unpackedValue? x.toModel.unpack = some q := by rw [← hx, value?_read]
  generalize x.toModel.unpack = u at hheld hvalue
  cases u with
  | notANumber => exact hheld.elim
  | infinity s => exact hheld.elim
  | zero s =>
    obtain rfl := Option.some.inj hvalue
    rw [show (n : ℚ) = 0 from le_antisymm hn (Nat.cast_nonneg n), sub_zero]
    exact ⟨x, hx⟩
  | finite s m e hm =>
    obtain rfl := Option.some.inj hvalue
    obtain ⟨hleast, hsmall⟩ := hheld
    have hpos := mantissa_pos hm e
    cases s with
    | negative =>
      rw [apply_negative] at hn
      exact absurd (hn.trans_lt (neg_lt_zero.mpr hpos)) (Nat.cast_nonneg n).not_gt
    | positive =>
      rw [apply_positive] at hn hq ⊢
      obtain ⟨count, rfl⟩ : ∃ count : Nat, e = -count := by
        refine ⟨e.natAbs, ?_⟩
        by_contra hlarge
        have hexponent : 1 ≤ e := by omega
        have hmany : 2 ^ 52 ≤ m := Nat.not_lt.mp fun hfew => by
          have := hleast.long hfew
          omega
        have hlarge' : (2 : ℚ) ^ 52 * 2 ^ (1 : ℤ) ≤ m * 2 ^ e :=
          mul_le_mul (by exact_mod_cast hmany) (zpow_le_zpow_right₀ one_le_two hexponent)
            (zpow_pos two_pos _).le (Nat.cast_nonneg m)
        exact hq.not_ge (le_trans (by norm_num) hlarge')
      have hwhole := mul_two_pow_mul n count 0
      rw [zero_sub, zpow_zero, mul_one] at hwhole
      rw [← hwhole] at hn ⊢
      have hle : n * 2 ^ count ≤ m :=
        Nat.cast_le.mp (le_of_mul_le_mul_right hn (zpow_pos two_pos _))
      rw [← sub_mul, ← Nat.cast_sub hle]
      exact exists_stands (Nat.lt_of_le_of_lt (Nat.sub_le _ _) hleast.fits.2.1) hleast.fits.2.2
        (by omega)

end Listening.Number
