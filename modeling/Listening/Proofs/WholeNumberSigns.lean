import Listening.Proofs.FloatValues

/-!
# The sign of a whole number

A whole number of seconds becomes a float and keeps its sign, however much of it
is rounded (`Number.ofInt_lt_zero_iff`): it may become an infinity, but never
zero, and never a number on the other side of it.

The way there is the one that decimals take in general, a quotient by a power of
ten or a product with one. `IsPlus` is what it has to keep.
-/

namespace Listening.Number

open Float.Model Float.Model.UnpackedFloat

/-- **Whether a number is above zero**, an infinity included. -/
def IsPlus : UnpackedFloat → Prop
  | .infinity .positive => True
  | .finite .positive _ _ _ => True
  | _ => False

/-! ## Packing what is above zero -/

/-- The parts of a packed number do not depend on its sign. -/
theorem exists_pack_finite (m : Nat) (e : Int) (hm : 0 < m) :
    ∃ exponent digits, ∀ s : Sign, UnpackedFloat.pack .binary64 (.finite s m e hm)
      = packComponents .binary64 s exponent digits := by
  unfold UnpackedFloat.pack
  dsimp only
  split
  · exact ⟨_, _, fun _ => rfl⟩
  · split
    · exact ⟨_, _, fun _ => rfl⟩
    · exact ⟨_, _, fun _ => rfl⟩

/-- **A number above zero is packed as one.** -/
theorem isPlus_unpack_pack {m : Nat} {e : Int} (hm : 0 < m) (h : Fits m e) :
    IsPlus (UnpackedFloat.unpack .binary64 (UnpackedFloat.pack .binary64
      (.finite .positive m e hm))) := by
  obtain ⟨exponent, digits, hpack⟩ := exists_pack_finite m e hm
  -- it has the parts of a negative number, of which this is known
  have hneg := IsNegative.lt_zero (x := .finite .negative m e hm) h
  rw [hpack, unpack_packComponents] at hneg ⊢
  by_cases hinfinite : exponent = -1#11
  · rw [if_pos hinfinite] at hneg ⊢
    by_cases hzero : digits = 0#52
    · rw [if_pos hzero]
      trivial
    · rw [if_neg hzero] at hneg
      exact nomatch hneg
  · rw [if_neg hinfinite] at hneg ⊢
    by_cases hsmall : exponent = 0#11
    · rw [if_pos hsmall] at hneg ⊢
      by_cases hzero : digits = 0#52
      · rw [dif_pos hzero] at hneg
        exact nomatch hneg
      · rw [dif_neg hzero]
        trivial
    · rw [if_neg hsmall]
      trivial

/-! ## Quotients and products -/

/-- The digits of a quotient by one, with its exponent. -/
theorem divCore_one {m : Nat} {e : Int} (h : IsLeast m e) :
    ∃ digits exponent accuracy,
      divCore .binary64 m e (2 ^ 52) (-52) = (digits, exponent, accuracy)
      ∧ 0 < digits ∧ -1074 ≤ exponent := by
  obtain ⟨hpos, -, hlow⟩ := h.fits
  refine ⟨_, _, _, rfl, Nat.div_pos ?_ (Nat.two_pow_pos 52), ?_⟩
  · rw [Nat.shiftLeft_eq]
    by_cases hlong : 2 ^ 52 ≤ m
    · exact Nat.le_trans hlong (Nat.le_mul_of_pos_right m (Nat.two_pow_pos _))
    · -- few digits have the least exponent, which the quotient has then as well
      obtain rfl := h.long (Nat.not_le.mp hlong)
      have hlog : m.log2 < 52 :=
        (Nat.log2_lt (Nat.ne_of_gt hpos)).mpr (Nat.not_le.mp hlong)
      have hone : totalExponent (2 ^ 52) (-52) = 1 := by decide
      rw [targetExponent_eq, hone]
      unfold totalExponent
      refine Nat.le_trans ?_ (Nat.le_mul_of_pos_left _ hpos)
      exact Nat.pow_le_pow_right (by decide) (by omega)
  · rw [targetExponent_eq]
    omega

/-- **A float above zero divided by one** is above zero. -/
theorem isPlus_div_one {x y : Float} (hx : IsPlus x.toModel.unpack)
    (hy : y.toModel.unpack = .finite .positive (2 ^ 52) (-52) (by decide)) :
    IsPlus (x / y).toModel.unpack := by
  have hcanonical := isCanonical_unpack x.toModel.toBits.toBitVec
  change IsCanonical x.toModel.unpack at hcanonical
  show IsPlus (UnpackedFloat.unpack .binary64 (UnpackedFloat.pack .binary64
    (UnpackedFloat.div .binary64 x.toModel.unpack y.toModel.unpack)))
  rw [hy]
  generalize x.toModel.unpack = u at hx hcanonical
  cases u with
  | notANumber => exact hx.elim
  | zero s => exact hx.elim
  | infinity s =>
    cases s with
    | negative => exact hx.elim
    | positive => trivial
  | finite s m e hm =>
    cases s with
    | negative => exact hx.elim
    | positive =>
      obtain ⟨digits, exponent, accuracy, hdiv, hpos, hlow⟩ := divCore_one hcanonical
      obtain ⟨digits', exponent', hpos', hround, hfits⟩ :=
        exists_roundWithAccuracy .positive hpos hlow accuracy
      have hquotient : UnpackedFloat.div .binary64 (.finite .positive m e hm)
          (.finite .positive (2 ^ 52) (-52) (by decide))
            = .finite .positive digits' exponent' hpos' := by
        unfold UnpackedFloat.div
        dsimp only
        rw [hdiv]
        exact hround
      rw [hquotient]
      exact isPlus_unpack_pack hpos' hfits

/-! ## Whole numbers -/

/-- **Few digits are a number above zero**, unless they are none. -/
theorem isPlus_toFloat {n : Nat} (hpos : 0 < n) (hsmall : n < 2 ^ 53) :
    IsPlus n.toUInt64.toFloat.toModel.unpack := by
  have hnat : n.toUInt64.toNat = n := by
    rw [Nat.toUInt64_eq, UInt64.toNat_ofNat']
    omega
  obtain ⟨digits, exponent, hdigits, hround, hfits⟩ :=
    exists_round .positive hpos (show (-1074 : Int) ≤ 0 by decide)
  have hunpacked : UnpackedFloat.ofUInt64 .binary64 n.toUInt64
      = .finite .positive digits exponent hdigits := by
    unfold UnpackedFloat.ofUInt64 UnpackedFloat.ofNat UnpackedFloat.ofInt UnpackedFloat.normalize
    rw [hnat, Int.compare_eq_gt.mpr (Int.natCast_pos.mpr hpos)]
    exact hround
  show IsPlus (UnpackedFloat.unpack .binary64 (UnpackedFloat.pack .binary64
    (UnpackedFloat.ofUInt64 .binary64 n.toUInt64)))
  rw [hunpacked]
  exact isPlus_unpack_pack hdigits hfits

/-- The least power of ten that floats are divided by is one. -/
theorem unpack_power_zero :
    (getElem Float.exactlyRepresentablePowersOfTen 0 (by decide)).toModel.unpack
      = .finite .positive (2 ^ 52) (-52) (by decide) := rfl

/-- **A whole number above zero becomes a float above zero**, if not a finite
one. -/
theorem isPlus_ofScientific {n : Nat} (hpos : 0 < n) :
    IsPlus (Float.ofScientific n true 0).toModel.unpack := by
  unfold Float.ofScientific
  by_cases hsmall : n < 2 ^ 53
  · rw [dif_pos ⟨hsmall, by decide⟩]
    exact isPlus_div_one (isPlus_toFloat hpos hsmall) unpack_power_zero
  · rw [dif_neg fun h => hsmall h.1]
    have hshifted : 0 < n <<< 53 * 10 ^ 0 := by
      rw [Nat.shiftLeft_eq]
      exact Nat.mul_pos (Nat.mul_pos hpos (Nat.two_pow_pos 53)) (by decide)
    obtain ⟨digits, exponent, hdigits, hround, hfits⟩ :=
      exists_roundWithAccuracy .positive hshifted (show (-1074 : Int) ≤ -53 + 0 by decide) .exact
    have hunpacked : UnpackedFloat.ofScientific .binary64 n 0
        = .finite .positive digits exponent hdigits := by
      unfold UnpackedFloat.ofScientific
      have hsmallest : ¬ (0 : Int) < -(2 ^ 11 + n.log2) := by omega
      rw [dif_neg (Nat.ne_of_gt hpos), if_neg (by decide), if_neg hsmallest, if_pos (by decide)]
      exact hround
    show IsPlus (UnpackedFloat.unpack .binary64 (UnpackedFloat.pack .binary64
      (UnpackedFloat.ofScientific .binary64 n 0)))
    rw [hunpacked]
    exact isPlus_unpack_pack hdigits hfits

/-- What is above zero is not below. -/
theorem IsPlus.not_lt_zero {x : Float} (h : IsPlus x.toModel.unpack) : ¬ x < 0 := by
  rw [lt_iff_compare]
  show UnpackedFloat.compare x.toModel.unpack (.zero .positive) ≠ _
  generalize x.toModel.unpack = u at h
  cases u with
  | notANumber => exact h.elim
  | zero s => exact h.elim
  | infinity s =>
    cases s with
    | negative => exact h.elim
    | positive => exact fun hlt => nomatch hlt
  | finite s m e hm =>
    cases s with
    | negative => exact h.elim
    | positive => exact fun hlt => nomatch hlt

/-- What is above zero is not at most a number below it. -/
theorem IsPlus.not_le {x y : Float} (h : IsPlus x.toModel.unpack) {q : ℚ} (hy : Stands y q)
    (hneg : q < 0) : ¬ x ≤ y := by
  unfold Stands at hy
  rw [value?_read] at hy
  show ¬ decide (x.toModel ≤ y.toModel) = true
  rw [decide_eq_true_iff]
  show ¬ (x.toModel.unpack.compare y.toModel.unpack).any (·.isLE) = true
  generalize x.toModel.unpack = u at h
  generalize y.toModel.unpack = v at hy
  cases v with
  | notANumber => exact nomatch hy
  | infinity t => exact nomatch hy
  | zero t =>
    obtain rfl := Option.some.inj hy
    exact absurd hneg (lt_irrefl 0)
  | finite t n f hn =>
    obtain rfl := Option.some.inj hy
    cases t with
    | positive => exact absurd hneg (by rw [apply_positive]; exact (mantissa_pos hn f).not_gt)
    | negative =>
      cases u with
      | notANumber => exact h.elim
      | zero s => exact h.elim
      | infinity s =>
        cases s with
        | negative => exact h.elim
        | positive => exact Bool.false_ne_true
      | finite s m e hm =>
        cases s with
        | negative => exact h.elim
        | positive => exact Bool.false_ne_true

/-- The negation of what is above zero is below. -/
theorem IsPlus.neg_lt_zero {x : Float} (h : IsPlus x.toModel.unpack) : -x < 0 := by
  have hcanonical := isCanonical_unpack x.toModel.toBits.toBitVec
  change IsCanonical x.toModel.unpack at hcanonical
  have hnegative : IsNegative x.toModel.unpack.neg := by
    generalize x.toModel.unpack = u at h hcanonical
    cases u with
    | notANumber => exact h.elim
    | zero s => exact h.elim
    | infinity s =>
      cases s with
      | negative => exact h.elim
      | positive => trivial
    | finite s m e hm =>
      cases s with
      | negative => exact h.elim
      | positive => exact hcanonical.fits
  rw [lt_iff_compare]
  exact hnegative.lt_zero

/-- **A whole number keeps its sign as a float.** -/
theorem ofInt_lt_zero_iff (n : Int) : ofInt n < 0 ↔ n < 0 := by
  unfold ofInt ofDecimal
  cases n with
  | ofNat n =>
    refine iff_of_false ?_ (Int.not_lt.mpr (Int.natCast_nonneg n))
    rcases Nat.eq_zero_or_pos n with rfl | hpos
    · decide
    · exact (isPlus_ofScientific hpos).not_lt_zero
  | negSucc n =>
    exact iff_of_true (isPlus_ofScientific (Nat.succ_pos n)).neg_lt_zero (Int.negSucc_lt_zero n)

/-- A whole number that is not negative is not at most a number below zero. -/
theorem not_ofInt_le {n : Int} (hn : 0 ≤ n) {y : Float} {q : ℚ} (hy : Stands y q)
    (hneg : q < 0) : ¬ ofInt n ≤ y := by
  obtain ⟨n, rfl⟩ := Int.eq_ofNat_of_zero_le hn
  rcases Nat.eq_zero_or_pos n with rfl | hpos
  · have hzero : Stands (ofInt (0 : ℕ)) 0 := by
      unfold Stands
      decide +kernel
    rw [hzero.le_iff hy]
    exact hneg.not_ge
  · exact (isPlus_ofScientific hpos).not_le hy hneg

/-! ## Microseconds -/

/-- Rounding keeps the sign, whatever was cut off before. -/
theorem isUpper_roundWithAccuracy (digits : Nat) (exponent : Int) (accuracy : Accuracy) :
    IsUpper (roundWithAccuracy .binary64 .positive digits exponent accuracy) := by
  rcases roundWithAccuracy_cases .positive digits exponent accuracy with
    hround | ⟨_, _, _, hround⟩
  all_goals
    rw [hround]
    trivial

/-- **A quotient of numbers above zero is not below it.** It may be zero. -/
theorem isUpper_div {x : UnpackedFloat} (hx : IsPlus x) {m : Nat} {e : Int} (hm : 0 < m) :
    IsUpper (UnpackedFloat.div .binary64 x (.finite .positive m e hm)) := by
  cases x with
  | notANumber => exact hx.elim
  | zero s => exact hx.elim
  | infinity s =>
    cases s with
    | negative => exact hx.elim
    | positive => trivial
  | finite s n f hn =>
    cases s with
    | negative => exact hx.elim
    | positive => exact isUpper_roundWithAccuracy _ _ _

/-- Digits before a power of ten are never below zero. -/
theorem isUpper_ofScientific (n : Nat) (e : Int) :
    IsUpper (UnpackedFloat.ofScientific .binary64 n e) := by
  unfold UnpackedFloat.ofScientific
  by_cases hn : n = 0
  · rw [dif_pos hn]
    trivial
  rw [dif_neg hn]
  by_cases hgreat : e > 2 ^ Format.binary64.exponentBits
  · rw [if_pos hgreat]
    trivial
  rw [if_neg hgreat]
  by_cases hsmall : e < -(2 ^ Format.binary64.exponentBits + n.log2)
  · rw [if_pos hsmall]
    trivial
  rw [if_neg hsmall]
  by_cases hwhole : 0 ≤ e
  · rw [if_pos hwhole]
    exact isUpper_roundWithAccuracy _ _ _
  · rw [if_neg hwhole]
    have hpos : IsPlus (.finite .positive n 0 (Nat.pos_of_ne_zero hn)) := trivial
    exact isUpper_div hpos _

/-- The power of ten that makes seconds of microseconds. -/
theorem unpack_power_six :
    (getElem Float.exactlyRepresentablePowersOfTen 6 (by decide)).toModel.unpack
      = .finite .positive (15625 * 2 ^ 39) (-33) (by decide) := rfl

/-- **A span that is not negative is no negative number of seconds.** -/
theorem not_seconds_lt_zero {span : Int} (h : 0 ≤ span) : ¬ Instant.seconds span < 0 := by
  obtain ⟨n, rfl⟩ := Int.eq_ofNat_of_zero_le h
  show ¬ Float.ofScientific n true 6 < 0
  rw [lt_iff_compare]
  unfold Float.ofScientific
  by_cases hsmall : n < 2 ^ 53
  · rw [dif_pos ⟨hsmall, by decide⟩]
    show (UnpackedFloat.unpack .binary64 (UnpackedFloat.pack .binary64
      (UnpackedFloat.div .binary64 n.toUInt64.toFloat.toModel.unpack
        (getElem Float.exactlyRepresentablePowersOfTen 6
          (by decide)).toModel.unpack))).compare _ ≠ _
    rw [unpack_power_six]
    refine IsUpper.not_lt_zero ?_
    rcases Nat.eq_zero_or_pos n with rfl | hpos
    · trivial
    · exact isUpper_div (isPlus_toFloat hpos hsmall) _
  · rw [dif_neg fun h => hsmall h.1]
    exact (isUpper_ofScientific n _).not_lt_zero

end Listening.Number
