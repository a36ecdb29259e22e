import Listening.Proofs.FloatValues
import Listening.Proofs.TypedPlays
import Listening.Settings

/-!
# Settings that get past their bounds

A setting that is a number has bounds, and what an environment says of it is held
against them. Whatever text stands there, it is refused as a bad value, or is within
the bounds – but for two.

What is no number is neither below a bound nor above one, so it passes
(`Settings.Bounded.admits_iff`). And there is no greatest number of retries, so that
an infinity passes, of which there is no whole part then: that is an error, but not
of a bad value. `Settings.refused_or_inBounds_iff` says that these are the only ways
to get past (`Settings.Evades`).
-/

namespace Listening

namespace Number

open Float.Model Float.Model.UnpackedFloat

/-! ## What is no number -/

/-- The bits of what is no number. -/
theorem unpack_eq_notANumber_iff (b : BitVec Format.binary64.numBits) :
    UnpackedFloat.unpack .binary64 b = .notANumber
      ↔ b.toNat / 2 ^ 52 % 2048 = 2047 ∧ b.toNat % 2 ^ 52 ≠ 0 := by
  rw [← toNat_unpackExponent, ← toNat_unpackMantissa]
  have hall : unpackExponent b = -1#11 ↔ (unpackExponent b).toNat = 2047 :=
    BitVec.toNat_inj.symm
  have hempty : unpackMantissa b = 0#52 ↔ (unpackMantissa b).toNat = 0 := BitVec.toNat_inj.symm
  rw [← hall, Ne, ← hempty]
  unfold UnpackedFloat.unpack
  dsimp only
  by_cases hexponent : unpackExponent b = -1#11
  · rw [if_pos hexponent]
    by_cases hmantissa : unpackMantissa b = 0#52
    · rw [if_pos hmantissa]
      exact iff_of_false (fun h => nomatch h) fun h => h.2 hmantissa
    · rw [if_neg hmantissa]
      exact iff_of_true rfl ⟨hexponent, hmantissa⟩
  · rw [if_neg hexponent]
    refine iff_of_false ?_ fun h => hexponent h.1
    by_cases hlow : unpackExponent b = 0#11
    · rw [if_pos hlow]
      by_cases hmantissa : unpackMantissa b = 0#52
      · rw [dif_pos hmantissa]
        exact fun h => nomatch h
      · rw [dif_neg hmantissa]
        exact fun h => nomatch h
    · rw [if_neg hlow]
      exact fun h => nomatch h

/-- **What is no number** is unpacked as that. -/
theorem read_eq_undefined_iff {x : Float} :
    read x = .undefined ↔ x.toModel.unpack = .notANumber := by
  refine Iff.trans ?_ (unpack_eq_notANumber_iff x.toModel.toBits.toBitVec).symm
  show _ ↔ x.toBits.toNat / 2 ^ 52 % 2048 = 2047 ∧ x.toBits.toNat % 2 ^ 52 ≠ 0
  have hpow : ∀ n, twoTo n = 2 ^ n := fun _ => rfl
  unfold read
  dsimp only
  rw [hpow, hpow]
  by_cases hexponent : x.toBits.toNat / 2 ^ 52 % 2048 = 2047
  · rw [if_pos hexponent]
    by_cases hmantissa : x.toBits.toNat % 2 ^ 52 = 0
    · rw [if_pos hmantissa]
      exact iff_of_false (fun h => nomatch h) fun h => h.2 hmantissa
    · rw [if_neg hmantissa]
      exact iff_of_true rfl ⟨hexponent, hmantissa⟩
  · rw [if_neg hexponent]
    refine iff_of_false ?_ fun h => hexponent h.1
    split <;> exact fun h => nomatch h

/-- Two floats compare as they do unpacked. -/
theorem le_iff_compare {x y : Float} :
    x ≤ y ↔ (x.toModel.unpack.compare y.toModel.unpack).any (·.isLE) = true := by
  show decide (x.toModel ≤ y.toModel) = true ↔ _
  rw [decide_eq_true_iff]
  rfl

/-- Turned around, a comparison is turned around. -/
theorem compare_swap (x y : UnpackedFloat) : (x.compare y).map Ordering.swap = y.compare x := by
  cases x with
  | notANumber => cases y <;> rfl
  | infinity s =>
    cases y with
    | notANumber => cases s <;> rfl
    | infinity t => cases s <;> cases t <;> rfl
    | zero | finite => cases s <;> rfl
  | zero s =>
    cases y with
    | notANumber | zero => rfl
    | infinity t | finite t => cases t <;> rfl
  | finite s m e hm =>
    cases y with
    | notANumber => cases s <;> rfl
    | infinity t => cases s <;> cases t <;> rfl
    | zero t => cases s <;> rfl
    | finite t n f hn =>
      have hthen :
          ((compare e f).then (compare m n)).swap = (compare f e).then (compare n m) := by
        rw [Ordering.swap_then, Int.compare_swap, Nat.compare_swap]
      cases s with
      | negative =>
        cases t with
        | negative =>
          show some (((compare e f).then (compare m n)).swap).swap
            = some ((compare f e).then (compare n m)).swap
          rw [hthen]
        | positive => rfl
      | positive =>
        cases t with
        | negative => rfl
        | positive => exact congrArg some hthen

/-- Only what is no number cannot be compared. -/
theorem exists_compare {x y : UnpackedFloat} (hx : x ≠ .notANumber) (hy : y ≠ .notANumber) :
    ∃ o, x.compare y = some o := by
  cases x with
  | notANumber => exact absurd rfl hx
  | infinity s =>
    cases y with
    | notANumber => exact absurd rfl hy
    | infinity t => exact ⟨_, rfl⟩
    | zero | finite => cases s <;> exact ⟨_, rfl⟩
  | zero s =>
    cases y with
    | notANumber => exact absurd rfl hy
    | zero => exact ⟨_, rfl⟩
    | infinity t | finite t => cases t <;> exact ⟨_, rfl⟩
  | finite s m e hm =>
    cases y with
    | notANumber => exact absurd rfl hy
    | zero => cases s <;> exact ⟨_, rfl⟩
    | infinity t | finite t => cases s <;> cases t <;> exact ⟨_, rfl⟩

/-- **Of two numbers, the one that is not below the other is at least as great.** -/
theorem le_of_not_lt {x y : Float} (hx : read x ≠ .undefined) (hy : read y ≠ .undefined)
    (h : ¬ x < y) : y ≤ x := by
  rw [Ne, read_eq_undefined_iff] at hx hy
  rw [lt_iff_compare] at h
  rw [le_iff_compare, ← compare_swap]
  obtain ⟨o, ho⟩ := exists_compare hx hy
  rw [ho] at h ⊢
  cases o with
  | lt => exact absurd rfl h
  | eq | gt => rfl

/-- What can be compared is a number. -/
theorem defined_of_le {x y : Float} (h : x ≤ y) : read x ≠ .undefined ∧ read y ≠ .undefined := by
  rw [le_iff_compare] at h
  rw [Ne, Ne, read_eq_undefined_iff, read_eq_undefined_iff]
  constructor
  · intro hx
    rw [hx] at h
    exact nomatch h
  · intro hy
    rw [hy, ← compare_swap] at h
    exact nomatch h

end Number

/-! ## Whole parts -/

/-- **The whole part of what is not below zero** is not below zero. -/
theorem Amount.wholeOf?_nonneg {x : Float} {n : Int} (hx : ¬ x < 0) (h : wholeOf? x = .ok n) :
    0 ≤ n := by
  unfold wholeOf? at h
  cases hread : Number.read x with
  | undefined =>
    rw [hread] at h
    exact nomatch h
  | infinite negative =>
    rw [hread] at h
    exact nomatch h
  | finite negative mantissa exponent =>
    rw [hread] at h
    obtain rfl := Except.ok.inj h
    cases negative with
    | false => exact Int.natCast_nonneg _
    | true =>
      -- only zero has a sign and is not below zero
      have hdefined : Number.read x ≠ .undefined := hread ▸ fun h => nomatch h
      have hle : (0 : Float) ≤ x := Number.le_of_not_lt hdefined (by decide +kernel) hx
      have hvalue := Number.value?_finite true mantissa exponent
      rw [← hread, if_pos rfl] at hvalue
      have hzero : Number.Stands 0 0 := by
        show _ = _
        decide +kernel
      have hnonneg := (Number.Stands.le_iff hzero hvalue).mp hle
      rw [neg_mul, neg_nonneg] at hnonneg
      obtain rfl : mantissa = 0 := by
        refine Nat.eq_zero_of_not_pos fun hpos => ?_
        exact hnonneg.not_gt (Number.mantissa_pos hpos exponent)
      have hnothing : (Number.fraction 0 exponent).1 = 0 := by
        unfold Number.fraction
        split
        · exact Nat.zero_mul _
        · rfl
      show 0 ≤ -(((Number.fraction 0 exponent).1 / (Number.fraction 0 exponent).2 : Nat) : Int)
      rw [hnothing, Nat.zero_div]
      exact Int.le_refl 0

namespace Settings

/-! ## Bounds -/

namespace Bounded

/-- **Whether a number keeps the bounds of a setting.** What is no number keeps
none. -/
def Admits (b : Bounded) (x : Float) : Prop := b.least ≤ x ∧ ∀ most ∈ b.most, x ≤ most

instance (b : Bounded) (x : Float) : Decidable (b.Admits x) :=
  inferInstanceAs (Decidable (b.least ≤ x ∧ ∀ most ∈ b.most, x ≤ most))

theorem Admits.defined {b : Bounded} {x : Float} (h : b.Admits x) : Number.read x ≠ .undefined :=
  (Number.defined_of_le h.1).2

/-- **A setting that is read keeps its bounds, if it is a number.** -/
theorem admits_iff {b : Bounded} {env : Environment} {x : Float} (hdefault : b.Admits b.default)
    (h : b.read? env = .ok x) : b.Admits x ↔ Number.read x ≠ .undefined := by
  refine ⟨Admits.defined, fun hdefined => ?_⟩
  rcases eq_default_or_within_of_read? h with rfl | ⟨hbelow, habove⟩
  · exact hdefault
  · obtain ⟨hleast, hmost⟩ := hdefault
    refine ⟨?_, fun most hmem => ?_⟩
    · exact Number.le_of_not_lt hdefined (Number.defined_of_le hleast).1
        (of_decide_eq_false hbelow)
    · have hnot : ¬ most < x := of_decide_eq_false (habove most hmem)
      exact Number.le_of_not_lt (Number.defined_of_le (hmost most hmem)).2 hdefined hnot

end Bounded

/-- **The settings that are numbers**, with their bounds, but for the number of
retries. -/
def bounded : List Bounded :=
  [interval, discoveryInterval, listenedDuration, listenedPercent, closeAbsolute, closePercent,
    repeatAbsolute, repeatPercent, drift, stale, orphaned]

/-- Every default keeps its bounds. -/
theorem admits_default : ∀ b ∈ bounded, b.Admits b.default := by decide +kernel

/-- What the settings that are numbers are set to. -/
def numbers (s : Settings) : List (Bounded × Option Float) :=
  [(interval, s.pace.interval), (discoveryInterval, s.discovery),
    (listenedDuration, s.listened.duration), (listenedPercent, s.listened.percent),
    (closeAbsolute, s.limits.positions.closeAbsolute),
    (closePercent, s.limits.positions.closePercent),
    (repeatAbsolute, s.limits.positions.repeatAbsolute),
    (repeatPercent, s.limits.positions.repeatPercent), (drift, s.limits.drift),
    (stale, s.limits.stale), (orphaned, s.limits.orphaned)]

theorem map_fst_numbers (s : Settings) : s.numbers.map (·.1) = bounded := rfl

/-- **Whether every setting that is a number keeps its bounds.** -/
structure InBounds (s : Settings) : Prop where
  /-- They are numbers, neither too small nor too great. -/
  numbers : ∀ n ∈ s.numbers, ∃ x, n.2 = some x ∧ n.1.Admits x
  /-- The number of retries is not negative. -/
  retries : 0 ≤ s.pace.retries

/-! ## Reading all of them -/

/-- **Where the numbers of settings come from.** -/
structure ReadFrom (env : Environment) (s : Settings) : Prop where
  /-- Each is what its variable says. -/
  numbers : ∀ n ∈ s.numbers, ∃ x, n.2 = some x ∧ n.1.read? env = .ok x
  /-- The number of retries is the whole part of what its variable says. -/
  retries : ∃ x, retries.read? env = .ok x ∧ Amount.wholeOf? x = .ok s.pace.retries

/-- Access is looked at before anything else. -/
theorem ofEnvironment?_true (env : Environment) :
    ofEnvironment? env true = (checkAccess? env).bind fun _ => ofEnvironment? env false := rfl

/-- Settings that are read with access are read without. -/
theorem ofEnvironment?_false_of_ok {env : Environment} {needsAccess : Bool} {s : Settings}
    (h : ofEnvironment? env needsAccess = .ok s) : ofEnvironment? env false = .ok s := by
  cases needsAccess with
  | false => exact h
  | true =>
    rw [ofEnvironment?_true] at h
    obtain ⟨-, -, h⟩ := exists_of_bind_eq_ok h
    exact h

theorem readFrom_of_ofEnvironment? {env : Environment} {needsAccess : Bool} {s : Settings}
    (h : ofEnvironment? env needsAccess = .ok s) : ReadFrom env s := by
  replace h := ofEnvironment?_false_of_ok h
  obtain ⟨_, -, h⟩ := exists_of_bind_eq_ok h
  obtain ⟨_, hinterval, h⟩ := exists_of_bind_eq_ok h
  obtain ⟨_, hdiscovery, h⟩ := exists_of_bind_eq_ok h
  obtain ⟨_, hread, h⟩ := exists_of_bind_eq_ok h
  obtain ⟨_, hretries, h⟩ := exists_of_bind_eq_ok h
  obtain ⟨_, hlistenedDuration, h⟩ := exists_of_bind_eq_ok h
  obtain ⟨_, hlistenedPercent, h⟩ := exists_of_bind_eq_ok h
  obtain ⟨_, hcloseAbsolute, h⟩ := exists_of_bind_eq_ok h
  obtain ⟨_, hclosePercent, h⟩ := exists_of_bind_eq_ok h
  obtain ⟨_, hrepeatAbsolute, h⟩ := exists_of_bind_eq_ok h
  obtain ⟨_, hrepeatPercent, h⟩ := exists_of_bind_eq_ok h
  obtain ⟨_, hdrift, h⟩ := exists_of_bind_eq_ok h
  obtain ⟨_, hstale, h⟩ := exists_of_bind_eq_ok h
  obtain ⟨_, horphaned, h⟩ := exists_of_bind_eq_ok h
  obtain rfl := Except.ok.inj h
  refine ⟨?_, _, hread, hretries⟩
  simp only [numbers, List.forall_mem_cons]
  exact ⟨⟨_, rfl, hinterval⟩, ⟨_, rfl, hdiscovery⟩, ⟨_, rfl, hlistenedDuration⟩,
    ⟨_, rfl, hlistenedPercent⟩, ⟨_, rfl, hcloseAbsolute⟩, ⟨_, rfl, hclosePercent⟩,
    ⟨_, rfl, hrepeatAbsolute⟩, ⟨_, rfl, hrepeatPercent⟩, ⟨_, rfl, hdrift⟩, ⟨_, rfl, hstale⟩,
    ⟨_, rfl, horphaned⟩, List.forall_mem_nil _⟩

/-! ## Refusing -/

/-- **Whether a reading fails only by a bad value.** -/
def FailsByValue {α : Type} (reading : Except Fault α) : Prop :=
  ∀ e, reading = .error e → e.nature.isValue = true

namespace FailsByValue

variable {α β : Type}

theorem ok (a : α) : FailsByValue (.ok a : Except Fault α) := fun _ h => nomatch h

theorem setting (reason : String) :
    FailsByValue (.error (.setting reason) : Except Fault α) := by
  intro e h
  obtain rfl := Except.error.inj h
  rfl

/-- One reading after another fails only by a bad value if each does. -/
theorem bind {reading : Except Fault α} {next : α → Except Fault β} (h : FailsByValue reading)
    (hnext : ∀ a, FailsByValue (next a)) : FailsByValue (reading.bind next) := by
  cases reading with
  | error e => exact fun _ he => h _ (congrArg _ (Except.error.inj he))
  | ok a => exact hnext a

theorem checkAccess? (env : Environment) : FailsByValue (checkAccess? env) := by
  unfold Settings.checkAccess?
  split
  · exact ok _
  · exact setting _

theorem noticeLevel? (env : Environment) : FailsByValue (noticeLevel? env) := by
  unfold Settings.noticeLevel?
  dsimp only
  split
  · exact ok _
  · exact setting _

theorem read? (b : Bounded) (env : Environment) : FailsByValue (b.read? env) := by
  intro e h
  rw [Nature.isValue, Bounded.nature_of_read?_eq_error h]
  rfl

end FailsByValue

/-- A number has a whole part, unless it is endless. -/
theorem wholeOf?_cases (x : Float) :
    FailsByValue (Amount.wholeOf? x)
      ∨ (∃ negative, Number.read x = .infinite negative)
        ∧ Amount.wholeOf? x = .error .endlessNumber := by
  unfold Amount.wholeOf?
  cases Number.read x with
  | finite => exact Or.inl (.ok _)
  | infinite negative => exact Or.inr ⟨⟨negative, rfl⟩, rfl⟩
  | undefined =>
    refine Or.inl fun e h => ?_
    obtain rfl := Except.error.inj h
    rfl

/-- **Whether the number of retries has no end**, and nothing is wrong with what is
read before. -/
structure EndlessRetries (env : Environment) : Prop where
  noticed : ∃ level, noticeLevel? env = .ok level
  polled : ∃ x, interval.read? env = .ok x
  discovered : ∃ x, discoveryInterval.read? env = .ok x
  /-- An infinity keeps the bounds, as there is no greatest number of retries. -/
  endless : ∃ x negative, retries.read? env = .ok x ∧ Number.read x = .infinite negative

/-- An endless number of retries is not refused as a bad value. -/
theorem EndlessRetries.eq_error {env : Environment} (h : EndlessRetries env) :
    ofEnvironment? env false = .error .endlessNumber := by
  obtain ⟨⟨level, hlevel⟩, ⟨x, hx⟩, ⟨y, hy⟩, z, negative, hz, hendless⟩ := h
  have hwhole : Amount.wholeOf? z = .error .endlessNumber := by
    unfold Amount.wholeOf?
    rw [hendless]
  unfold ofEnvironment?
  rw [hlevel, hx, hy, hz]
  show (Amount.wholeOf? z).bind _ = _
  rw [hwhole]
  rfl

/-- A reading after another one fails if either does. -/
theorem eq_error_of_bind {α β : Type} {reading : Except Fault α} {next : α → Except Fault β}
    {e : Fault} (h : reading.bind next = .error e) :
    reading = .error e ∨ ∃ a, reading = .ok a ∧ next a = .error e := by
  cases reading with
  | error e' => exact Or.inl (congrArg _ (Except.error.inj h))
  | ok a => exact Or.inr ⟨a, rfl, h⟩

/-- What is no bad value is an endless number of retries. -/
theorem isValue_or_endlessRetries {env : Environment} {e : Fault}
    (h : ofEnvironment? env false = .error e) :
    e.nature.isValue = true ∨ e = .endlessNumber ∧ EndlessRetries env := by
  rcases eq_error_of_bind h with h | ⟨level, hlevel, h⟩
  · exact Or.inl (FailsByValue.noticeLevel? env e h)
  rcases eq_error_of_bind h with h | ⟨x, hx, h⟩
  · exact Or.inl (FailsByValue.read? _ env e h)
  rcases eq_error_of_bind h with h | ⟨y, hy, h⟩
  · exact Or.inl (FailsByValue.read? _ env e h)
  rcases eq_error_of_bind h with h | ⟨z, hz, h⟩
  · exact Or.inl (FailsByValue.read? _ env e h)
  rcases eq_error_of_bind h with h | ⟨n, -, h⟩
  · rcases wholeOf?_cases z with hvalue | ⟨⟨negative, hendless⟩, hwhole⟩
    · exact Or.inl (hvalue e h)
    · obtain rfl := Except.error.inj (hwhole.symm.trans h)
      exact Or.inr ⟨rfl, ⟨level, hlevel⟩, ⟨x, hx⟩, ⟨y, hy⟩, z, negative, hz, hendless⟩
  · -- what follows are bounded settings only
    have hread := fun b => FailsByValue.read? b env
    refine Or.inl (FailsByValue.bind (hread _) (fun _ => ?_) e h)
    refine .bind (hread _) fun _ => .bind (hread _) fun _ => .bind (hread _) fun _ => ?_
    refine .bind (hread _) fun _ => .bind (hread _) fun _ => .bind (hread _) fun _ => ?_
    exact .bind (hread _) fun _ => .bind (hread _) fun _ => .ok _

/-! ## Getting past the bounds -/

/-- **How an environment gets past the bounds.** -/
inductive Evades (env : Environment) (needsAccess : Bool) : Prop where
  /-- The number of retries has no end. -/
  | endless (access : needsAccess = true → checkAccess? env = .ok ()) (h : EndlessRetries env)
  /-- Nothing is wrong with any setting, and one that should be a number is none. -/
  | undefined {s : Settings} {b : Bounded} {x : Float}
      (settings : ofEnvironment? env needsAccess = .ok s) (mem : b ∈ bounded)
      (read : b.read? env = .ok x) (undefined : Number.read x = .undefined)

/-- Access that is asked for and not there is a bad value. -/
theorem isValue_or_evades {env : Environment} {needsAccess : Bool} {e : Fault}
    (h : ofEnvironment? env needsAccess = .error e) :
    e.nature.isValue = true ∨ e = .endlessNumber ∧ Evades env needsAccess := by
  cases needsAccess with
  | false =>
    refine (isValue_or_endlessRetries h).imp_right (And.imp_right fun hendless => ?_)
    exact .endless (fun h => nomatch h) hendless
  | true =>
    rw [ofEnvironment?_true] at h
    rcases eq_error_of_bind h with h | ⟨_, haccess, h⟩
    · exact Or.inl (FailsByValue.checkAccess? env e h)
    · refine (isValue_or_endlessRetries h).imp_right (And.imp_right fun hendless => ?_)
      exact .endless (fun _ => haccess) hendless

/-- With an endless number of retries there are no settings, and no bad value. -/
theorem Evades.eq_error {env : Environment} {needsAccess : Bool}
    (access : needsAccess = true → checkAccess? env = .ok ()) (h : EndlessRetries env) :
    ofEnvironment? env needsAccess = .error .endlessNumber := by
  cases needsAccess with
  | false => exact h.eq_error
  | true =>
    rw [ofEnvironment?_true, access rfl]
    exact h.eq_error

/-- **Settings keep their bounds if all that should be numbers are.** -/
theorem inBounds_iff {env : Environment} {needsAccess : Bool} {s : Settings}
    (h : ofEnvironment? env needsAccess = .ok s) : s.InBounds
      ↔ ∀ b ∈ bounded, ∀ x, b.read? env = .ok x → Number.read x ≠ .undefined := by
  obtain ⟨hnumbers, x, hread, hwhole⟩ := readFrom_of_ofEnvironment? h
  constructor
  · rintro ⟨hbounds, -⟩ b hb x hx
    rw [← map_fst_numbers s, List.mem_map] at hb
    obtain ⟨n, hn, rfl⟩ := hb
    obtain ⟨y, hy, hadmits⟩ := hbounds n hn
    obtain ⟨z, hz, hread⟩ := hnumbers n hn
    obtain rfl := Option.some.inj (hy.symm.trans hz)
    obtain rfl := Except.ok.inj (hread.symm.trans hx)
    exact hadmits.defined
  · intro hdefined
    refine ⟨fun n hn => ?_, ?_⟩
    · obtain ⟨x, hx, hread⟩ := hnumbers n hn
      have hb : n.1 ∈ bounded := map_fst_numbers s ▸ List.mem_map_of_mem hn
      exact ⟨x, hx, (Bounded.admits_iff (admits_default _ hb) hread).mpr (hdefined _ hb x hread)⟩
    · refine Amount.wholeOf?_nonneg ?_ hwhole
      rcases Bounded.eq_default_or_within_of_read? hread with rfl | ⟨hbelow, -⟩
      · decide +kernel
      · exact of_decide_eq_false hbelow

/-- **Which environments are refused as a bad value, or hold settings that keep
their bounds**: all but those that get past the bounds. Of all that goes wrong, only
an endless number of retries is no bad value. -/
theorem refused_or_inBounds_iff (env : Environment) (needsAccess : Bool) :
    (((∃ e, ofEnvironment? env needsAccess = .error e ∧ e.nature.isValue = true)
        ∨ ∃ s, ofEnvironment? env needsAccess = .ok s ∧ s.InBounds)
      ↔ ¬ Evades env needsAccess)
    ∧ ∀ e, ofEnvironment? env needsAccess = .error e →
      e.nature.isValue = true ∨ e = .endlessNumber := by
  refine ⟨⟨?_, fun hevades => ?_⟩, fun e h => (isValue_or_evades h).imp_right And.left⟩
  · rintro (⟨e, h, hvalue⟩ | ⟨s, h, hbounds⟩)
      (⟨haccess, hendless⟩ | ⟨hsettings, hb, hread, hnan⟩)
    · obtain rfl := Except.error.inj (h.symm.trans (Evades.eq_error haccess hendless))
      exact nomatch hvalue
    · exact nomatch h.symm.trans hsettings
    · exact nomatch h.symm.trans (Evades.eq_error haccess hendless)
    · exact (inBounds_iff h).mp hbounds _ hb _ hread hnan
  · cases h : ofEnvironment? env needsAccess with
    | error e =>
      refine Or.inl ⟨e, rfl, (isValue_or_evades h).resolve_right fun hendless => ?_⟩
      exact hevades hendless.2
    | ok s =>
      refine Or.inr ⟨s, rfl, (inBounds_iff h).mpr fun b hb x hread hnan => ?_⟩
      exact hevades (.undefined h hb hread hnan)

/-- A text that writes a number is held against the bounds. -/
theorem Bounded.read?_of_number? {b : Bounded} {env : Environment} {raw : String} {x : Float}
    (hraw : env.get? b.name = some raw) (hblank : Text.isBlankText raw = false)
    (hx : Number.number? raw = some x) : b.read? env = b.within? x := by
  unfold read?
  rw [hraw]
  dsimp only
  rw [hblank, if_neg Bool.false_ne_true, hx]

/-- A setting whose variable is missing has its default. -/
theorem Bounded.read?_of_missing {b : Bounded} {env : Environment} (h : env.get? b.name = none) :
    b.read? env = .ok b.default := by
  unfold read?
  rw [h]

/-- An environment in which the number of retries is set, and nothing else. -/
def patientEnv : Environment := ⟨[(retries.name, "7.9")]⟩

theorem read?_patientEnv : retries.read? patientEnv = .ok 7.9 := by
  have hnumber : Number.number? "7.9" = some 7.9 := by decide +kernel
  have hraw : patientEnv.get? retries.name = some "7.9" := rfl
  rw [Bounded.read?_of_number? hraw (by decide +kernel) hnumber]
  exact Bounded.within?_eq_ok_iff.mpr ⟨rfl, by decide +kernel, fun _ h => nomatch h⟩

/-- An environment that asks for seven retries does not get past the bounds, and
gets seven. -/
theorem refused_or_inBounds_patientEnv :
    ¬ Evades patientEnv false ∧ ∃ s, ofEnvironment? patientEnv false = .ok s
      ∧ s.pace.retries = 7 ∧ s.InBounds := by
  have hmissing : ∀ b ∈ bounded, patientEnv.get? b.name = none := by decide +kernel
  have hnot : ¬ Evades patientEnv false := by
    rintro (⟨-, ⟨-, -, -, x, negative, hread, hendless⟩⟩ | ⟨-, hb, hread, hundefined⟩)
    · obtain rfl := Except.ok.inj (read?_patientEnv.symm.trans hread)
      cases negative <;> exact absurd hendless (by decide +kernel)
    · obtain rfl := Except.ok.inj ((Bounded.read?_of_missing (hmissing _ hb)).symm.trans hread)
      exact (admits_default _ hb).defined hundefined
  obtain ⟨s, hs⟩ : ∃ s, ofEnvironment? patientEnv false = .ok s := by
    unfold ofEnvironment?
    rw [read?_patientEnv]
    exact ⟨_, rfl⟩
  refine ⟨hnot, s, hs, ?_, ?_⟩
  · obtain ⟨x, hread, hwhole⟩ := (readFrom_of_ofEnvironment? hs).retries
    obtain rfl := Except.ok.inj (read?_patientEnv.symm.trans hread)
    exact (Except.ok.inj hwhole).symm
  · rcases (refused_or_inBounds_iff patientEnv false).1.mpr hnot with ⟨e, he, -⟩ | ⟨s', hs', h⟩
    · exact nomatch he.symm.trans hs
    · obtain rfl := Except.ok.inj (hs'.symm.trans hs)
      exact h

/-- An environment in which only the number of retries is set. -/
def endlessEnv : Environment := ⟨[(retries.name, "inf")]⟩

theorem endlessRetries_endlessEnv : EndlessRetries endlessEnv where
  noticed := ⟨Notice.defaultLevel, rfl⟩
  polled := ⟨_, rfl⟩
  discovered := ⟨_, rfl⟩
  endless := by
    have hnumber : Number.number? "inf" = some Number.infinity := by decide +kernel
    refine ⟨Number.infinity, false, ?_, by decide +kernel⟩
    have hraw : endlessEnv.get? retries.name = some "inf" := rfl
    rw [Bounded.read?_of_number? hraw (by decide +kernel) hnumber]
    exact Bounded.within?_eq_ok_iff.mpr ⟨rfl, by decide +kernel, fun _ h => nomatch h⟩

/-- An environment in which only the seconds between two polls are set. -/
def vagueEnv : Environment := ⟨[(interval.name, "nan")]⟩

/-- What is no number is neither below the bounds nor above them. -/
theorem interval_vagueEnv : interval.read? vagueEnv = .ok Number.notANumber := by
  have hnumber : Number.number? "nan" = some Number.notANumber := by decide +kernel
  have hraw : vagueEnv.get? interval.name = some "nan" := rfl
  rw [Bounded.read?_of_number? hraw (by decide +kernel) hnumber]
  exact Bounded.within?_eq_ok_iff.mpr ⟨rfl, by decide +kernel, fun _ h => nomatch h⟩

theorem exists_settings_vagueEnv : ∃ s, ofEnvironment? vagueEnv false = .ok s := by
  unfold ofEnvironment?
  have hlevel : noticeLevel? vagueEnv = .ok Notice.defaultLevel := rfl
  rw [interval_vagueEnv, hlevel]
  exact ⟨_, rfl⟩

/-- **An endless number of retries and what is no number get past the bounds**:
there is an error that is no bad value, and settings that do not keep their bounds. -/
theorem not_forall_refused_or_inBounds :
    ¬ (∀ (env : Environment) (needsAccess : Bool),
        (∃ e, ofEnvironment? env needsAccess = .error e ∧ e.nature.isValue = true)
          ∨ ∃ s, ofEnvironment? env needsAccess = .ok s ∧ s.InBounds)
      ∧ ofEnvironment? endlessEnv false = .error .endlessNumber
      ∧ ∃ s, ofEnvironment? vagueEnv false = .ok s ∧ ¬ s.InBounds := by
  have hendless := endlessRetries_endlessEnv.eq_error
  refine ⟨fun h => ?_, hendless, ?_⟩
  · rcases h endlessEnv false with ⟨e, he, hvalue⟩ | ⟨s, hs, -⟩
    · obtain rfl := Except.error.inj (he.symm.trans hendless)
      exact nomatch hvalue
    · exact nomatch hs.symm.trans hendless
  · obtain ⟨s, hs⟩ := exists_settings_vagueEnv
    have hundefined : Number.read Number.notANumber = .undefined := by decide +kernel
    refine ⟨s, hs, fun hbounds => ?_⟩
    exact (inBounds_iff hs).mp hbounds _ List.mem_cons_self _ interval_vagueEnv hundefined

end Settings

end Listening