import Listening.Environment
import Listening.Fault
import Listening.Number.Numeral

/-!
# Settings that are numbers

A setting that is a number is read from a variable. It has a default, which
also stands for a blank text, a least value, and perhaps a greatest one. What
is no number at all can be compared with neither bound, so it passes.
-/

namespace Listening.Settings

/-- **A setting that is a number.** -/
structure Bounded where
  /-- The variable it is read from. -/
  name : String
  /-- What it is if the variable says nothing. -/
  default : Float
  /-- The least it may be. -/
  least : Float
  /-- The greatest it may be. -/
  most : Option Float := none

namespace Bounded

/-- A setting that is a percentage. -/
def percent (name : String) (default : Float) : Bounded := ⟨name, default, 0, some 100⟩

/-- Whether a number is below the bounds of a setting. -/
def isBelow (b : Bounded) (x : Float) : Bool := decide (x < b.least)

/-- Whether a number is above a bound. -/
def isAbove (most x : Float) : Bool := decide (most < x)

/-- Why a setting is not acceptable. -/
def refuse {α : Type} (b : Bounded) (why : String) : Except Fault α :=
  .error (.setting (b.name ++ " must be " ++ why))

/-- A number if it keeps within the bounds of a setting. -/
def within? (b : Bounded) (x : Float) : Except Fault Float :=
  if b.isBelow x then
    b.refuse ("at least " ++ Number.general b.least ++ ", got " ++ Number.general x)
  else
    match b.most with
    | none => .ok x
    | some most =>
      if isAbove most x then
        b.refuse ("at most " ++ Number.general most ++ ", got " ++ Number.general x)
      else .ok x

/-- **What an environment says of a setting.** -/
def read? (b : Bounded) (env : Environment) : Except Fault Float :=
  match env.get? b.name with
  | none => .ok b.default
  | some raw =>
    if Text.isBlankText raw then .ok b.default
    else
      match Number.number? raw with
      | none => b.refuse ("a number, got " ++ Text.quoted raw)
      | some x => b.within? x

/-- A number is accepted only if it is neither below nor above the bounds. -/
theorem within?_eq_ok_iff {b : Bounded} {x y : Float} :
    b.within? x = .ok y ↔
      x = y ∧ b.isBelow x = false ∧ ∀ most ∈ b.most, isAbove most x = false := by
  unfold within? refuse
  split
  · next below => simp [below]
  · next below =>
    split
    · next none => simp [below, none]
    · next most some =>
      split
      · next above => simp [some, above]
      · next above => simp [below, some, above]

/-- A setting that is read is its default or within its bounds. -/
theorem eq_default_or_within_of_read? {b : Bounded} {env : Environment} {x : Float}
    (h : b.read? env = .ok x) :
    x = b.default ∨ (b.isBelow x = false ∧ ∀ most ∈ b.most, isAbove most x = false) := by
  unfold read? at h
  split at h
  · exact .inl (by cases h; rfl)
  · split at h
    · exact .inl (by cases h; rfl)
    · split at h
      · cases h
      · obtain ⟨rfl, hx⟩ := within?_eq_ok_iff.1 h
        exact .inr hx

/-- A number that is refused is refused as a bad value. -/
theorem nature_of_read?_eq_error {b : Bounded} {env : Environment} {e : Fault}
    (h : b.read? env = .error e) : e.nature = .value := by
  unfold read? within? refuse at h
  repeat' split at h
  all_goals first | cases h; rfl | cases h

end Bounded

end Listening.Settings
