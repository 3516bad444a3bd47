import Mathlib.Algebra.Ring.Int.Defs
import Mathlib.Data.Option.Basic

/-!
# Checked machine arithmetic

Every operation of a computation is carried out over the integers, and gives
nothing when the result does not fit in the machine type.  A computation has a
result exactly if none of its operations overflows.
-/

namespace CheckedInt

/-- The values of a signed type of `bits` bits. -/
def InRange (bits : Nat) (value : Int) : Prop :=
  -2 ^ (bits - 1) ≤ value ∧ value < 2 ^ (bits - 1)

instance (bits : Nat) (value : Int) : Decidable (InRange bits value) :=
  inferInstanceAs (Decidable (_ ∧ _))

/-- The result of one operation. -/
def checked (bits : Nat) (value : Int) : Option Int :=
  if InRange bits value then some value else none

theorem inRange_64_iff {value : Int} :
    InRange 64 value ↔ -9223372036854775808 ≤ value ∧ value ≤ 9223372036854775807 := by
  change -9223372036854775808 ≤ value ∧ value < 9223372036854775808 ↔ _
  omega

theorem inRange_32_iff {value : Int} :
    InRange 32 value ↔ -2147483648 ≤ value ∧ value ≤ 2147483647 := by
  change -2147483648 ≤ value ∧ value < 2147483648 ↔ _
  omega

theorem toInt_ofInt {value : Int} (inRange : InRange 64 value) :
    (Int64.ofInt value).toInt = value :=
  Int64.toInt_ofInt_of_le inRange.1 inRange.2

@[simp]
theorem checked_eq_some_iff {bits : Nat} {value result : Int} :
    checked bits value = some result ↔ InRange bits value ∧ value = result := by
  rw [checked]
  split
  · next inRange => simp [inRange]
  · next overflow => simp [overflow]

/-- A last operation. -/
@[simp]
theorem checked_ne_none_iff {bits : Nat} {value : Int} :
    checked bits value ≠ none ↔ InRange bits value := by
  rw [checked]
  split
  · next inRange => simp [inRange]
  · next overflow => simp [overflow]

/-- An operation and what follows it. -/
@[simp]
theorem checked_bind_ne_none_iff {α : Type} {bits : Nat} {value : Int}
    {next : Int → Option α} :
    checked bits value >>= next ≠ none ↔ InRange bits value ∧ next value ≠ none := by
  rw [checked]
  split
  · next inRange => simp [inRange]
  · next overflow => simp [overflow]

@[simp]
theorem checked_bind_eq_some_iff {α : Type} {bits : Nat} {value : Int}
    {next : Int → Option α} {result : α} :
    checked bits value >>= next = some result ↔
      InRange bits value ∧ next value = some result := by
  rw [checked]
  split
  · next inRange => simp [inRange]
  · next overflow => simp [overflow]

end CheckedInt
