/-!
# Whole numbers of 64 bits

The whole numbers from `-2 ^ 63` to `2 ^ 63 - 1`.
-/

namespace TypedStatement.Number
set_option autoImplicit false

/-- The first number that 64 bits do not hold. -/
def int64Bound : Nat := Nat.pow 2 63

/-- Whether 64 bits hold the number. -/
def isInt64 (value : Int) : Bool :=
  -int64Bound ≤ value && value < int64Bound

/-- The number of a size and a sign, if 64 bits hold it. -/
def int64? (negative : Bool) (size : Nat) : Option Int :=
  let value : Int := if negative then -size else size
  if isInt64 value then some value else none

theorem isInt64_of_int64? (negative : Bool) (size : Nat) (value : Int) (h : int64? negative size = some value) :
    isInt64 value = true := by
  simp only [int64?, Option.ite_none_right_eq_some, Option.some.injEq] at h
  obtain ⟨fits, rfl⟩ := h
  exact fits

end TypedStatement.Number
