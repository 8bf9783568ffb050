/-!
# Sets of characters as ranges

A property of characters above U+007F is a list of ranges of code points; a letter case, where every second
character has the property, is a list of runs with a step.
-/

namespace TypedStatement.Text
set_option autoImplicit false

/-- Closed ranges of code points. -/
abbrev CharRanges := List (Nat × Nat)

/-- Whether some range of the list holds the character. -/
def CharRanges.contains (ranges : CharRanges) (c : Char) : Bool :=
  ranges.any fun (low, high) => low ≤ c.toNat && c.toNat ≤ high

/-- The code points `first`, `first + step`, …, up to `last`. -/
structure CharRun where
  first : Nat
  last : Nat
  step : Nat

/-- Whether the run holds the character. -/
def CharRun.contains (run : CharRun) (c : Char) : Bool :=
  run.first ≤ c.toNat && c.toNat ≤ run.last && (c.toNat - run.first) % run.step == 0

/-- A run whose characters have their other case at one fixed distance. -/
structure CaseShift where
  run : CharRun
  shift : Int

end TypedStatement.Text
