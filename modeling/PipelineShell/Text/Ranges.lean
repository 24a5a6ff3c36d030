/-!
# Sets of characters as ranges

A table of code points lists its ranges in ascending order, both ends included.
-/

namespace PipelineShell.Text

abbrev Ranges := List (Nat × Nat)

/-- A code point in one of the ranges. -/
def Ranges.has (table : Ranges) (n : Nat) : Bool :=
  table.any fun (lo, hi) => lo ≤ n && n ≤ hi

end PipelineShell.Text
