/-!
# Ranges of code points

A Unicode property is stored as the list of its ranges of code points, both ends included.
-/

namespace RecordFilter.Text

/-- A set of characters as inclusive ranges of code points. -/
abbrev CodePoints := List (Nat × Nat)

def CodePoints.has (ranges : CodePoints) (c : Char) : Bool :=
  ranges.any fun (low, high) => low ≤ c.toNat && c.toNat ≤ high

end RecordFilter.Text
