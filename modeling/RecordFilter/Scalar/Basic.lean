import RecordFilter.Calendar.Date
import RecordFilter.Number.Decimal
import RecordFilter.Text.Literal

/-!
# Scalars

The values on the right of a comparison. Two scalars are alike when they have the same worth: an
integer and a decimal are alike if they denote the same number, however they are written, and
otherwise only scalars of one kind are. Likeness is equality of `Scalar.worth`, hence an
equivalence.
-/

namespace RecordFilter

open RecordFilter.Calendar RecordFilter.Number RecordFilter.Text

inductive Scalar where
  | null
  | boolean (value : Bool)
  | integer (value : Int64)
  | decimal (value : Decimal)
  | string (value : String)
  | date (value : Date)
  deriving DecidableEq

/-- What a scalar denotes: numbers no longer show how they were written. -/
inductive Worth where
  | null
  | boolean (value : Bool)
  | number (value : Rat)
  | string (value : String)
  | date (value : Date)
  deriving DecidableEq

namespace Scalar

def worth : Scalar → Worth
  | .null => .null
  | .boolean b => .boolean b
  | .integer n => .number n.toInt
  | .decimal d => .number d.toRat
  | .string s => .string s
  | .date d => .date d

def isAlike (a b : Scalar) : Bool :=
  a.worth = b.worth

/-- The scalar as filter text. A date is written as the literal of the instant it begins at. -/
def text : Scalar → List Char
  | .null => "null".toList
  | .boolean b => (if b then "true" else "false").toList
  | .integer n => integerText n.toInt
  | .decimal d => d.text
  | .string s => Literal.encode s.toList
  | .date d => Literal.encode d.instant

@[simp] theorem isAlike_iff {a b : Scalar} : a.isAlike b = true ↔ a.worth = b.worth := by
  simp [isAlike]

end Scalar

end RecordFilter
