import RecordFilter.Failure
import RecordFilter.Scalar.Basic
import RecordFilter.Text.Blank

/-!
# Reading a value token

A token is read as the first of these that it is: nothing at all or `null`, a literal, an integer,
a decimal, a truth value, a date. What matches none of them is refused by the strict policy and
kept as a bare string by the lenient one. A token that starts like a literal, or looks like a
number or a date without being one, is refused by both.
-/

namespace RecordFilter

open RecordFilter.Calendar RecordFilter.Number RecordFilter.Text

/-- What becomes of a token that has no scalar form. -/
inductive Policy where
  /-- It is refused. -/
  | strict
  /-- It is kept as a string. -/
  | lenient
  deriving DecidableEq, Repr

namespace Scalar

/-- An integer of 64 bits if it fits, and otherwise a decimal. -/
def ofNumeral? (x : Numeral) : Option Scalar :=
  let value := Decimal.signed x.negative (digitsValue x.whole)
  if x.fraction = none ∧ Int64.minValue.toInt ≤ value ∧ value ≤ Int64.maxValue.toInt then
    some (.integer (Int64.ofInt value))
  else (Decimal.ofNumeral x).toOption.map .decimal

/-- The parts of a text of the form `YYYY-MM-DD`. -/
def dateParts? (token : List Char) : Option (Nat × Nat × Nat) :=
  match token with
  | [y₁, y₂, y₃, y₄, '-', m₁, m₂, '-', d₁, d₂] =>
    if [y₁, y₂, y₃, y₄, m₁, m₂, d₁, d₂].all Char.isDigit then
      some (digitsValue [y₁, y₂, y₃, y₄], digitsValue [m₁, m₂], digitsValue [d₁, d₂])
    else none
  | _ => none

/-- Reads a token without blanks around it. -/
def ofTrimmed? (policy : Policy) (token : List Char) : Option Scalar :=
  if token = [] ∨ token = "null".toList then some .null
  else if token.head? = some '\'' then
    (Literal.decode token).map fun s => .string (String.ofList s)
  else match Numeral.ofPlain? token with
    | some x => ofNumeral? x
    | none =>
      if token = "true".toList then some (.boolean true)
      else if token = "false".toList then some (.boolean false)
      else match dateParts? token with
        | some (year, month, day) => (Date.ofParts? year month day).map .date
        | none =>
          match policy with
          | .strict => none
          | .lenient => some (.string (String.ofList token))

def ofToken (policy : Policy) (token : List Char) : Except Failure Scalar :=
  match ofTrimmed? policy (trim token) with
  | some value => .ok value
  | none => .error (.invalidValue (String.ofList (trim token)))

end Scalar

end RecordFilter
