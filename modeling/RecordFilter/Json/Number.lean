import RecordFilter.Number.Decimal
import RecordFilter.Number.Shortest

/-!
# JSON numbers

A number without fraction and exponent that fits in 64 bits is kept whole; every other number is
kept in the binary64 format. Reading into that format goes through one 64-bit word of digits
and one scaling by a power of ten, so it is exact for short numbers only: digits beyond the word
are dropped, and the scaling rounds a second time.
-/

namespace RecordFilter

open RecordFilter.Number

inductive JsonNumber where
  | whole (value : Int)
  | real (value : Binary64)
  deriving DecidableEq

namespace JsonNumber

/-- Takes digits into a 64-bit word for as long as they fit; returns the word and the digits
left over. -/
def takeWord (word : Nat) : List Char → Nat × List Char
  | [] => (word, [])
  | c :: digits =>
    let next := 10 * word + digitsValue [c]
    if next < Nat.pow 2 64 then takeWord next digits else (word, c :: digits)

/-- The power of ten by which the word of digits has to be scaled: each digit left over before
the point adds one, each digit taken after it subtracts one. -/
def wordScale (wholeLeft fraction fractionLeft : List Char) : Int :=
  wholeLeft.length - (fraction.length - fractionLeft.length : Nat)

/-- The greatest magnitude of an exponent that is evaluated. -/
def maxExponent : Nat := Nat.pow 2 31 - 1

/-- Reads a number that is not kept whole. -/
def real? (x : Numeral) : Option JsonNumber := do
  let (word, wholeLeft) := takeWord 0 x.whole
  let fraction := x.fraction.getD []
  let (word, fractionLeft) := takeWord word fraction
  let scale := wordScale wholeLeft fraction fractionLeft
  let exponent : Int :=
    match x.exponent with
    | none => 0
    | some power => Decimal.signed power.negative (digitsValue power.digits)
  if maxExponent < exponent.natAbs then
    if exponent < 0 ∨ word = 0 then some (.real (.zero x.negative)) else none
  else
    let value ← Binary64.nearest? x.negative word 1
    let value ← value.scaleByTen? (scale + exponent)
    some (.real value)

/-- The number that a numeral stands for; `none` if it is out of range. -/
def ofNumeral? (x : Numeral) : Option JsonNumber :=
  let (word, wholeLeft) := takeWord 0 x.whole
  if wholeLeft = [] ∧ x.fraction = none ∧ x.exponent = none then
    if x.negative then
      if word = 0 ∨ Nat.pow 2 63 < word then (Binary64.nearest? true word 1).map .real
      else some (.whole (-word))
    else some (.whole word)
  else real? x

/-- The numeral that a number is written as. -/
def numeral : JsonNumber → Numeral
  | .whole n => ⟨decide (n < 0), digitsOf n.natAbs, none, none⟩
  | .real x => x.numeral

def text (x : JsonNumber) : List Char :=
  x.numeral.text

end JsonNumber

end RecordFilter
