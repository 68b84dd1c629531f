import RecordFilter.Number.Numeral

/-!
# Decimals

A decimal is an integer of at most 96 bits together with the number of its digits that stand after
the point, at most 28. The scale is part of the value as it is written, `30.00` keeps its two
zeros, but not of the number that it denotes (`Decimal.toRat`). Numerals with more digits than
fit are rounded at the last digit that fits; a number beyond 96 bits is an error.
-/

namespace RecordFilter.Number

/-- The least magnitude that takes more than 96 bits. -/
def Decimal.bound : Nat := Nat.pow 2 96

/-- The greatest number of digits after the point. -/
def Decimal.maxScale : Nat := 28

/-- `units` divided by the power of ten with exponent `scale`. A zero has no sign here: there is one
zero for each scale, where a sign kept apart from the magnitude would make two. -/
structure Decimal where
  units : Int
  scale : Nat
  units_lt : units.natAbs < Decimal.bound
  scale_le : scale ≤ Decimal.maxScale
  deriving DecidableEq

/-- Why a numeral is no decimal. -/
inductive DecimalError where
  /-- The exponent of ten asks for more digits than the greatest scale. -/
  | scaleTooLarge (digits : Nat)
  /-- The magnitude takes more than 96 bits. -/
  | tooLarge
  deriving DecidableEq, Repr

def DecimalError.message : DecimalError → String
  | .scaleTooLarge digits =>
    "Scale exceeds the maximum precision allowed: " ++ String.ofList (digitsOf digits) ++ " > 28"
  | .tooLarge => "Number exceeds maximum value that can be represented."

namespace Decimal

/-- The decimal with these parts, if they are within bounds. -/
def ofParts? (units : Int) (scale : Nat) : Option Decimal :=
  if h : units.natAbs < bound ∧ scale ≤ maxScale then some ⟨units, scale, h.1, h.2⟩ else none

/-- The number that a decimal denotes. -/
def toRat (d : Decimal) : Rat :=
  mkRat d.units (Nat.pow 10 d.scale)

/-- The numeral of a decimal, with exactly `scale` digits after the point. -/
def numeral (d : Decimal) : Numeral :=
  let digits := padDigits (d.scale + 1) (digitsOf d.units.natAbs)
  let whole := digits.take (digits.length - d.scale)
  let fraction := digits.drop (digits.length - d.scale)
  ⟨decide (d.units < 0), whole, if d.scale = 0 then none else some fraction, none⟩

def text (d : Decimal) : List Char :=
  d.numeral.text

/-- The integer with the given sign and magnitude. -/
def signed (negative : Bool) (magnitude : Nat) : Int :=
  if negative then -magnitude else magnitude

/-- Digits taken after the point: the magnitude and scale reached, and the first digit that
was left over, either because the scale is exhausted or because it did not fit in 96 bits. -/
structure Taken where
  magnitude : Nat
  scale : Nat
  leftOver : Option Nat
  deriving DecidableEq, Repr

/-- Takes digits after the point from left to right for as long as they fit. -/
def takeFraction (magnitude scale : Nat) : List Char → Taken
  | [] => ⟨magnitude, scale, none⟩
  | c :: digits =>
    let digit := digitsValue [c]
    let next := 10 * magnitude + digit
    if scale < maxScale ∧ next < bound then takeFraction next (scale + 1) digits
    else ⟨magnitude, scale, some digit⟩

/-- Rounds up by the digit left over. If the magnitude then leaves 96 bits it gives up one digit
after the point. -/
def Taken.rounded? (t : Taken) : Option (Nat × Nat) :=
  match t.leftOver with
  | none => some (t.magnitude, t.scale)
  | some digit =>
    if digit < 5 then some (t.magnitude, t.scale)
    else if t.magnitude + 1 < bound then some (t.magnitude + 1, t.scale)
    else if t.scale = 0 then none
    else some ((t.magnitude + 1 + 4) / 10, t.scale - 1)

/-- The decimal written with these digits and no exponent. -/
def ofDigits? (negative : Bool) (whole fraction : List Char) : Option Decimal := do
  let magnitude := digitsValue whole
  if magnitude < bound then
    let (magnitude, scale) ← (takeFraction magnitude 0 fraction).rounded?
    ofParts? (signed negative magnitude) scale
  else none

/-- Divides by a power of ten, rounding a half away from zero. -/
def divideByTenPower (n power : Nat) : Nat :=
  (2 * n + Nat.pow 10 power) / (2 * Nat.pow 10 power)

/-- Multiplies by the power of ten with exponent `power`, as far as possible by lowering the
scale. -/
def raise? (d : Decimal) (power : Nat) : Option Decimal :=
  if power ≤ d.scale then ofParts? d.units (d.scale - power)
  else ofParts? (d.units * Nat.pow 10 (power - d.scale)) 0

/-- Divides by the power of ten with exponent `power` by raising the scale; digits beyond the
greatest scale are rounded away. -/
def lower? (d : Decimal) (power : Nat) : Option Decimal :=
  let scale := d.scale + power
  if scale ≤ maxScale then ofParts? d.units scale
  else
    let magnitude := divideByTenPower d.units.natAbs (scale - maxScale)
    ofParts? (signed (decide (d.units < 0)) magnitude) maxScale

/-- The decimal that a numeral denotes. -/
def ofNumeral (x : Numeral) : Except DecimalError Decimal := do
  let some base := ofDigits? x.negative x.whole (x.fraction.getD []) | throw .tooLarge
  match x.exponent with
  | none => return base
  | some power =>
    let digits := digitsValue power.digits
    if maxScale < digits then throw (.scaleTooLarge digits)
    let some d := if power.negative then base.lower? digits else base.raise? digits
      | throw .tooLarge
    return d

end Decimal

end RecordFilter.Number
