import RecordFilter.Number.Numeral

/-!
# Binary floating point numbers of 64 bits

A finite number of the format is a sign and `significand * 2 ^ unit / 2 ^ 1074`, where the significand has at
most 53 bits and is full unless the unit is the least one. All arithmetic here is exact on
natural numbers and rounds once at the end, a half going to the even neighbour
(`Binary64.nearest?`).
-/

namespace RecordFilter.Number

/-- A finite number of the binary64 format. -/
structure Binary64 where
  negative : Bool
  significand : Nat
  unit : Nat
  significand_lt : significand < Nat.pow 2 53
  full : Nat.pow 2 52 ≤ significand ∨ unit = 0
  unit_le : unit ≤ 2045
  deriving DecidableEq

/-- The quotient rounded to the nearest natural number, a half to the even one. -/
def divideHalfEven (n d : Nat) : Nat :=
  let q := n / d
  let r := n % d
  if d < 2 * r ∨ (2 * r = d ∧ q % 2 = 1) then q + 1 else q

namespace Binary64

def zero (negative : Bool) : Binary64 :=
  ⟨negative, 0, 0, by decide, .inr rfl, by decide⟩

/-- The number with these parts, if the format has it. -/
def ofParts? (negative : Bool) (significand unit : Nat) : Option Binary64 :=
  if h : significand < Nat.pow 2 53 ∧ (Nat.pow 2 52 ≤ significand ∨ unit = 0) ∧ unit ≤ 2045 then
    some ⟨negative, significand, unit, h.1, h.2.1, h.2.2⟩
  else none

/-- The number of the format nearest to `n / d`, or `none` if that would be an infinity. -/
def nearest? (negative : Bool) (n d : Nat) : Option Binary64 :=
  let scaled := n * Nat.pow 2 1074
  let unit := (scaled / d).log2 - 52
  let significand := divideHalfEven scaled (d * Nat.pow 2 unit)
  if significand = Nat.pow 2 53 then ofParts? negative (Nat.pow 2 52) (unit + 1)
  else ofParts? negative significand unit

/-- The magnitude as a multiple of `2 ^ -1074`. -/
def scaled (x : Binary64) : Nat :=
  x.significand * Nat.pow 2 x.unit

def toRat (x : Binary64) : Rat :=
  mkRat (if x.negative then -x.scaled else x.scaled) (Nat.pow 2 1074)

/-- The rounded product; the sign is that of the first factor. -/
def mul? (x y : Binary64) : Option Binary64 :=
  nearest? x.negative (x.scaled * y.scaled) (Nat.pow 2 2148)

/-- The rounded quotient; the sign is that of the dividend. -/
def div? (x y : Binary64) : Option Binary64 :=
  nearest? x.negative x.scaled y.scaled

/-- The power of ten nearest to `10 ^ exponent`. -/
def tenPower? (exponent : Nat) : Option Binary64 :=
  nearest? false (Nat.pow 10 exponent) 1

/-- Scales by a power of ten in one rounded operation; an exponent below -308 divides by
`10 ^ 308` first, as often as needed, and one above 308 is out of range. -/
def scaleByTen? (x : Binary64) (exponent : Int) : Option Binary64 :=
  if 0 ≤ exponent then
    if x.significand = 0 then some x
    else if exponent ≤ 308 then do x.mul? (← tenPower? exponent.toNat)
    else none
  else if -308 ≤ exponent then do x.div? (← tenPower? (-exponent).toNat)
  else if x.significand = 0 then some x
  else do
    let y ← x.div? (← tenPower? 308)
    y.scaleByTen? (exponent + 308)
termination_by (-exponent).toNat
decreasing_by omega

end Binary64

end RecordFilter.Number
