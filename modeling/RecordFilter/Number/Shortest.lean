import RecordFilter.Number.Binary64

/-!
# Shortest numerals

A number of the binary64 format is written with the fewest digits that read back as the same
number, and of those with the digits nearest to it. The reals that read back form an interval
around the number (`Interval`); for each count of digits only the two points of the decimal
grid next to the number have to be tried, since if any point of the grid lies in the interval
so does one of those two.
-/

namespace RecordFilter.Number

/-- A positive number and the reals that round to it, all as multiples of `1 / unit`. -/
structure Interval where
  low : Nat
  value : Nat
  high : Nat
  unit : Nat
  /-- The ends themselves round to the number. -/
  closed : Bool

/-- The interval of the reals that round to the magnitude of `x`. Below a power of two the
next number is only half as far away. -/
def Binary64.interval (x : Binary64) : Interval :=
  let step := Nat.pow 2 x.unit
  let below := if x.significand = Nat.pow 2 52 ∧ x.unit ≠ 0 then step else 2 * step
  { low := 4 * x.scaled - below
    value := 4 * x.scaled
    high := 4 * x.scaled + 2 * step
    unit := 4 * Nat.pow 2 1074
    closed := x.significand % 2 == 0 }

/-- The interval holds `n / d`. -/
def Interval.has (i : Interval) (n d : Nat) : Bool :=
  let m := n * i.unit
  if i.closed then i.low * d ≤ m && m ≤ i.high * d else i.low * d < m && m < i.high * d

/-- The exponent `k` with `10 ^ (k - 1) ≤ n / d < 10 ^ k`, for a positive quotient. -/
def tenExponent (n d : Nat) : Int :=
  if d ≤ n then (digitsOf (n / d)).length
  else
    let digits := (digitsOf (d / n)).length
    if d = n * Nat.pow 10 (digits - 1) then 2 - digits else 1 - digits

/-- A positive number written as `0.digits` times a power of ten. -/
structure Shortest where
  digits : Nat
  exponent : Int
  deriving DecidableEq, Repr

/-- The point `n` of the grid of step `10 ^ power`, as a quotient of natural numbers. -/
def gridPoint (n : Nat) (power : Int) : Nat × Nat :=
  if 0 ≤ power then (n * Nat.pow 10 power.toNat, 1) else (n, Nat.pow 10 (-power).toNat)

/-- Of the two points of the grid of step `10 ^ power` around the number, the one that lies in
the interval; if both do the nearer one, and of equally near ones the even one. -/
def Interval.nearestOnGrid? (i : Interval) (power : Int) : Option Nat :=
  let (n, d) := if 0 ≤ power then (i.value, i.unit * Nat.pow 10 power.toNat)
    else (i.value * Nat.pow 10 (-power).toNat, i.unit)
  let lower := n / d
  let holds (point : Nat) : Bool :=
    let (m, e) := gridPoint point power
    i.has m e
  match holds lower, holds (lower + 1) with
  | true, true => some (divideHalfEven n d)
  | true, false => some lower
  | false, true => some (lower + 1)
  | false, false => none

/-- Tries grids of `count`, `count + 1`, … digits, up to `tries` more. -/
def Interval.search (i : Interval) (exponent : Int) (count : Nat) : Nat → Shortest
  | 0 => ⟨i.value / i.unit, exponent⟩
  | tries + 1 =>
    match i.nearestOnGrid? (exponent - count) with
    | some digits => ⟨digits, exponent - count⟩
    | none => i.search exponent (count + 1) tries

/-- The shortest decimal in the interval, as digits and the power of ten that they count.
Seventeen digits are always enough. -/
def Interval.shortest (i : Interval) : Shortest :=
  i.search (tenExponent i.value i.unit) 1 17

/-- Removes zeros at the end. -/
def dropTrailingZeros (digits : List Char) : List Char :=
  (digits.reverse.dropWhile (· == '0')).reverse

/-- A nonempty text of digits, or a lone zero. -/
def orZero (digits : List Char) : List Char :=
  if digits.isEmpty then ['0'] else digits

/-- Numbers from `10 ^ -5` up to but not including `10 ^ 16` are written without an exponent
and with at least one digit after the point, all others with one digit before the point and
an exponent. -/
def Binary64.numeral (x : Binary64) : Numeral :=
  if x.significand = 0 then ⟨x.negative, ['0'], some ['0'], none⟩
  else
    let shortest := x.interval.shortest
    let all := digitsOf shortest.digits
    let digits := dropTrailingZeros all
    let point : Int := shortest.exponent + all.length
    if 0 < point ∧ point ≤ 16 then
      let count := point.toNat
      let whole := digits.take count ++ List.replicate (count - digits.length) '0'
      ⟨x.negative, whole, some (orZero (digits.drop count)), none⟩
    else if -5 < point ∧ point ≤ 0 then
      ⟨x.negative, ['0'], some (List.replicate (-point).toNat '0' ++ digits), none⟩
    else
      let power := point - 1
      let fraction := digits.drop 1
      ⟨x.negative, digits.take 1, if fraction.isEmpty then none else some fraction,
        some ⟨decide (power < 0), digitsOf power.natAbs⟩⟩

end RecordFilter.Number
