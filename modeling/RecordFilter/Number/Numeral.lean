/-!
# Numerals

A number as it is written: a sign, the digits before and after the point, and an exponent of ten.
Every number that is read or printed passes through this form. Two readers share it: the plain
one takes a whole token such as `-007.50`, the strict one takes the longest number at the
start of a text and allows an exponent but no superfluous leading zero.
-/

namespace RecordFilter.Number

/-- The natural number that a text of decimal digits denotes. -/
def digitsValue (digits : List Char) : Nat :=
  Nat.ofDigitChars 10 digits 0

/-- The decimal digits of a natural number, without leading zeros. -/
def digitsOf (n : Nat) : List Char :=
  Nat.toDigits 10 n

/-- The digits with zeros in front up to `width` characters. -/
def padDigits (width : Nat) (digits : List Char) : List Char :=
  List.replicate (width - digits.length) '0' ++ digits

/-- The decimal numeral of an integer. -/
def integerText (n : Int) : List Char :=
  if n < 0 then '-' :: digitsOf n.natAbs else digitsOf n.natAbs

/-- A power of ten as it is written after a number. -/
structure TenPower where
  negative : Bool
  digits : List Char
  deriving DecidableEq, Repr

/-- A written number. -/
structure Numeral where
  negative : Bool
  whole : List Char
  fraction : Option (List Char)
  exponent : Option TenPower
  deriving DecidableEq, Repr

namespace Numeral

/-- The text of a numeral; the exponent always shows its sign. -/
def text (x : Numeral) : List Char :=
  (if x.negative then ['-'] else []) ++ x.whole ++
    (match x.fraction with
      | some digits => '.' :: digits
      | none => []) ++
    (match x.exponent with
      | some power => 'e' :: (if power.negative then '-' else '+') :: power.digits
      | none => [])

/-- The longest run of digits at the start of a text, and the rest. -/
def spanDigits (s : List Char) : List Char × List Char :=
  (s.takeWhile Char.isDigit, s.dropWhile Char.isDigit)

/-- Reads a minus sign if there is one. -/
def readSign : List Char → Bool × List Char
  | '-' :: s => (true, s)
  | s => (false, s)

/-- Reads a token of the form `-?[0-9]+` or `-?[0-9]+.[0-9]+`. -/
def ofPlain? (token : List Char) : Option Numeral :=
  let (negative, s) := readSign token
  match spanDigits s with
  | ([], _) => none
  | (whole, []) => some ⟨negative, whole, none, none⟩
  | (whole, '.' :: s) =>
    match spanDigits s with
    | ([], _) => none
    | (fraction, []) => some ⟨negative, whole, some fraction, none⟩
    | _ => none
  | _ => none

/-- Reads the digits before the point: a lone zero, or digits that do not start with one. -/
def readWhole? (s : List Char) : Option (List Char × List Char) :=
  match s with
  | '0' :: rest => some (['0'], rest)
  | _ =>
    match spanDigits s with
    | ([], _) => none
    | (digits, rest) => some (digits, rest)

/-- Reads a point and the digits after it, if there is a point. -/
def readFraction? (s : List Char) : Option (Option (List Char) × List Char) :=
  match s with
  | '.' :: s =>
    match spanDigits s with
    | ([], _) => none
    | (digits, rest) => some (some digits, rest)
  | _ => some (none, s)

/-- Reads the sign of an exponent, which may be left out. -/
def readExponentSign : List Char → Bool × List Char
  | '-' :: s => (true, s)
  | '+' :: s => (false, s)
  | s => (false, s)

/-- Reads an exponent, if there is one. -/
def readExponent? (s : List Char) : Option (Option TenPower × List Char) :=
  match s with
  | c :: s' =>
    if c = 'e' ∨ c = 'E' then
      let (negative, s'') := readExponentSign s'
      match spanDigits s'' with
      | ([], _) => none
      | (digits, rest) => some (some ⟨negative, digits⟩, rest)
    else some (none, s)
  | [] => some (none, [])

/-- Reads the number at the start of a text, and returns it with the rest. -/
def readStrict? (s : List Char) : Option (Numeral × List Char) := do
  let (negative, s) := readSign s
  let (whole, s) ← readWhole? s
  let (fraction, s) ← readFraction? s
  let (exponent, s) ← readExponent? s
  some (⟨negative, whole, fraction, exponent⟩, s)

theorem length_spanDigits (s : List Char) :
    (spanDigits s).1.length + (spanDigits s).2.length = s.length := by
  rw [spanDigits, ← List.length_append, List.takeWhile_append_dropWhile]

theorem length_readSign_le (s : List Char) : (readSign s).2.length ≤ s.length := by
  unfold readSign
  split
  · simp
  · exact Nat.le_refl _

theorem length_lt_of_readWhole? {s digits rest : List Char}
    (h : readWhole? s = some (digits, rest)) : rest.length < s.length := by
  unfold readWhole? at h
  split at h
  · cases h
    simp
  · split at h
    · cases h
    · next d ds hne hspan =>
      have hlen := length_spanDigits s
      cases h
      rw [hspan] at hlen
      have hpos : 0 < digits.length := List.length_pos_iff.2 hne
      dsimp only at hlen
      omega

theorem length_le_of_readFraction? {s rest : List Char} {digits : Option (List Char)}
    (h : readFraction? s = some (digits, rest)) : rest.length ≤ s.length := by
  unfold readFraction? at h
  split at h
  · next s =>
    split at h
    · cases h
    · next ds rest' _ hspan =>
      have hlen := length_spanDigits s
      cases h
      rw [hspan] at hlen
      dsimp only at hlen
      simp only [List.length_cons]
      omega
  · cases h
    exact Nat.le_refl _

theorem length_readExponentSign_le (s : List Char) : (readExponentSign s).2.length ≤ s.length := by
  unfold readExponentSign
  split <;> simp

theorem length_le_of_readExponent? {s rest : List Char} {power : Option TenPower}
    (h : readExponent? s = some (power, rest)) : rest.length ≤ s.length := by
  unfold readExponent? at h
  split at h
  · next c s =>
    split at h
    · have hsign := length_readExponentSign_le s
      dsimp only at h
      split at h
      · cases h
      · next ds rest' _ hspan =>
        have hlen := length_spanDigits (readExponentSign s).2
        cases h
        rw [hspan] at hlen
        dsimp only at hlen
        simp only [List.length_cons]
        omega
    · cases h
      exact Nat.le_refl _
  · cases h
    exact Nat.le_refl _

theorem length_lt_of_readStrict? {s rest : List Char} {x : Numeral}
    (h : readStrict? s = some (x, rest)) : rest.length < s.length := by
  unfold readStrict? at h
  simp only [Option.bind_eq_bind, Option.bind_eq_some_iff] at h
  obtain ⟨⟨whole, s₁⟩, h₁, ⟨fraction, s₂⟩, h₂, ⟨exponent, s₃⟩, h₃, h⟩ := h
  cases h
  have h₀ := length_readSign_le s
  have h₁ := length_lt_of_readWhole? h₁
  have h₂ := length_le_of_readFraction? h₂
  have h₃ := length_le_of_readExponent? h₃
  dsimp only at h₂ h₃ ⊢
  omega

/-- Reads a text that is one number in the strict form. -/
def ofStrict? (s : List Char) : Option Numeral :=
  match readStrict? s with
  | some (x, []) => some x
  | _ => none

end Numeral

end RecordFilter.Number
