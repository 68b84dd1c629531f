import Mathlib.Tactic.Common
import RecordFilter.Proofs.JsonTokens
import RecordFilter.Proofs.PrintedText
import RecordFilter.Proofs.ReadFilters

/-!
# Integers are read exactly

A token of digits is read as the integer that it denotes, whatever its length and however many zeros
it starts with: as an integer of 64 bits, as a decimal without digits after the point, or not at
all. Which of them depends on the integer alone (`integerScalar?`), and the text of the result is
the one token of that integer that holds nothing superfluous.
-/

namespace RecordFilter.Proofs
open RecordFilter.Number RecordFilter.Text

/-- A token of digits, with a minus sign before them or without. -/
structure IntegerToken where
  negative : Bool
  digits : List Char
  digits_ne_nil : digits ≠ []
  isDigit_digits : ∀ c ∈ digits, c.isDigit = true

namespace IntegerToken

/-- The token as a written number. -/
def numeral (x : IntegerToken) : Numeral := ⟨x.negative, x.digits, none, none⟩

def text (x : IntegerToken) : List Char := x.numeral.text

/-- The integer that the token denotes. -/
def value (x : IntegerToken) : Int := Decimal.signed x.negative (digitsValue x.digits)

/-- The token has no leading zero but in `0` itself, and no minus sign before a zero. -/
structure IsCanonical (x : IntegerToken) : Prop where
  head_digits : x.digits.head? = some '0' → x.digits = ['0']
  sign : x.negative = true → x.value ≠ 0

lemma isPlainNumeral (x : IntegerToken) : IsPlainNumeral x.numeral where
  whole_ne_nil := x.digits_ne_nil
  isDigit_whole := x.isDigit_digits
  fraction_ne_nil := by simp [numeral]
  isDigit_fraction := by simp [numeral]
  exponent := rfl

/-- The token that is written for an integer. -/
def ofInt (n : Int) : IntegerToken :=
  ⟨decide (n < 0), digitsOf n.natAbs, Nat.toDigits_ne_nil, isDigit_digitsOf _⟩

lemma text_ofInt (n : Int) : (ofInt n).text = integerText n :=
  text_integerNumeral n

lemma value_ofInt (n : Int) : (ofInt n).value = n := by
  rw [value, ofInt, digitsValue_digitsOf, signed_natAbs]

lemma isCanonical_ofInt (n : Int) : (ofInt n).IsCanonical where
  head_digits := by
    intro hhead
    change (digitsOf n.natAbs).head? = some '0' at hhead
    change digitsOf n.natAbs = ['0']
    by_cases hn : n.natAbs = 0
    · rw [hn]
      rfl
    · obtain ⟨c, digits, hdigits, hc⟩ := exists_digitsOf_eq_cons hn
      rw [hdigits, List.head?_cons, Option.some.injEq] at hhead
      exact absurd hhead hc
  sign := by
    intro hsign
    have hn : n < 0 := of_decide_eq_true hsign
    rw [value_ofInt]
    omega

end IntegerToken

/-- The scalar that is read for an integer: a decimal if it takes more than 64 bits, and none if it
takes more than 96. -/
def integerScalar? (n : Int) : Option Scalar :=
  if fitsInteger n then some (.integer (Int64.ofInt n))
  else (Decimal.ofParts? n 0).map .decimal

/-- Digits before the point are taken exactly or not at all. -/
lemma toOption_ofNumeral (x : IntegerToken) :
    (Decimal.ofNumeral x.numeral).toOption = Decimal.ofParts? x.value 0 := by
  have hdigits : Decimal.ofDigits? x.numeral.negative x.numeral.whole
      (x.numeral.fraction.getD []) = Decimal.ofParts? x.value 0 := by
    rw [Decimal.ofDigits?]
    by_cases hlt : digitsValue x.digits < Decimal.bound
    · exact if_pos hlt
    · have hbound : ¬(x.value.natAbs < Decimal.bound ∧ 0 ≤ Decimal.maxScale) := by
        rw [IntegerToken.value, natAbs_signed]
        exact fun h => hlt h.1
      rw [Decimal.ofParts?, dif_neg hbound]
      exact if_neg hlt
  rw [Decimal.ofNumeral, hdigits]
  cases Decimal.ofParts? x.value 0 with
  | none => rfl
  | some d => rfl

lemma ofNumeral?_eq_integerScalar? (x : IntegerToken) :
    Scalar.ofNumeral? x.numeral = integerScalar? x.value := by
  rw [Scalar.ofNumeral?, integerScalar?, toOption_ofNumeral]
  by_cases hfits : fitsInteger x.value
  · rw [if_pos hfits]
    exact if_pos ⟨rfl, hfits⟩
  · rw [if_neg hfits]
    exact if_neg fun h => hfits h.2

/-- What is read from a token depends on its integer, and a refusal quotes the token. -/
lemma ofToken_eq (policy : Policy) (x : IntegerToken) :
    Scalar.ofToken policy x.text = (integerScalar? x.value).elim
      (.error (.invalidValue (String.ofList x.text))) .ok := by
  have htrim : trim x.text = x.text :=
    trim_eq_self (isElementText_of_isPlainNumeral x.isPlainNumeral).trimmed
  have hread : Scalar.ofTrimmed? policy x.text = integerScalar? x.value := by
    rw [IntegerToken.text, ofTrimmed?_text_of_isPlainNumeral x.isPlainNumeral,
      ofNumeral?_eq_integerScalar?]
  rw [Scalar.ofToken, htrim, hread]
  cases integerScalar? x.value with
  | none => rfl
  | some value => rfl

lemma ofToken_eq_ok_iff {policy : Policy} {x : IntegerToken} {value : Scalar} :
    Scalar.ofToken policy x.text = .ok value ↔ integerScalar? x.value = some value := by
  rw [ofToken_eq]
  cases integerScalar? x.value with
  | none => exact ⟨nofun, nofun⟩
  | some value' => simp

lemma exists_integerScalar?_integer {n : Int} (h : fitsInteger n) :
    ∃ m : Int64, m.toInt = n ∧ integerScalar? n = some (.integer m) :=
  ⟨Int64.ofInt n, toInt_ofInt_of_fitsInteger h, if_pos h⟩

lemma exists_integerScalar?_decimal {n : Int} (h : ¬fitsInteger n)
    (hlt : n.natAbs < Decimal.bound) :
    ∃ d : Decimal, d.units = n ∧ d.scale = 0 ∧ integerScalar? n = some (.decimal d) := by
  refine ⟨⟨n, 0, hlt, Nat.zero_le _⟩, rfl, rfl, ?_⟩
  rw [integerScalar?, if_neg h, Decimal.ofParts?, dif_pos ⟨hlt, Nat.zero_le _⟩]
  rfl

lemma integerScalar?_eq_none {n : Int} (h : Decimal.bound ≤ n.natAbs) :
    integerScalar? n = none := by
  have hfits : ¬fitsInteger n := not_fitsInteger_of_le (by omega)
  have hbound : ¬(n.natAbs < Decimal.bound ∧ 0 ≤ Decimal.maxScale) := fun h' => by omega
  rw [integerScalar?, if_neg hfits, Decimal.ofParts?, dif_neg hbound]
  rfl

/-- The scalar of an integer is written as the integer. -/
lemma text_of_integerScalar? {n : Int} {value : Scalar} (h : integerScalar? n = some value) :
    value.text = integerText n := by
  by_cases hfits : fitsInteger n
  · obtain ⟨m, hm, hread⟩ := exists_integerScalar?_integer hfits
    rw [hread] at h
    cases h
    rw [Scalar.text, hm]
  · by_cases hlt : n.natAbs < Decimal.bound
    · obtain ⟨d, hunits, hscale, hread⟩ := exists_integerScalar?_decimal hfits hlt
      rw [hread] at h
      cases h
      rw [Scalar.text, Decimal.text, numeral_of_scale_eq_zero hscale, text_integerNumeral, hunits]
    · rw [integerScalar?_eq_none (Nat.not_lt.1 hlt)] at h
      cases h

/-- A token of an integer is read exactly, by both policies: as an integer if 64 bits are enough for
it, as a decimal without digits after the point if 96 bits are, and as no value if they are not.
What was read is written as the canonical token of the same integer, from which it is read
again. -/
theorem ofToken_integerToken (policy : Policy) (x : IntegerToken) :
    (fitsInteger x.value →
      ∃ n : Int64, n.toInt = x.value ∧ Scalar.ofToken policy x.text = .ok (.integer n)) ∧
    (¬fitsInteger x.value → x.value.natAbs < Decimal.bound →
      ∃ d : Decimal, d.toRat = x.value ∧ d.scale = 0 ∧
        Scalar.ofToken policy x.text = .ok (.decimal d)) ∧
    (Decimal.bound ≤ x.value.natAbs →
      Scalar.ofToken policy x.text = .error (.invalidValue (String.ofList x.text))) ∧
    ∀ value, Scalar.ofToken policy x.text = .ok value →
      (∃ y : IntegerToken, y.IsCanonical ∧ y.value = x.value ∧ y.text = value.text) ∧
      ∀ policy', Scalar.ofToken policy' value.text = .ok value := by
  refine ⟨fun hfits => ?_, fun hfits hlt => ?_, fun hle => ?_, fun value hvalue => ?_⟩
  · obtain ⟨n, hn, hread⟩ := exists_integerScalar?_integer hfits
    exact ⟨n, hn, ofToken_eq_ok_iff.2 hread⟩
  · obtain ⟨d, hunits, hscale, hread⟩ := exists_integerScalar?_decimal hfits hlt
    have hrat : d.toRat = x.value := by
      rw [Decimal.toRat, hscale, hunits, Nat.pow_eq, Nat.pow_zero, Rat.mkRat_one]
    exact ⟨d, hrat, hscale, ofToken_eq_ok_iff.2 hread⟩
  · rw [ofToken_eq, integerScalar?_eq_none hle]
    rfl
  · have hread := ofToken_eq_ok_iff.1 hvalue
    have htext : (IntegerToken.ofInt x.value).text = value.text := by
      rw [IntegerToken.text_ofInt, text_of_integerScalar? hread]
    refine ⟨⟨_, IntegerToken.isCanonical_ofInt x.value, IntegerToken.value_ofInt _, htext⟩,
      fun policy' => ?_⟩
    rw [← htext, ofToken_eq_ok_iff, IntegerToken.value_ofInt]
    exact hread

/-- Seven below zero, with more digits than it needs. -/
def paddedToken : IntegerToken := ⟨true, "0007".toList, by decide, by decide⟩

/-- The first integer that takes more than 64 bits. -/
def wideToken : IntegerToken := ⟨false, "9223372036854775808".toList, by decide, by decide⟩

/-- The first integer that takes more than 96 bits. -/
def excessiveToken : IntegerToken :=
  ⟨false, "79228162514264337593543950336".toList, by decide, by decide⟩

/-- Superfluous zeros are dropped, and the kind of scalar changes at the limits. -/
theorem ofToken_integerToken_limits :
    (fitsInteger paddedToken.value ∧ ∃ n : Int64, n.toInt = -7 ∧
      Scalar.ofToken .strict "-0007".toList = .ok (.integer n)) ∧
    (¬fitsInteger wideToken.value ∧ wideToken.value.natAbs < Decimal.bound ∧
      ∃ d : Decimal, d.toRat = (9223372036854775808 : Int) ∧ d.scale = 0 ∧
        Scalar.ofToken .strict "9223372036854775808".toList = .ok (.decimal d)) ∧
    (Decimal.bound ≤ excessiveToken.value.natAbs ∧
      Scalar.ofToken .lenient "79228162514264337593543950336".toList =
        .error (.invalidValue "79228162514264337593543950336")) ∧
    Scalar.ofToken .strict "-0007".toList = .ok (.integer (-7)) ∧
    (∃ y : IntegerToken, y.IsCanonical ∧ y.value = -7 ∧ y.text = "-7".toList) ∧
    Scalar.ofToken .lenient "-7".toList = .ok (.integer (-7)) := by
  have hfits : fitsInteger paddedToken.value := by decide +kernel
  have hwide : ¬fitsInteger wideToken.value := by decide +kernel
  have hbound : wideToken.value.natAbs < Decimal.bound := by decide +kernel
  have hexcessive : Decimal.bound ≤ excessiveToken.value.natAbs := by decide +kernel
  have hread : Scalar.ofToken .strict paddedToken.text = .ok (.integer (-7)) := by decide +kernel
  obtain ⟨hinteger, -, -, hprinted⟩ := ofToken_integerToken .strict paddedToken
  obtain ⟨hcanonical, hagain⟩ := hprinted _ hread
  exact ⟨⟨hfits, hinteger hfits⟩,
    ⟨hwide, hbound, (ofToken_integerToken .strict wideToken).2.1 hwide hbound⟩,
    ⟨hexcessive, (ofToken_integerToken .lenient excessiveToken).2.2.1 hexcessive⟩,
    hread, hcanonical, hagain .lenient⟩

end RecordFilter.Proofs
