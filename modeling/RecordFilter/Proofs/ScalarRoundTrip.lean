import Mathlib.Data.List.TakeWhile
import Mathlib.Tactic.Common
import RecordFilter.Predicate.Canonical
import RecordFilter.Proofs.FlatForms

/-!
# Scalars are read back from their text

The text of a scalar is read as the scalar itself, but for two kinds: a date comes back as the
string of its instant, and a decimal without digits after the point that fits in 64 bits as an
integer. Neither changes what the text denotes, and neither depends on the policy.
-/

namespace RecordFilter.Proofs
open RecordFilter.Text RecordFilter.Number

/-- A numeral without exponent and with digits on both sides of its point, if it has one. -/
structure IsPlainNumeral (x : Numeral) : Prop where
  whole_ne_nil : x.whole ≠ []
  isDigit_whole : ∀ c ∈ x.whole, c.isDigit = true
  fraction_ne_nil : ∀ digits ∈ x.fraction, digits ≠ []
  isDigit_fraction : ∀ digits ∈ x.fraction, ∀ c ∈ digits, c.isDigit = true
  exponent : x.exponent = none

lemma spanDigits_of_digits {s : List Char} (hs : ∀ c ∈ s, c.isDigit = true) :
    Numeral.spanDigits s = (s, []) := by
  rw [Numeral.spanDigits, List.takeWhile_eq_self_iff.2 hs, List.dropWhile_eq_nil_iff.2 hs]

lemma spanDigits_append_cons {s : List Char} {c : Char} (hs : ∀ c ∈ s, c.isDigit = true)
    (hc : c.isDigit = false) (t : List Char) :
    Numeral.spanDigits (s ++ c :: t) = (s, c :: t) := by
  rw [Numeral.spanDigits, takeWhile_append_cons hs hc, dropWhile_append_cons hs hc]

namespace IsPlainNumeral

variable {x : Numeral}

lemma mem_text (h : IsPlainNumeral x) {c : Char} (hc : c ∈ x.text) :
    c.isDigit = true ∨ c = '-' ∨ c = '.' := by
  obtain ⟨negative, whole, fraction, exponent⟩ := x
  obtain ⟨-, hwhole, -, hfraction, hexponent⟩ := h
  dsimp only at hwhole hfraction hexponent
  subst hexponent
  simp only [Numeral.text, List.append_nil, List.mem_append] at hc
  rcases hc with (hc | hc) | hc
  · cases negative
    · cases hc
    · exact .inr (.inl (List.mem_singleton.1 hc))
  · exact .inl (hwhole c hc)
  · cases fraction with
    | none => cases hc
    | some digits =>
      rcases List.mem_cons.1 hc with rfl | hc
      · exact .inr (.inr rfl)
      · exact .inl (hfraction digits rfl c hc)

lemma text_ne_nil (h : IsPlainNumeral x) : x.text ≠ [] := by
  simp [Numeral.text, h.whole_ne_nil]

lemma ofPlain?_text (h : IsPlainNumeral x) : Numeral.ofPlain? x.text = some x := by
  obtain ⟨negative, whole, fraction, exponent⟩ := x
  obtain ⟨hne, hwhole, hne', hfraction, hexponent⟩ := h
  dsimp only at hne hwhole hne' hfraction hexponent
  subst hexponent
  obtain ⟨c, whole, rfl⟩ := List.exists_cons_of_ne_nil hne
  have hc : c ≠ '-' := by
    rintro rfl
    exact absurd (hwhole '-' List.mem_cons_self) (by decide)
  have hsign : ∀ rest, Numeral.readSign ((if negative then ['-'] else []) ++ c :: whole ++ rest) =
      (negative, c :: whole ++ rest) := by
    intro rest
    cases negative
    · simp [Numeral.readSign, hc]
    · rfl
  cases fraction with
  | none =>
    rw [Numeral.text, List.append_nil, Numeral.ofPlain?, hsign, List.append_nil]
    simp only [spanDigits_of_digits hwhole]
  | some digits =>
    obtain ⟨d, digits, rfl⟩ := List.exists_cons_of_ne_nil (hne' digits rfl)
    rw [Numeral.text, List.append_nil, Numeral.ofPlain?, hsign]
    simp only [spanDigits_append_cons hwhole (by decide : '.'.isDigit = false),
      spanDigits_of_digits (hfraction _ rfl)]

end IsPlainNumeral

lemma ofTrimmed?_text_of_isPlainNumeral {x : Numeral} (h : IsPlainNumeral x) (policy : Policy) :
    Scalar.ofTrimmed? policy x.text = Scalar.ofNumeral? x := by
  have hnull : x.text ≠ "null".toList := by
    intro heq
    have hn : 'n' ∈ x.text := by rw [heq]; decide
    have hnot : ¬('n'.isDigit = true ∨ 'n' = '-' ∨ 'n' = '.') := by decide
    exact hnot (h.mem_text hn)
  have hquote : x.text.head? ≠ some '\'' := by
    intro heq
    have hnot : ¬('\''.isDigit = true ∨ '\'' = '-' ∨ '\'' = '.') := by decide
    exact hnot (h.mem_text (List.mem_of_head? heq))
  unfold Scalar.ofTrimmed?
  rw [if_neg (not_or.2 ⟨h.text_ne_nil, hnull⟩), if_neg hquote, h.ofPlain?_text]

/-- The numeral of an integer. -/
def integerNumeral (n : Int) : Numeral :=
  ⟨decide (n < 0), digitsOf n.natAbs, none, none⟩

lemma text_integerNumeral (n : Int) : (integerNumeral n).text = integerText n := by
  by_cases h : n < 0 <;> simp [integerNumeral, integerText, Numeral.text, h]

lemma isDigit_digitsOf (n : Nat) : ∀ c ∈ digitsOf n, c.isDigit = true :=
  fun _ h => Nat.isDigit_of_mem_toDigits (by decide) (by decide) h

lemma isPlainNumeral_integerNumeral (n : Int) : IsPlainNumeral (integerNumeral n) where
  whole_ne_nil := Nat.toDigits_ne_nil
  isDigit_whole := isDigit_digitsOf _
  fraction_ne_nil := by simp [integerNumeral]
  isDigit_fraction := by simp [integerNumeral]
  exponent := rfl

lemma signed_natAbs (n : Int) : Decimal.signed (decide (n < 0)) n.natAbs = n := by
  by_cases h : n < 0
  · simp only [Decimal.signed, h, decide_true, if_true]
    omega
  · simp only [Decimal.signed, h, decide_false, Bool.false_eq_true, if_false]
    omega

lemma natAbs_signed (negative : Bool) (magnitude : Nat) :
    (Decimal.signed negative magnitude).natAbs = magnitude := by
  cases negative <;> simp [Decimal.signed]

@[simp] lemma digitsValue_digitsOf (n : Nat) : digitsValue (digitsOf n) = n :=
  Nat.ofDigitChars_ten_toDigits

/-- The bounds of 64 bits. -/
def fitsInteger (n : Int) : Prop := Int64.minValue.toInt ≤ n ∧ n ≤ Int64.maxValue.toInt

instance (n : Int) : Decidable (fitsInteger n) := inferInstanceAs (Decidable (_ ∧ _))

lemma toInt_ofInt_of_fitsInteger {n : Int} (h : fitsInteger n) : (Int64.ofInt n).toInt = n := by
  have hlt : n < 2 ^ 63 := by
    rw [← Int64.toInt_maxValue_add_one]
    exact Int.lt_add_one_of_le h.2
  exact Int64.toInt_ofInt_of_le h.1 hlt

lemma ofNumeral?_integerNumeral {n : Int} (h : fitsInteger n) :
    Scalar.ofNumeral? (integerNumeral n) = some (.integer (Int64.ofInt n)) := by
  have hvalue : Decimal.signed (integerNumeral n).negative
      (digitsValue (integerNumeral n).whole) = n := by
    rw [integerNumeral, digitsValue_digitsOf, signed_natAbs]
  rw [Scalar.ofNumeral?]
  simp only [hvalue]
  rw [if_pos ⟨rfl, h⟩]

lemma length_padDigits (width : Nat) (digits : List Char) :
    width ≤ (padDigits width digits).length := by
  rw [padDigits, List.length_append, List.length_replicate]
  omega

lemma isDigit_padDigits {digits : List Char} (h : ∀ c ∈ digits, c.isDigit = true) (width : Nat) :
    ∀ c ∈ padDigits width digits, c.isDigit = true := by
  intro c hc
  rcases List.mem_append.1 hc with hc | hc
  · rw [List.eq_of_mem_replicate hc]
    decide
  · exact h c hc

lemma digitsValue_padDigits (width : Nat) (digits : List Char) :
    digitsValue (padDigits width digits) = digitsValue digits := by
  rw [digitsValue, padDigits, Nat.ofDigitChars_append, Nat.ofDigitChars_replicate_zero,
    Nat.mul_zero, digitsValue]

lemma isPlainNumeral_numeral (d : Decimal) : IsPlainNumeral d.numeral := by
  have hlength := length_padDigits (d.scale + 1) (digitsOf d.units.natAbs)
  have hdigits := isDigit_padDigits (isDigit_digitsOf d.units.natAbs) (d.scale + 1)
  refine ⟨?_, ?_, ?_, ?_, rfl⟩
  · rw [Decimal.numeral, ← List.length_pos_iff, List.length_take]
    omega
  · exact fun c hc => hdigits c (List.mem_of_mem_take hc)
  · intro digits hmem
    simp only [Decimal.numeral] at hmem
    split at hmem
    · cases hmem
    · cases hmem
      rw [← List.length_pos_iff, List.length_drop]
      omega
  · intro digits hmem c hc
    simp only [Decimal.numeral] at hmem
    split at hmem
    · cases hmem
    · cases hmem
      exact hdigits c (List.mem_of_mem_drop hc)

lemma le_ofDigitChars (digits : List Char) (n : Nat) : n ≤ Nat.ofDigitChars 10 digits n := by
  rw [Nat.ofDigitChars_eq_ofDigitChars_zero]
  have hpos : 0 < 10 ^ digits.length := Nat.pow_pos (by decide)
  have hle : 1 * n ≤ 10 ^ digits.length * n := Nat.mul_le_mul_right n hpos
  omega

lemma digitsValue_singleton (c : Char) : digitsValue [c] = c.toNat - '0'.toNat := by
  simp [digitsValue, Nat.ofDigitChars_cons]

/-- Digits after the point are all taken if the number fits with them. -/
lemma takeFraction_of_lt {magnitude scale : Nat} {digits : List Char}
    (hscale : scale + digits.length ≤ Decimal.maxScale)
    (hlt : Nat.ofDigitChars 10 digits magnitude < Decimal.bound) :
    Decimal.takeFraction magnitude scale digits =
      ⟨Nat.ofDigitChars 10 digits magnitude, scale + digits.length, none⟩ := by
  induction digits generalizing magnitude scale with
  | nil => rfl
  | cons c digits ih =>
    rw [Nat.ofDigitChars_cons] at hlt ⊢
    rw [List.length_cons] at hscale ⊢
    have hle := le_ofDigitChars digits (10 * magnitude + (c.toNat - '0'.toNat))
    rw [Decimal.takeFraction, digitsValue_singleton, if_pos ⟨by omega, by omega⟩, ih (by omega) hlt,
      Nat.add_right_comm, Nat.add_assoc]

lemma digits_numeral (d : Decimal) :
    Nat.ofDigitChars 10 (d.numeral.fraction.getD []) (digitsValue d.numeral.whole) =
        d.units.natAbs ∧ (d.numeral.fraction.getD []).length = d.scale := by
  have hlength := length_padDigits (d.scale + 1) (digitsOf d.units.natAbs)
  have hfraction : d.numeral.fraction.getD [] =
      (padDigits (d.scale + 1) (digitsOf d.units.natAbs)).drop
        ((padDigits (d.scale + 1) (digitsOf d.units.natAbs)).length - d.scale) := by
    by_cases hscale : d.scale = 0
    · simp [Decimal.numeral, hscale]
    · simp [Decimal.numeral, hscale]
  rw [hfraction]
  constructor
  · rw [Decimal.numeral, digitsValue, ← Nat.ofDigitChars_append, List.take_append_drop,
      ← digitsValue, digitsValue_padDigits, digitsValue_digitsOf]
  · rw [List.length_drop]
    omega

/-- Digits that fit are read without rounding. -/
lemma ofDigits?_of_lt (negative : Bool) {whole fraction : List Char}
    (hscale : fraction.length ≤ Decimal.maxScale)
    (hlt : Nat.ofDigitChars 10 fraction (digitsValue whole) < Decimal.bound) :
    ∃ d, Decimal.ofDigits? negative whole fraction = some d ∧
      d.units = Decimal.signed negative (Nat.ofDigitChars 10 fraction (digitsValue whole)) ∧
      d.scale = fraction.length := by
  have hwhole : digitsValue whole < Decimal.bound := Nat.lt_of_le_of_lt (le_ofDigitChars _ _) hlt
  have htake := @takeFraction_of_lt _ 0 _ (by rwa [Nat.zero_add]) hlt
  rw [Nat.zero_add] at htake
  have hunits : (Decimal.signed negative
      (Nat.ofDigitChars 10 fraction (digitsValue whole))).natAbs < Decimal.bound := by
    rwa [natAbs_signed]
  refine ⟨⟨_, fraction.length, hunits, hscale⟩, ?_, rfl, rfl⟩
  rw [Decimal.ofDigits?]
  simp only [if_pos hwhole, htake, Decimal.Taken.rounded?, bind, Option.bind]
  rw [Decimal.ofParts?, dif_pos ⟨hunits, hscale⟩]

lemma ofNumeral_numeral (d : Decimal) : Decimal.ofNumeral d.numeral = .ok d := by
  obtain ⟨hvalue, hlength⟩ := digits_numeral d
  obtain ⟨d', hdigits, hunits, hscale⟩ :=
    ofDigits?_of_lt d.numeral.negative (hlength.symm ▸ d.scale_le) (hvalue.symm ▸ d.units_lt)
  have hsigned : Decimal.signed d.numeral.negative d.units.natAbs = d.units := signed_natAbs d.units
  rw [hvalue, hsigned] at hunits
  rw [hlength] at hscale
  obtain rfl : d' = d := by
    cases d
    cases d'
    cases hunits
    cases hscale
    rfl
  rw [Decimal.ofNumeral, hdigits]
  rfl

/-! ### Scalars -/

/-- The scalar that is read from the text of a scalar. -/
def rereadScalar : Scalar → Scalar
  | .decimal d =>
    if d.scale = 0 ∧ fitsInteger d.units then .integer (Int64.ofInt d.units) else .decimal d
  | .date d => .string (String.ofList d.instant)
  | value => value

lemma numeral_of_scale_eq_zero {d : Decimal} (h : d.scale = 0) :
    d.numeral = integerNumeral d.units := by
  have hpos : 0 < (digitsOf d.units.natAbs).length := List.length_pos_iff.2 Nat.toDigits_ne_nil
  have hpad : padDigits 1 (digitsOf d.units.natAbs) = digitsOf d.units.natAbs := by
    rw [padDigits, Nat.sub_eq_zero_of_le hpos]
    rfl
  simp [Decimal.numeral, integerNumeral, h, hpad]

lemma ofNumeral?_numeral (d : Decimal) :
    Scalar.ofNumeral? d.numeral = some (rereadScalar (.decimal d)) := by
  by_cases hscale : d.scale = 0
  · by_cases hfits : fitsInteger d.units
    · rw [numeral_of_scale_eq_zero hscale, ofNumeral?_integerNumeral hfits, rereadScalar,
        if_pos ⟨hscale, hfits⟩]
    · have hvalue : Decimal.signed d.numeral.negative (digitsValue d.numeral.whole) = d.units := by
        rw [numeral_of_scale_eq_zero hscale, integerNumeral, digitsValue_digitsOf, signed_natAbs]
      rw [Scalar.ofNumeral?]
      simp only [hvalue]
      rw [if_neg (fun h => hfits h.2), ofNumeral_numeral, rereadScalar,
        if_neg (fun h => hfits h.2)]
      rfl
  · have hfraction : d.numeral.fraction ≠ none := by simp [Decimal.numeral, hscale]
    rw [Scalar.ofNumeral?, if_neg (fun h => hfraction h.1), ofNumeral_numeral, rereadScalar,
      if_neg (fun h => hscale h.1)]
    rfl

lemma ofTrimmed?_encode (s : List Char) (policy : Policy) :
    Scalar.ofTrimmed? policy (Literal.encode s) = some (.string (String.ofList s)) := by
  have hnull : ¬(Literal.encode s = [] ∨ Literal.encode s = "null".toList) := by
    rw [Literal.encode]
    rintro (h | h) <;> cases h
  have hquote : (Literal.encode s).head? = some '\'' := rfl
  unfold Scalar.ofTrimmed?
  rw [if_neg hnull, if_pos hquote, Literal.decode_encode]
  rfl

/-- The text of a scalar is read back, whatever the policy. -/
theorem ofTrimmed?_text (value : Scalar) (policy : Policy) :
    Scalar.ofTrimmed? policy value.text = some (rereadScalar value) := by
  cases value with
  | null => rfl
  | boolean b => cases b <;> rfl
  | integer n =>
    have hfits : fitsInteger n.toInt := ⟨n.minValue_le_toInt, n.toInt_le⟩
    rw [Scalar.text, ← text_integerNumeral,
      ofTrimmed?_text_of_isPlainNumeral (isPlainNumeral_integerNumeral _),
      ofNumeral?_integerNumeral hfits, Int64.ofInt_toInt]
    rfl
  | decimal d =>
    rw [Scalar.text, Decimal.text, ofTrimmed?_text_of_isPlainNumeral (isPlainNumeral_numeral d),
      ofNumeral?_numeral]
  | string s =>
    rw [Scalar.text, ofTrimmed?_encode, String.ofList_toList]
    rfl
  | date d => rw [Scalar.text, ofTrimmed?_encode, rereadScalar]

/-- What is read back denotes what the text was written for. -/
lemma worth_rereadScalar (value : Scalar) :
    (rereadScalar value).worth = value.asPrinted.worth := by
  cases value with
  | decimal d =>
    rw [rereadScalar]
    split
    · next h =>
      have hrat : d.toRat = d.units := by
        rw [Decimal.toRat, h.1, Nat.pow_eq, Nat.pow_zero, Rat.mkRat_one]
      rw [Scalar.worth, toInt_ofInt_of_fitsInteger h.2, ← hrat]
      rfl
    · rfl
  | _ => rfl

lemma text_rereadScalar (value : Scalar) : (rereadScalar value).text = value.text := by
  cases value with
  | decimal d =>
    rw [rereadScalar]
    split
    · next h =>
      rw [Scalar.text, Scalar.text, toInt_ofInt_of_fitsInteger h.2, Decimal.text,
        numeral_of_scale_eq_zero h.1, text_integerNumeral]
    · rfl
  | date d => rw [rereadScalar, Scalar.text, String.toList_ofList, Scalar.text]
  | _ => rfl

end RecordFilter.Proofs
