import RecordFilter.Proofs.JsonGroups
import RecordFilter.Proofs.ShortestDigits

/-!
# Numbers in JSON

Integers come back from JSON as they were, and so do decimals without digits after the point as
long as they fit in 64 bits. Every other decimal passes through the binary64 format. It keeps its
worth if it has at most fifteen digits, at most 22 of them after the point: the number of the format
has the decimal in its interval, and the shortest digits of that number are those of the decimal.
-/

namespace RecordFilter.Proofs
open RecordFilter.Number

/-- The digits of a numeral on both sides of its point as one natural number. -/
def numeralUnits (x : Numeral) : Nat :=
  Nat.ofDigitChars 10 (x.fraction.getD []) (digitsValue x.whole)

/-- The number of digits after the point, the negative exponent taken into account. -/
def numeralScale (x : Numeral) : Nat :=
  (x.fraction.getD []).length + x.exponent.elim 0 fun power => digitsValue power.digits

/-- The magnitude of a numeral, and a bound on the places that it takes after the point. -/
structure Denotes (x : Numeral) (magnitude : ℚ) (places : Nat) : Prop where
  exponent_negative : ∀ power ∈ x.exponent, power.negative = true
  units : (numeralUnits x : ℚ) = magnitude * 10 ^ numeralScale x
  scale_le : numeralScale x ≤ places

lemma toRat_eq (d : Decimal) : d.toRat = d.units / 10 ^ d.scale := by
  rw [Decimal.toRat, Rat.mkRat_eq_div, Nat.pow_eq]
  push_cast
  rfl

lemma cast_signed (negative : Bool) (n : Nat) :
    (Decimal.signed negative n : ℚ) = (if negative then -1 else 1) * n := by
  cases negative <;> simp [Decimal.signed]

/-- A numeral whose digits fit in a decimal is read as what it denotes. -/
lemma Denotes.exists_ofNumeral {x : Numeral} {magnitude : ℚ} {places : Nat}
    (h : Denotes x magnitude places) (hplaces : places ≤ Decimal.maxScale)
    (hlt : numeralUnits x < Decimal.bound) :
    ∃ d, Decimal.ofNumeral x = .ok d ∧ d.toRat = (if x.negative then -1 else 1) * magnitude := by
  have hscale := h.scale_le.trans hplaces
  have hvalue : ∀ d : Decimal, d.units = Decimal.signed x.negative (numeralUnits x) →
      d.scale = numeralScale x → d.toRat = (if x.negative then -1 else 1) * magnitude := by
    intro d hunits hscale
    rw [toRat_eq, hunits, hscale, cast_signed, h.units, ← mul_assoc]
    exact mul_div_cancel_right₀ _ (by positivity)
  rw [numeralScale] at hscale hvalue
  obtain ⟨base, hbase, hunits, hlength⟩ :=
    ofDigits?_of_lt x.negative ((Nat.le_add_right _ _).trans hscale) hlt
  rw [Decimal.ofNumeral, hbase]
  obtain ⟨negative, whole, fraction, exponent⟩ := x
  cases exponent with
  | none => exact ⟨base, rfl, hvalue base hunits hlength⟩
  | some power =>
    obtain ⟨sign, digits⟩ := power
    obtain rfl : sign = true := h.exponent_negative _ rfl
    change _ + digitsValue digits ≤ _ at hscale
    have hdigits : ¬Decimal.maxScale < digitsValue digits := by omega
    have hsum : base.scale + digitsValue digits ≤ Decimal.maxScale := by
      rw [hlength]
      exact hscale
    refine ⟨⟨base.units, base.scale + digitsValue digits, base.units_lt, hsum⟩, ?_,
      hvalue _ hunits (congrArg (· + digitsValue digits) hlength)⟩
    have hlower : base.lower? (digitsValue digits) =
        some ⟨base.units, base.scale + digitsValue digits, base.units_lt, hsum⟩ := by
      rw [Decimal.lower?]
      dsimp only
      rw [if_pos hsum, Decimal.ofParts?, dif_pos ⟨base.units_lt, hsum⟩]
    simp only [if_neg hdigits, if_true, hlower]
    rfl

lemma exists_dropTrailingZeros (digits : List Char) :
    ∃ k, digits = dropTrailingZeros digits ++ List.replicate k '0' := by
  refine ⟨(digits.reverse.takeWhile (· == '0')).length, ?_⟩
  have hzeros : ∀ c ∈ digits.reverse.takeWhile (· == '0'), c = '0' := by
    intro c hc
    exact beq_iff_eq.1 (List.mem_takeWhile_imp (p := (· == '0')) hc)
  have hsplit := congrArg List.reverse
    (List.takeWhile_append_dropWhile (p := (· == '0')) (l := digits.reverse))
  rw [List.reverse_append, List.reverse_reverse, List.eq_replicate_of_mem hzeros,
    List.reverse_replicate] at hsplit
  exact hsplit.symm

section Forms

variable (negative : Bool) {digits : List Char} {places count : Nat}

/-- All digits stand before the point. -/
lemma denotes_whole (hcount : digits.length ≤ count) (hplaces : 1 ≤ places) :
    Denotes ⟨negative, digits.take count ++ List.replicate (count - digits.length) '0',
      some (orZero (digits.drop count)), none⟩
      (digitsValue digits * 10 ^ ((count : ℤ) - digits.length)) places := by
  obtain ⟨k, rfl⟩ := Nat.exists_eq_add_of_le hcount
  rw [List.take_of_length_le hcount, List.drop_of_length_le hcount, Nat.add_sub_cancel_left]
  refine ⟨by rintro _ ⟨⟩, ?_, hplaces⟩
  have hunits : Nat.ofDigitChars 10 ['0'] (digitsValue (digits ++ List.replicate k '0')) =
      10 * (10 ^ k * digitsValue digits) := by
    rw [digitsValue, Nat.ofDigitChars_append, Nat.ofDigitChars_replicate_zero]
    rfl
  change (Nat.ofDigitChars 10 ['0'] _ : ℚ) = _ * 10 ^ 1
  rw [hunits, Nat.cast_add, add_sub_cancel_left, zpow_natCast]
  push_cast
  ring

/-- The point stands between the digits. -/
lemma denotes_pointed (hcount : count < digits.length)
    (hplaces : digits.length ≤ count + places) :
    Denotes ⟨negative, digits.take count ++ List.replicate (count - digits.length) '0',
      some (orZero (digits.drop count)), none⟩
      (digitsValue digits * 10 ^ ((count : ℤ) - digits.length)) places := by
  obtain ⟨k, hk⟩ := Nat.exists_eq_add_of_le hcount.le
  have hne : (digits.drop count).isEmpty = false := by
    rw [List.isEmpty_eq_false_iff, ← List.length_pos_iff, List.length_drop]
    omega
  have hdrop : (digits.drop count).length = k := by
    rw [List.length_drop, hk, Nat.add_sub_cancel_left]
  rw [orZero, hne, Nat.sub_eq_zero_of_le hcount.le, List.replicate_zero, List.append_nil]
  refine ⟨by rintro _ ⟨⟩, ?_, ?_⟩
  · change (Nat.ofDigitChars 10 (digits.drop count) (digitsValue (digits.take count)) : ℚ) =
      _ * 10 ^ (digits.drop count).length
    have hten : (10 : ℚ) ^ k ≠ 0 := by positivity
    rw [digitsValue, ← Nat.ofDigitChars_append, List.take_append_drop, hdrop, hk, Nat.cast_add,
      sub_add_cancel_left, zpow_neg, zpow_natCast, inv_mul_cancel_right₀ hten]
    rfl
  · change (digits.drop count).length ≤ places
    omega

/-- Zeros stand between the point and the digits. -/
lemma denotes_fractional (zeros : Nat) (hplaces : zeros + digits.length ≤ places) :
    Denotes ⟨negative, ['0'], some (List.replicate zeros '0' ++ digits), none⟩
      (digitsValue digits * 10 ^ (-(zeros : ℤ) - digits.length)) places := by
  have hlength : (List.replicate zeros '0' ++ digits).length = zeros + digits.length := by
    rw [List.length_append, List.length_replicate]
  refine ⟨by rintro _ ⟨⟩, ?_, ?_⟩
  · change (Nat.ofDigitChars 10 (List.replicate zeros '0' ++ digits) 0 : ℚ) =
      _ * 10 ^ (List.replicate zeros '0' ++ digits).length
    have hten : (10 : ℚ) ^ (zeros + digits.length) ≠ 0 := by positivity
    rw [hlength, Nat.ofDigitChars_append, Nat.ofDigitChars_replicate_zero,
      show -(zeros : ℤ) - digits.length = -(zeros + digits.length : ℕ) by push_cast; ring,
      zpow_neg, zpow_natCast, inv_mul_cancel_right₀ hten]
    rfl
  · change (List.replicate zeros '0' ++ digits).length ≤ places
    omega

/-- One digit stands before the point, and an exponent follows. -/
lemma denotes_scientific {power : Nat} (hne : digits ≠ [])
    (hplaces : digits.length - 1 + power ≤ places) :
    Denotes ⟨negative, digits.take 1,
      if (digits.drop 1).isEmpty then none else some (digits.drop 1),
      some ⟨true, digitsOf power⟩⟩
      (digitsValue digits * 10 ^ (1 - (power : ℤ) - digits.length)) places := by
  have hfraction : (if (digits.drop 1).isEmpty then none else some (digits.drop 1)).getD [] =
      digits.drop 1 := by
    split
    · next h => exact (List.isEmpty_iff.1 h).symm
    · rfl
  obtain ⟨k, hk⟩ := Nat.exists_eq_add_one.2 (List.length_pos_iff.2 hne)
  have hdrop : (digits.drop 1).length = k := by
    rw [List.length_drop, hk, Nat.add_sub_cancel]
  have hscale : ∀ x : Numeral, x.fraction.getD [] = digits.drop 1 →
      x.exponent = some ⟨true, digitsOf power⟩ → numeralScale x = k + power := by
    intro x hfraction hexponent
    rw [numeralScale, hfraction, hexponent, hdrop, Option.elim_some, digitsValue_digitsOf]
  refine ⟨?_, ?_, ?_⟩
  · rintro _ ⟨⟩
    rfl
  · have hten : (10 : ℚ) ^ (k + power) ≠ 0 := by positivity
    rw [hscale _ hfraction rfl, numeralUnits, hfraction, digitsValue, ← Nat.ofDigitChars_append,
      List.take_append_drop, hk,
      show 1 - (power : ℤ) - (k + 1 : ℕ) = -(k + power : ℕ) by push_cast; ring, zpow_neg,
      zpow_natCast, inv_mul_cancel_right₀ hten]
    rfl
  · rw [hscale _ hfraction rfl]
    omega

end Forms

/-- Without the zeros at their end the digits are those of a quotient by a power of ten. -/
lemma dropTrailingZeros_digitsOf {units : Nat} (h : 0 < units) :
    dropTrailingZeros (digitsOf units) ≠ [] ∧
      ∃ k, (digitsOf units).length = (dropTrailingZeros (digitsOf units)).length + k ∧
        units = 10 ^ k * digitsValue (dropTrailingZeros (digitsOf units)) := by
  obtain ⟨k, hk⟩ := exists_dropTrailingZeros (digitsOf units)
  have hunits : units = 10 ^ k * digitsValue (dropTrailingZeros (digitsOf units)) := by
    conv_lhs => rw [← digitsValue_digitsOf units, hk, digitsValue, Nat.ofDigitChars_append,
      Nat.ofDigitChars_replicate_zero, ← digitsValue]
  refine ⟨?_, k, ?_, hunits⟩
  · intro hnil
    rw [hnil] at hunits
    exact h.ne' (hunits.trans (Nat.mul_zero _))
  · conv_lhs => rw [hk, List.length_append, List.length_replicate]

/-- The place of the leading digit bounds the number from below. -/
lemma point_le {units : Nat} {exponent : ℤ} {bound : Nat} (hunits : 0 < units)
    (hlt : (units : ℚ) * 10 ^ exponent < 10 ^ bound) :
    exponent + (digitsOf units).length ≤ bound := by
  obtain ⟨j, hj, hlower, -⟩ := length_digitsOf_spec hunits
  have hle : (10 : ℚ) ^ ((j : ℤ) + exponent) ≤ units * 10 ^ exponent := by
    rw [zpow_add₀ (by norm_num), zpow_natCast]
    exact mul_le_mul_of_nonneg_right (mod_cast hlower) (by positivity)
  have hpower : (10 : ℚ) ^ ((j : ℤ) + exponent) < 10 ^ (bound : ℤ) :=
    hle.trans_lt (by rwa [zpow_natCast])
  have hsum := (zpow_lt_zpow_iff_right₀ (by norm_num)).1 hpower
  omega

/-- A number is written as what its shortest digits denote. -/
theorem denotes_numeral {x : Binary64} {magnitude : ℚ} {places : Nat} (hx : x.significand ≠ 0)
    (hvalue : (x.interval.shortest.digits : ℚ) * 10 ^ x.interval.shortest.exponent = magnitude)
    (hpos : 0 < magnitude) (hlt : magnitude < 10 ^ 16) (hone : 1 ≤ places)
    (hplaces : -(places : ℤ) ≤ x.interval.shortest.exponent) :
    Denotes x.numeral magnitude places ∧ x.numeral.negative = x.negative := by
  unfold Binary64.numeral
  rw [if_neg hx]
  generalize x.interval.shortest = found at *
  obtain ⟨units, exponent⟩ := found
  dsimp only at hvalue hplaces ⊢
  have hunits : 0 < units := by
    rw [Nat.pos_iff_ne_zero]
    rintro rfl
    rw [Nat.cast_zero, zero_mul] at hvalue
    exact hpos.ne hvalue
  have hpoint : exponent + (digitsOf units).length ≤ (16 : ℕ) := point_le hunits (hvalue ▸ hlt)
  obtain ⟨hne, k, hlength, hdigits⟩ := dropTrailingZeros_digitsOf hunits
  generalize dropTrailingZeros (digitsOf units) = digits at *
  have hmagnitude : magnitude =
      digitsValue digits * 10 ^ (exponent + (digitsOf units).length - digits.length) := by
    have hcast : (units : ℚ) = 10 ^ k * digitsValue digits := mod_cast hdigits
    rw [← hvalue, hcast, hlength,
      show exponent + (digits.length + k : ℕ) - digits.length = k + exponent by push_cast; ring,
      zpow_add₀ (by norm_num), zpow_natCast]
    ring
  have hleast : (digits.length : ℤ) - (exponent + (digitsOf units).length) ≤ places := by omega
  clear hvalue hplaces hlength
  generalize exponent + ((digitsOf units).length : ℤ) = point at *
  rw [hmagnitude]
  split
  · next hrange =>
    obtain ⟨count, rfl⟩ := Int.eq_ofNat_of_zero_le hrange.1.le
    rw [Int.toNat_natCast]
    rcases Nat.lt_or_ge count digits.length with hlt | hge
    · exact ⟨denotes_pointed x.negative hlt (by omega), rfl⟩
    · exact ⟨denotes_whole x.negative hge hone, rfl⟩
  · next hrange =>
    split
    · next hrange' =>
      obtain ⟨zeros, hzeros⟩ := Int.eq_ofNat_of_zero_le (neg_nonneg.2 hrange'.2)
      obtain rfl : point = -zeros := by omega
      rw [neg_neg, Int.toNat_natCast]
      exact ⟨denotes_fractional x.negative zeros (by omega), rfl⟩
    · next hrange' =>
      obtain ⟨power, hpower⟩ := Int.eq_ofNat_of_zero_le (by omega : 0 ≤ 1 - point)
      obtain rfl : point = 1 - power := by omega
      have hnegative : decide (1 - (power : ℤ) - 1 < 0) = true := decide_eq_true (by omega)
      rw [hnegative, show (1 - (power : ℤ) - 1).natAbs = power by omega]
      exact ⟨denotes_scientific x.negative hne (by have := List.length_pos_iff.2 hne; omega), rfl⟩

lemma le_of_has {i : Interval} {n d : Nat} (h : i.has n d = true) :
    i.low * d ≤ n * i.unit ∧ n * i.unit ≤ i.high * d := by
  rw [Interval.has] at h
  split at h <;> simp only [Bool.and_eq_true, decide_eq_true_eq] at h <;> omega

/-- Numbers that a short decimal rounds to have full significands. -/
lemma full_of_has {x : Binary64} {n s : Nat} (hn : 0 < n) (hs : s < 23)
    (h : x.interval.has n (10 ^ s) = true) : Nat.pow 2 52 ≤ x.significand := by
  rcases x.full with hfull | hunit
  · exact hfull
  · by_contra hlt
    have hhigh := (le_of_has h).2
    have hten : 10 ^ s ≤ 10 ^ 22 := Nat.pow_le_pow_right (by decide) (Nat.le_of_lt_succ hs)
    have hle : x.interval.high ≤ 2 ^ 54 := by
      rw [Binary64.interval, Binary64.scaled, hunit]
      change 4 * (x.significand * 1) + 2 * 1 ≤ 2 ^ 54
      have hpow : Nat.pow 2 52 = 2 ^ 52 := rfl
      omega
    have hunit : 4 * Nat.pow 2 1074 ≤ n * x.interval.unit := Nat.le_mul_of_pos_left _ hn
    have hbound := (hunit.trans hhigh).trans (Nat.mul_le_mul hle hten)
    exact absurd hbound (by decide +kernel)

/-- Only zero has zero in its interval. -/
lemma significand_eq_zero_of_has {x : Binary64} {d : Nat} (hd : 0 < d)
    (h : x.interval.has 0 d = true) : x.significand = 0 := by
  have hlow := (le_of_has h).1
  rw [Nat.zero_mul, Nat.le_zero, Nat.mul_eq_zero] at hlow
  replace hlow := hlow.resolve_right hd.ne'
  rw [Binary64.interval, Binary64.scaled] at hlow
  dsimp only at hlow
  have hstep := two_pow_pos x.unit
  generalize Nat.pow 2 x.unit = step at *
  by_contra hne
  have hle : step ≤ x.significand * step := Nat.le_mul_of_pos_left _ (Nat.pos_of_ne_zero hne)
  split at hlow <;> omega

/-- A decimal with digits after the point becomes a number that has it in its interval. -/
lemma exists_real {d : Decimal} (hpos : 0 < d.scale) (hscale : d.scale < 23)
    (hlt : d.units.natAbs < 2 ^ 53) :
    ∃ x, JsonNumber.ofNumeral? d.numeral = some (.real x) ∧
      x.negative = decide (d.units < 0) ∧
      x.interval.has d.units.natAbs (10 ^ d.scale) = true := by
  obtain ⟨hvalue, hlength⟩ := digits_numeral d
  have hword := @takeWord_of_lt (digitsValue d.numeral.whole) (d.numeral.fraction.getD [])
    (by rw [hvalue]; omega)
  have hwhole := @takeWord_of_lt 0 d.numeral.whole
    (by
      have hle := le_ofDigitChars (d.numeral.fraction.getD []) (digitsValue d.numeral.whole)
      rw [hvalue, digitsValue] at hle
      omega)
  have hfraction : d.numeral.fraction ≠ none := by simp [Decimal.numeral, hpos.ne']
  have hexponent : d.numeral.exponent = none := rfl
  have hwordScale : JsonNumber.wordScale [] (d.numeral.fraction.getD []) [] + 0 = -d.scale := by
    rw [JsonNumber.wordScale, hlength]
    simp
  obtain ⟨y, hy, hsign, hscaled⟩ := exists_nearest?_of_lt d.numeral.negative hlt
  obtain ⟨x, hx, hsign', hhas⟩ := exists_scaleByTen? hscaled hlt hpos hscale
  refine ⟨x, ?_, hsign'.trans hsign, hhas⟩
  unfold JsonNumber.ofNumeral?
  rw [hwhole]
  dsimp only
  rw [if_neg (fun h => hfraction h.2.1), JsonNumber.real?, hwhole]
  dsimp only
  rw [← digitsValue, hword, hvalue, hexponent]
  dsimp only
  rw [if_neg (by decide : ¬JsonNumber.maxExponent < (0 : ℤ).natAbs), hy, Option.bind_eq_bind,
    Option.bind_some, hwordScale, hx]
  rfl

/-- A short decimal is denoted by the numeral of any number that has it in its interval. -/
lemma denotes_numeral_of_has {x : Binary64} {n s : Nat} (hn : 0 < n) (hlt : n < 10 ^ 15)
    (hs : s < 23) (h : x.interval.has n (10 ^ s) = true) :
    Denotes x.numeral (n / 10 ^ s) (s + 1) ∧ x.numeral.negative = x.negative := by
  have hten : 0 < 10 ^ s := Nat.pow_pos (by decide)
  have hfull := full_of_has hn hs h
  have hne : x.significand ≠ 0 := (Nat.lt_of_lt_of_le (two_pow_pos 52) hfull).ne'
  have hmagnitude : (n / 10 ^ s : ℚ) = n * 10 ^ (-(s : ℤ)) := by
    rw [zpow_neg, zpow_natCast, div_eq_mul_inv]
  have hcontains := (has_iff_contains _ _ hten).1 h
  rw [Nat.cast_pow, Nat.cast_ofNat, hmagnitude] at hcontains
  obtain ⟨hvalue, hexponent⟩ := shortest_of_contains (isNarrow_interval hfull) hn hlt hcontains
  rw [← hmagnitude] at hvalue
  have hn' : (0 : ℚ) < n := Nat.cast_pos.2 hn
  have hlt' : (n : ℚ) < 10 ^ 15 := mod_cast hlt
  have hle : (n / 10 ^ s : ℚ) ≤ n := div_le_self hn'.le (one_le_pow₀ (by norm_num))
  have hplaces : -((s + 1 : ℕ) : ℤ) ≤ x.interval.shortest.exponent := by
    push_cast
    linarith
  exact denotes_numeral hne hvalue (by positivity) (by linarith) (Nat.le_add_left 1 s) hplaces

/-- The digits of the numeral are those of the decimal and one more zero at most. -/
lemma Denotes.units_le {x : Numeral} {n s : Nat} (h : Denotes x (n / 10 ^ s) (s + 1)) :
    numeralUnits x ≤ n * 10 := by
  have hpower : (10 : ℚ) ^ numeralScale x ≤ 10 ^ (s + 1) :=
    pow_le_pow_right₀ (by norm_num) h.scale_le
  have hten : (10 : ℚ) ^ s ≠ 0 := by positivity
  have hunits : (numeralUnits x : ℚ) ≤ n * 10 :=
    calc (numeralUnits x : ℚ) = n / 10 ^ s * 10 ^ numeralScale x := h.units
      _ ≤ n / 10 ^ s * 10 ^ (s + 1) := mul_le_mul_of_nonneg_left hpower (by positivity)
      _ = n * 10 := by rw [pow_succ, ← mul_assoc, div_mul_cancel₀ _ hten]
  exact_mod_cast hunits

/-- A short decimal comes back from any number that has it in its interval. -/
theorem exists_ofNumber_real {x : Binary64} {n s : Nat} (hlt : n < 10 ^ 15) (hs : s < 23)
    (h : x.interval.has n (10 ^ s) = true) :
    ∃ d, Scalar.ofNumber (.real x) = .ok (.decimal d) ∧
      d.toRat = (if x.negative then -1 else 1) * (n / 10 ^ s) := by
  have hnumeral : Denotes x.numeral (n / 10 ^ s) (s + 1) ∧ x.numeral.negative = x.negative := by
    rcases Nat.eq_zero_or_pos n with rfl | hn
    · have hzero := significand_eq_zero_of_has (Nat.pow_pos (by decide)) h
      rw [Binary64.numeral, if_pos hzero, Nat.cast_zero, zero_div]
      refine ⟨⟨by rintro _ ⟨⟩, ?_, Nat.le_add_left 1 s⟩, rfl⟩
      rw [zero_mul, Nat.cast_eq_zero]
      rfl
    · exact denotes_numeral_of_has hn hlt hs h
  obtain ⟨hdenotes, hsign⟩ := hnumeral
  have hplaces : s + 1 ≤ Decimal.maxScale := Nat.le_trans hs (by decide)
  have hbound : numeralUnits x.numeral < Decimal.bound := by
    have hunits := hdenotes.units_le
    have hpow : Decimal.bound = 2 ^ 96 := rfl
    omega
  obtain ⟨d, hd, hvalue⟩ := hdenotes.exists_ofNumeral hplaces hbound
  rw [hsign] at hvalue
  refine ⟨d, ?_, hvalue⟩
  rw [Scalar.ofNumber]
  change ((Decimal.ofNumeral x.numeral).map Scalar.decimal).mapError _ = _
  rw [hd]
  rfl

/-! ### Numbers that keep their worth -/

/-- Numbers that JSON keeps: integers, decimals that are whole numbers of 64 bits without a point,
and decimals of at most fifteen digits, at most 22 of them after the point. -/
inductive HasExactJson : Scalar → Prop
  | integer (n : Int64) : HasExactJson (.integer n)
  | whole {d : Decimal} (hscale : d.scale = 0) (hmin : -2 ^ 63 ≤ d.units) (hmax : d.units < 2 ^ 64) :
      HasExactJson (.decimal d)
  | short {d : Decimal} (hscale : d.scale < 23) (hlt : d.units.natAbs < 10 ^ 15) :
      HasExactJson (.decimal d)

/-- A whole number of 64 bits is read as an integer or as a decimal. -/
lemma exists_ofNumber_whole {n : Int} (hmin : -2 ^ 63 ≤ n) (hmax : n < 2 ^ 64) :
    ∃ v, Scalar.ofNumber (.whole n) = .ok v ∧ v.worth = .number n := by
  rw [Scalar.ofNumber]
  split
  · next hfits => exact ⟨_, rfl, by rw [Scalar.worth, toInt_ofInt_of_fitsInteger hfits]⟩
  · have hunits : numeralUnits (integerNumeral n) = n.natAbs := digitsValue_digitsOf _
    have hdenotes : Denotes (integerNumeral n) n.natAbs 0 := by
      refine ⟨by rintro _ ⟨⟩, ?_, Nat.le_refl 0⟩
      rw [hunits]
      exact (mul_one _).symm
    have hbound : numeralUnits (integerNumeral n) < Decimal.bound := by
      have hpow : Decimal.bound = 2 ^ 96 := rfl
      omega
    obtain ⟨d, hd, hvalue⟩ := hdenotes.exists_ofNumeral (Nat.zero_le _) hbound
    refine ⟨.decimal d, ?_, ?_⟩
    · change ((Decimal.ofNumeral (integerNumeral n)).map Scalar.decimal).mapError _ = _
      rw [hd]
      rfl
    · have hsigned := cast_signed (decide (n < 0)) n.natAbs
      rw [signed_natAbs] at hsigned
      rw [Scalar.worth, hvalue, hsigned]
      rfl

lemma HasExactJson.exists_ofJson {v : Scalar} (h : HasExactJson v) :
    ∃ copy, Scalar.ofJson v.toJson = .ok copy ∧ copy.worth = v.worth := by
  have hwhole : ∀ {d : Decimal}, d.scale = 0 → -2 ^ 63 ≤ d.units → d.units < 2 ^ 64 →
      ∃ copy, Scalar.ofJson (Scalar.decimal d).toJson = .ok copy ∧
        copy.worth = (Scalar.decimal d).worth := by
    intro d hscale hmin hmax
    obtain ⟨copy, hcopy, hworth⟩ := exists_ofNumber_whole hmin hmax
    refine ⟨copy, ?_, ?_⟩
    · rw [Scalar.toJson, numeral_of_scale_eq_zero hscale,
        ofNumeral?_integerNumeral_whole hmin hmax]
      exact hcopy
    · rw [hworth, Scalar.worth, toRat_eq, hscale, pow_zero, div_one]
  cases h with
  | integer n =>
    exact ⟨.integer n, scalar_ofJson_toJson (by rintro _ ⟨⟩), rfl⟩
  | whole hscale hmin hmax => exact hwhole hscale hmin hmax
  | @short d hscale hlt =>
    rcases Nat.eq_zero_or_pos d.scale with hzero | hpos
    · exact hwhole hzero (by omega) (by omega)
    · obtain ⟨x, hx, hsign, hhas⟩ := exists_real hpos hscale (by omega)
      obtain ⟨copy, hcopy, hvalue⟩ := exists_ofNumber_real hlt hscale hhas
      refine ⟨.decimal copy, ?_, ?_⟩
      · rw [Scalar.toJson, hx]
        exact hcopy
      · have hsigned := cast_signed (decide (d.units < 0)) d.units.natAbs
        rw [signed_natAbs] at hsigned
        rw [Scalar.worth, Scalar.worth, hvalue, toRat_eq, hsigned, hsign, mul_div_assoc]

/-- Such a number comes back from JSON with its worth, and no two of them that differ become the
same JSON. -/
theorem worth_of_ofJson_toJson {v w : Scalar} (hv : HasExactJson v) (hw : HasExactJson w) :
    (∃ copy, Scalar.ofJson v.toJson = .ok copy ∧ copy.worth = v.worth) ∧
      (v.toJson = w.toJson → v.worth = w.worth) := by
  obtain ⟨copy, hcopy, hworth⟩ := hv.exists_ofJson
  obtain ⟨copy', hcopy', hworth'⟩ := hw.exists_ofJson
  refine ⟨⟨copy, hcopy, hworth⟩, fun heq => ?_⟩
  rw [heq, hcopy'] at hcopy
  cases hcopy
  exact hworth.symm.trans hworth'

/-- A price of fourteen digits, and another one with a scale beyond them. -/
theorem worth_of_ofJson_toJson_prices :
    (HasExactJson (.decimal ⟨-99999999999999, 4, by decide, by decide⟩) ∧
      HasExactJson (.decimal ⟨15, 20, by decide, by decide⟩)) ∧
    (∃ copy, Scalar.ofJson (Scalar.decimal ⟨-99999999999999, 4, by decide, by decide⟩).toJson =
        .ok copy ∧
      copy.worth = (Scalar.decimal ⟨-99999999999999, 4, by decide, by decide⟩).worth) ∧
    ((Scalar.decimal ⟨-99999999999999, 4, by decide, by decide⟩).toJson =
        (Scalar.decimal ⟨15, 20, by decide, by decide⟩).toJson →
      (Scalar.decimal ⟨-99999999999999, 4, by decide, by decide⟩).worth =
        (Scalar.decimal ⟨15, 20, by decide, by decide⟩).worth) := by
  have hv : HasExactJson (.decimal ⟨-99999999999999, 4, by decide, by decide⟩) :=
    .short (by decide) (by decide)
  have hw : HasExactJson (.decimal ⟨15, 20, by decide, by decide⟩) := .short (by decide) (by decide)
  exact ⟨⟨hv, hw⟩, worth_of_ofJson_toJson hv hw⟩

/-- One tenth and one more in the twentieth place. -/
def aboveTenth : Scalar := .decimal ⟨10000000000000000001, 20, by decide, by decide⟩

/-- Twenty digits are too many: the decimal becomes the JSON of one tenth and does not come back. -/
theorem aboveTenth_becomes_tenth :
    aboveTenth.toJson = (Scalar.decimal ⟨1, 1, by decide, by decide⟩).toJson ∧
      aboveTenth.worth ≠ (Scalar.decimal ⟨1, 1, by decide, by decide⟩).worth ∧
      ¬∃ copy, Scalar.ofJson aboveTenth.toJson = .ok copy ∧ copy.worth = aboveTenth.worth := by
  have hne : aboveTenth.worth ≠ (Scalar.decimal ⟨1, 1, by decide, by decide⟩).worth := by decide
  have hnumber : JsonNumber.ofNumeral?
        (Decimal.numeral ⟨10000000000000000001, 20, by decide, by decide⟩) =
      JsonNumber.ofNumeral? (Decimal.numeral ⟨1, 1, by decide, by decide⟩) := by decide +kernel
  have hjson : aboveTenth.toJson = (Scalar.decimal ⟨1, 1, by decide, by decide⟩).toJson := by
    obtain ⟨x, htenth, -, -⟩ := @exists_real ⟨1, 1, by decide, by decide⟩ (by decide) (by decide)
      (by decide)
    rw [aboveTenth, Scalar.toJson, Scalar.toJson, hnumber, htenth]
  have hexact : HasExactJson (.decimal ⟨1, 1, by decide, by decide⟩) :=
    .short (by decide) (by decide)
  obtain ⟨copy, hcopy, hworth⟩ := hexact.exists_ofJson
  refine ⟨hjson, hne, ?_⟩
  rintro ⟨copy', hcopy', hworth'⟩
  rw [hjson, hcopy] at hcopy'
  cases hcopy'
  exact hne (hworth'.symm.trans hworth)

end RecordFilter.Proofs
