import Mathlib.Tactic.Common
import RecordFilter.Proofs.GrammarAgreement
import RecordFilter.Proofs.ScalarRoundTrip

/-!
# What filters read from text are like

Whatever text a filter is read from, its fields are names, its operands are lists exactly where
lists are taken, nothing in it is joined by `not`, and none of its numbers would be read as a number
of another kind. The groups that wait in the slots are such filters too, which carries the invariant
through all levels of nesting.
-/

namespace RecordFilter.Proofs
open RecordFilter.Text RecordFilter.Parser RecordFilter.Number

lemma map_eq_ok_iff {ε α β : Type} {x : Except ε α} {f : α → β} {b : β} :
    x.map f = .ok b ↔ ∃ a, x = .ok a ∧ f a = b := by
  cases x with
  | error e => simp [Except.map]
  | ok a => simp [Except.map]

lemma isPlainNumeral_of_ofPlain? {token : List Char} {x : Numeral}
    (h : Numeral.ofPlain? token = some x) : IsPlainNumeral x := by
  have hspan : ∀ {s digits rest : List Char}, Numeral.spanDigits s = (digits, rest) →
      ∀ c ∈ digits, c.isDigit = true := by
    rintro s digits rest heq c hc
    cases heq
    exact List.mem_takeWhile_imp hc
  unfold Numeral.ofPlain? at h
  dsimp only at h
  split at h
  · cases h
  · next hne hwhole =>
    cases h
    exact ⟨hne, hspan hwhole, by simp, by simp, rfl⟩
  · next hne hwhole =>
    split at h
    · cases h
    · next hne' hfraction =>
      cases h
      refine ⟨hne, hspan hwhole, ?_, ?_, rfl⟩
      · rintro _ ⟨⟩
        exact hne'
      · rintro _ ⟨⟩
        exact hspan hfraction
    · cases h
  · cases h

lemma not_fitsInteger_of_le {n : Int} (h : Decimal.bound ≤ 10 * n.natAbs + 9) : ¬fitsInteger n := by
  rintro ⟨hmin, hmax⟩
  have hmin' : Int64.minValue.toInt = -2 ^ 63 := by decide
  have hmax' : Int64.maxValue.toInt = 2 ^ 63 - 1 := by decide
  have hbound : Decimal.bound = 2 ^ 96 := rfl
  omega

lemma le_scale_takeFraction (magnitude scale : Nat) (digits : List Char) :
    scale ≤ (Decimal.takeFraction magnitude scale digits).scale := by
  induction digits generalizing magnitude scale with
  | nil => exact Nat.le_refl _
  | cons c digits ih =>
    rw [Decimal.takeFraction]
    split
    · exact Nat.le_of_succ_le (ih _ _)
    · exact Nat.le_refl _

lemma digitsValue_singleton_le {c : Char} (h : c.isDigit = true) : digitsValue [c] ≤ 9 := by
  rw [digitsValue_singleton]
  have hle := (Char.isDigit_iff_toNat.1 h).2
  have hzero : '0'.toNat = 48 := rfl
  have hnine : '9'.toNat = 57 := rfl
  omega

/-- A digit after the point is given up in rounding only by a number that is about to leave the
bits of a decimal. -/
lemma of_rounded?_eq_zero {t : Decimal.Taken} {units : Nat} (h : t.rounded? = some (units, 0)) :
    t.scale = 0 ∧ t.magnitude ≤ units ∨ Decimal.bound ≤ 10 * units + 9 := by
  rw [Decimal.Taken.rounded?] at h
  split at h
  · simp only [Option.some.injEq, Prod.mk.injEq] at h
    omega
  · split at h
    · simp only [Option.some.injEq, Prod.mk.injEq] at h
      omega
    · split at h
      · simp only [Option.some.injEq, Prod.mk.injEq] at h
        omega
      · split at h
        · cases h
        · simp only [Option.some.injEq, Prod.mk.injEq] at h
          omega

/-- If no digit after the point is kept, the digits before it take nearly all bits of a decimal. -/
lemma bound_le_of_rounded? {magnitude units : Nat} {c : Char} {digits : List Char}
    (hc : c.isDigit = true)
    (h : (Decimal.takeFraction magnitude 0 (c :: digits)).rounded? = some (units, 0)) :
    Decimal.bound ≤ 10 * units + 9 := by
  have hdigit := digitsValue_singleton_le hc
  rcases of_rounded?_eq_zero h with ⟨hscale, hmagnitude⟩ | hbound
  · rw [Decimal.takeFraction] at hscale hmagnitude
    split at hscale
    · have hle := le_scale_takeFraction (10 * magnitude + digitsValue [c]) (0 + 1) digits
      omega
    · next hnot =>
      rw [if_neg hnot] at hmagnitude
      have hmax : 0 < Decimal.maxScale := by decide
      dsimp only at hmagnitude
      omega
  · exact hbound

lemma ofParts?_eq_some {units : Int} {scale : Nat} {d : Decimal}
    (h : Decimal.ofParts? units scale = some d) : d.units = units ∧ d.scale = scale := by
  rw [Decimal.ofParts?] at h
  split at h
  · cases h
    exact ⟨rfl, rfl⟩
  · cases h

/-- A decimal that is read with a point but keeps no digit after it is too large for 64 bits. -/
lemma not_fitsInteger_of_ofDigits? {negative : Bool} {whole digits : List Char} {c : Char}
    {d : Decimal} (hc : c.isDigit = true)
    (h : Decimal.ofDigits? negative whole (c :: digits) = some d) (hscale : d.scale = 0) :
    ¬fitsInteger d.units := by
  rw [Decimal.ofDigits?] at h
  dsimp only at h
  split at h
  · obtain ⟨⟨units, scale⟩, hrounded, hparts⟩ := Option.bind_eq_some_iff.1 h
    obtain ⟨hunits, rfl⟩ := ofParts?_eq_some hparts
    rw [hscale] at hrounded
    apply not_fitsInteger_of_le
    rw [hunits, natAbs_signed]
    exact bound_le_of_rounded? hc hrounded
  · cases h

lemma ofDigits?_of_ofNumeral {x : Numeral} {d : Decimal} (hexponent : x.exponent = none)
    (h : (Decimal.ofNumeral x).toOption = some d) :
    Decimal.ofDigits? x.negative x.whole (x.fraction.getD []) = some d := by
  rw [Decimal.ofNumeral, hexponent] at h
  cases hdigits : Decimal.ofDigits? x.negative x.whole (x.fraction.getD []) with
  | none =>
    rw [hdigits] at h
    cases h
  | some base =>
    rw [hdigits] at h
    cases h
    rfl

/-- Numerals are read as scalars that come back from their text. -/
lemma rereadScalar_of_ofNumeral? {x : Numeral} {value : Scalar} (hx : IsPlainNumeral x)
    (h : Scalar.ofNumeral? x = some value) : rereadScalar value = value.asPrinted := by
  rw [Scalar.ofNumeral?] at h
  split at h
  · cases h
    rfl
  · next hnot =>
    obtain ⟨d, hd, rfl⟩ := Option.map_eq_some_iff.1 h
    suffices hfits : d.scale = 0 → ¬fitsInteger d.units by
      rw [rereadScalar, if_neg (fun h => hfits h.1 h.2)]
      rfl
    intro hscale
    have hdigits := ofDigits?_of_ofNumeral hx.exponent hd
    cases hfraction : x.fraction with
    | none =>
      -- Without a point all digits are kept, and they are those that did not fit.
      rw [hfraction, Decimal.ofDigits?] at hdigits
      dsimp only at hdigits
      split at hdigits
      · obtain ⟨hunits, -⟩ := ofParts?_eq_some hdigits
        rw [hunits]
        exact fun hfits => hnot ⟨hfraction, hfits⟩
      · cases hdigits
    | some fraction =>
      obtain ⟨c, digits, rfl⟩ := List.exists_cons_of_ne_nil (hx.fraction_ne_nil fraction hfraction)
      rw [hfraction] at hdigits
      have hc := hx.isDigit_fraction _ hfraction c List.mem_cons_self
      exact not_fitsInteger_of_ofDigits? hc hdigits hscale

/-- Tokens are read as scalars that come back from their text, but for dates. -/
theorem rereadScalar_of_ofToken {policy : Policy} {token : List Char} {value : Scalar}
    (h : Scalar.ofToken policy token = .ok value) : rereadScalar value = value.asPrinted := by
  have hvalue : Scalar.ofTrimmed? policy (trim token) = some value := by
    rw [Scalar.ofToken] at h
    split at h
    · next hvalue =>
      cases h
      exact hvalue
    · cases h
  revert hvalue
  fun_cases Scalar.ofTrimmed? policy (trim token) with
  | case1 =>
    rintro ⟨⟩
    rfl
  | case2 =>
    intro hvalue
    obtain ⟨s, -, rfl⟩ := Option.map_eq_some_iff.1 hvalue
    rfl
  | case3 _ _ _ x hx => exact rereadScalar_of_ofNumeral? (isPlainNumeral_of_ofPlain? hx)
  | case4 =>
    rintro ⟨⟩
    rfl
  | case5 =>
    rintro ⟨⟩
    rfl
  | case6 =>
    intro hvalue
    obtain ⟨d, -, rfl⟩ := Option.map_eq_some_iff.1 hvalue
    rfl
  | case7 => rintro ⟨⟩
  | case8 =>
    rintro ⟨⟩
    rfl

/-! ### Filters read from text -/

/-- Operands are lists exactly where lists are taken, and their scalars come back from their text,
but for dates. -/
structure IsReadOperand (comparator : Comparator) (operand : Operand Scalar) : Prop where
  list_iff : (∃ values, operand = .list values) ↔ comparator.takesList = true
  reread : ∀ value ∈ operand.values, rereadScalar value = value.asPrinted

/-- What is true of every filter that was read from text. -/
inductive IsReadFilter : Filter → Prop
  | comparison {field : String} {comparator : Comparator} {operand : Operand Scalar}
      (hfield : isFieldName field = true) (hoperand : IsReadOperand comparator operand) :
      IsReadFilter (.comparison field comparator operand)
  | joined {connective : Connective} {left right : Filter} (hconnective : connective ≠ .not)
      (hleft : IsReadFilter left) (hright : IsReadFilter right) :
      IsReadFilter (.joined connective left right)
  | negation {inner : Filter} (hinner : IsReadFilter inner) : IsReadFilter (.negation inner)

/-- All groups in the slots were read from text. -/
def HoldRead (slots : Slots) : Prop :=
  ∀ slot ∈ slots, ∀ content ∈ slot.content, IsReadFilter content

lemma HoldRead.bind {slots : Slots} (h : HoldRead slots) (source : List Char) {content : Filter}
    (hcontent : IsReadFilter content) : HoldRead (slots.bind source content) := by
  intro slot hslot
  rcases List.mem_append.1 hslot with hslot | hslot
  · exact h slot hslot
  · rw [List.mem_singleton.1 hslot]
    rintro _ ⟨⟩
    exact hcontent

lemma HoldRead.take {slots slots' : Slots} {number : Nat} {content : Filter} (h : HoldRead slots)
    (htake : slots.take? number = some (content, slots')) :
    IsReadFilter content ∧ HoldRead slots' := by
  obtain ⟨source, hslot, rfl⟩ := take?_eq_some_iff.1 htake
  refine ⟨h _ (List.mem_of_getElem? hslot) content rfl, ?_⟩
  intro slot hmem
  rcases List.mem_or_eq_of_mem_set hmem with hmem | rfl
  · exact h slot hmem
  · rintro _ ⟨⟩

section Reading

variable {policy : Policy}

lemma rereadScalar_of_readElements {whole : List Char} {elements : List (List Char)}
    {values : List Scalar} (h : readElements policy whole elements = .ok values) :
    ∀ value ∈ values, rereadScalar value = value.asPrinted := by
  induction elements generalizing values with
  | nil =>
    cases h
    simp
  | cons element elements ih =>
    rw [readElements] at h
    split at h
    · cases h
    · obtain ⟨value, hvalue, h⟩ := bind_eq_ok_iff.1 h
      obtain ⟨rest, hrest, h⟩ := bind_eq_ok_iff.1 h
      cases h
      exact List.forall_mem_cons.2 ⟨rereadScalar_of_ofToken hvalue, ih hrest⟩

lemma isReadOperand_of_readOperand {comparator : Comparator} {token : List Char}
    {operand : Operand Scalar} (h : readOperand policy comparator token = .ok operand) :
    IsReadOperand comparator operand := by
  rw [readOperand] at h
  split at h
  · next htakes =>
    split at h
    · split at h
      · cases h
        exact ⟨by simp [htakes], by simp [Operand.values]⟩
      · obtain ⟨values, hvalues, rfl⟩ := map_eq_ok_iff.1 h
        exact ⟨by simp [htakes], rereadScalar_of_readElements hvalues⟩
    · obtain ⟨value, hvalue, rfl⟩ := map_eq_ok_iff.1 h
      refine ⟨by simp [htakes], ?_⟩
      simpa [Operand.values] using rereadScalar_of_ofToken hvalue
  · next htakes =>
    obtain ⟨value, hvalue, rfl⟩ := map_eq_ok_iff.1 h
    refine ⟨by simp [htakes], ?_⟩
    simpa [Operand.values] using rereadScalar_of_ofToken hvalue

lemma isReadFilter_of_readComparison {slots : Slots} {s : List Char} {p : Filter}
    (h : readComparison policy slots s = .ok p) : IsReadFilter p := by
  obtain ⟨-, field, comparator, token, operand, hwritten, hkeyword, hoperand, rfl⟩ :=
    readComparison_eq_ok_iff.1 h
  refine .comparison ?_ (isReadOperand_of_readOperand hoperand)
  rw [isFieldName_iff, String.toList_ofList]
  exact ⟨hwritten.field_ne_nil, hwritten.isWordChar_of_mem, hkeyword⟩

/-- Reading a flat text passes on what is true of the groups that it takes. -/
lemma isReadFilter_of_readFlat {s : List Char} {slots slots' : Slots} {p : Filter}
    (h : readFlat policy s slots = .ok (p, slots')) (hslots : HoldRead slots) :
    IsReadFilter p ∧ HoldRead slots' := by
  fun_induction readFlat policy s slots generalizing slots' p with
  | case1 s slots s' number hnumber taken =>
    rename_i htake
    cases h
    exact hslots.take htake
  | case2 => cases h
  | case3 s slots s' hnumber rest hrest =>
    rename_i ih
    obtain ⟨⟨inner, slots₁⟩, hinner, h⟩ := bind_eq_ok_iff.1 h
    cases h
    obtain ⟨hread, hslots'⟩ := ih hinner hslots
    exact ⟨.negation hread, hslots'⟩
  | case4 s slots s' hnumber hnot connective left right hsplit ihl =>
    rename_i ihr
    obtain ⟨⟨p₁, slots₁⟩, hleft, h⟩ := bind_eq_ok_iff.1 h
    obtain ⟨⟨p₂, slots₂⟩, hright, h⟩ := bind_eq_ok_iff.1 h
    cases h
    obtain ⟨hread, hslots₁⟩ := ihl hleft hslots
    obtain ⟨hread', hslots'⟩ := ihr slots₁ hright hslots₁
    obtain ⟨separator, hmem, -, -⟩ := splitAtConnective?_eq_some hsplit
    refine ⟨.joined ?_ hread hread', hslots'⟩
    rintro rfl
    simp [separators] at hmem
  | case5 s slots s' hnumber hnot =>
    obtain ⟨comparison, hcomparison, h⟩ := bind_eq_ok_iff.1 h
    cases h
    exact ⟨isReadFilter_of_readComparison hcomparison, hslots⟩

/-- Reading a fragment passes on what is true of the groups in the slots, and adds groups of which
it is true. -/
theorem isReadFilter_of_readFragment {s : List Char} {slots slots' : Slots} {p : Filter}
    (h : readFragment policy s slots = .ok (p, slots')) (hslots : HoldRead slots) :
    IsReadFilter p ∧ HoldRead slots' := by
  induction s, slots using readFragment.induct _ (fun whole q s slots =>
    ∀ flat slots', resolveFrom policy whole q s slots = .ok (flat, slots') → HoldRead slots →
      HoldRead slots') generalizing slots' p with
  | case1 fragment slots ih =>
    rw [readFragment] at h
    obtain ⟨⟨flat, slots₁⟩, hresolve, hflat⟩ := bind_eq_ok_iff.1 h
    exact isReadFilter_of_readFlat hflat (ih flat slots₁ hresolve hslots)
  | case2 whole q slots flat slots' hresolve hslots =>
    rw [resolveFrom] at hresolve
    cases hresolve
    exact hslots
  | case3 whole q slots c s hopen hnone flat slots' hresolve =>
    obtain ⟨hq, rfl⟩ := hopen
    obtain ⟨rfl, -⟩ := QuoteState.isStructural_iff.1 hq
    rw [resolveFrom_unclosed hnone] at hresolve
    cases hresolve
  | case4 whole q slots c s hopen group rest htake ihgroup ihrest flat slots' hresolve hslots =>
    obtain ⟨hq, rfl⟩ := hopen
    obtain ⟨rfl, -⟩ := QuoteState.isStructural_iff.1 hq
    obtain ⟨hgroup, rfl⟩ := isClosed_of_takeGroup? htake
    rw [resolveFrom_group hgroup] at hresolve
    obtain ⟨⟨content, slots₁⟩, hread, h⟩ := bind_eq_ok_iff.1 hresolve
    obtain ⟨⟨flat', slots₂⟩, hrest, h⟩ := bind_eq_ok_iff.1 h
    cases h
    obtain ⟨hcontent, hslots₁⟩ := ihgroup hread hslots
    exact ihrest content slots₁ flat' slots' hrest (hslots₁.bind group hcontent)
  | case5 whole q slots c s hopen hclose flat slots' hresolve =>
    obtain ⟨hq, rfl⟩ := hclose
    obtain ⟨rfl, -⟩ := QuoteState.isStructural_iff.1 hq
    rw [resolveFrom_closing] at hresolve
    cases hresolve
  | case6 whole q slots c s hopen hclose ih flat slots' hresolve hslots =>
    rw [resolveFrom_char hopen hclose] at hresolve
    obtain ⟨⟨flat', slots₁⟩, hrest, h⟩ := bind_eq_ok_iff.1 hresolve
    cases h
    exact ih flat' slots' hrest hslots

end Reading

/-- Every filter that is read from text is of the kind that text can stand for. -/
lemma isReadFilter_of_ofText {policy : Policy} {s : String} {p : Filter}
    (h : Filter.ofText policy s = .ok p) : IsReadFilter p := by
  obtain ⟨-, slots, hread⟩ := ofText_eq_ok_iff.1 h
  exact (isReadFilter_of_readFragment hread (by simp [HoldRead])).1

end RecordFilter.Proofs
