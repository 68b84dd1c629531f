import Mathlib.Tactic.Common
import RecordFilter.Predicate.Grammar
import RecordFilter.Proofs.OpaqueText
import RecordFilter.Proofs.Trimming

/-!
# The forms of a flat fragment

A fragment without parentheses outside literals is a placeholder, a negation, two fragments with a
connective between them, or a comparison. This file says which texts have each of these forms, so
that the reader of flat fragments is opened by one equation for each of them.
-/

namespace RecordFilter.Proofs
open RecordFilter.Text RecordFilter.Parser RecordFilter.Number

/-- The ranges of the blanks. -/
def blankRanges : CodePoints :=
  [(9, 13), (0x20, 0x20), (0x85, 0x85), (0xA0, 0xA0), (0x1680, 0x1680), (0x2000, 0x200A),
    (0x2028, 0x2029), (0x202F, 0x202F), (0x205F, 0x205F), (0x3000, 0x3000)]

lemma has_blankRanges_of_isBlank {c : Char} (h : isBlank c = true) : blankRanges.has c = true := by
  simp only [isBlank, Bool.or_eq_true, Bool.and_eq_true, decide_eq_true_eq, beq_iff_eq] at h
  simp only [CodePoints.has, blankRanges, List.any_cons, List.any_nil, Bool.or_false,
    Bool.or_eq_true, Bool.and_eq_true, decide_eq_true_eq]
  omega

lemma disjoint_wordRanges_blankRanges {low high first last : Nat} (hword : (low, high) ∈ wordRanges)
    (hblank : (first, last) ∈ blankRanges) : high < first ∨ last < low := by
  have h : (wordRanges.all fun r => blankRanges.all fun b => r.2 < b.1 || b.2 < r.1) = true := by
    decide +kernel
  have hpair := List.all_eq_true.1 (List.all_eq_true.1 h _ hword) _ hblank
  simpa using hpair

lemma isWordChar_of_isBlank {c : Char} (h : isBlank c = true) : isWordChar c = false := by
  by_cases hlt : c.toNat < 128
  · have hascii : ∀ n < 128, isBlank (Char.ofNat n) = true → isWordChar (Char.ofNat n) = false := by
      decide
    have hc := hascii c.toNat hlt
    rw [Char.ofNat_toNat] at hc
    exact hc h
  · rw [isWordChar, if_neg hlt, Bool.eq_false_iff]
    intro hword
    obtain ⟨⟨low, high⟩, hmem, hin⟩ := List.any_eq_true.1 hword
    obtain ⟨⟨first, last⟩, hmem', hin'⟩ := List.any_eq_true.1 (has_blankRanges_of_isBlank h)
    simp only [Bool.and_eq_true, decide_eq_true_eq] at hin hin'
    have hdisjoint := disjoint_wordRanges_blankRanges hmem hmem'
    omega

lemma not_mem_of_blanks {s : List Char} (h : Blanks s) {c : Char} (hc : isBlank c = false) :
    c ∉ s := by
  intro hmem
  rw [h c hmem] at hc
  cases hc

lemma after_of_blanks {s : List Char} (h : Blanks s) : QuoteState.outside.after s = .outside :=
  after_outside_of_no_quote (not_mem_of_blanks h (by decide))

lemma encode_concat (v : List Char) : ∃ s, Literal.encode v = s ++ ['\''] := by
  have hbody : ∃ s, Literal.encodeBody v = s ++ ['\''] := by
    induction v with
    | nil => exact ⟨[], rfl⟩
    | cons c v ih =>
      obtain ⟨s, hs⟩ := ih
      rw [Literal.encodeBody, hs]
      split
      · exact ⟨'\\' :: c :: s, rfl⟩
      · exact ⟨c :: s, rfl⟩
  obtain ⟨s, hs⟩ := hbody
  exact ⟨'\'' :: s, by rw [Literal.encode, hs]; rfl⟩

lemma trimmed_encode (v : List Char) : Trimmed (Literal.encode v) where
  head := by
    intro c hc
    cases hc
    decide
  last := by
    obtain ⟨s, hs⟩ := encode_concat v
    intro c hc
    rw [hs, List.getLast?_concat] at hc
    cases hc
    decide

lemma placeholderNumber?_eq_some_iff {s : List Char} {number : Nat} :
    placeholderNumber? s = some number ↔
      ∃ digits, s = placeholderMark ++ digits ∧ digits ≠ [] ∧ digits.all Char.isDigit = true ∧
        digitsValue digits = number := by
  rw [placeholderNumber?]
  split
  · next hmark =>
    obtain ⟨digits, rfl⟩ := List.isPrefixOf_iff_prefix.1 hmark
    dsimp only
    rw [List.drop_left]
    constructor
    · intro h
      split at h
      · next hdigits =>
        cases h
        exact ⟨digits, rfl, hdigits.1, hdigits.2, rfl⟩
      · cases h
    · rintro ⟨digits', heq, hne, hall, rfl⟩
      obtain rfl := List.append_cancel_left heq
      rw [if_pos ⟨hne, hall⟩]
  · next hmark =>
    constructor
    · intro h
      cases h
    · rintro ⟨digits, rfl, -⟩
      exact absurd (List.isPrefixOf_iff_prefix.2 (List.prefix_append _ _)) hmark

lemma afterNegation?_eq_some_iff {s rest : List Char} :
    afterNegation? s = some rest ↔ s = negationMark ++ rest := by
  rw [afterNegation?]
  split
  · next hmark =>
    obtain ⟨t, rfl⟩ := List.isPrefixOf_iff_prefix.1 hmark
    rw [List.drop_left, Option.some.injEq, List.append_cancel_left_eq]
  · next hmark =>
    constructor
    · intro h
      cases h
    · rintro rfl
      exact absurd (List.isPrefixOf_iff_prefix.2 (List.prefix_append _ _)) hmark

lemma after_negationMark : QuoteState.outside.after negationMark = .outside :=
  after_outside_of_no_quote (by decide)

lemma separator_eq_of_mem {connective : Connective} {separator : List Char}
    (h : (connective, separator) ∈ separators) :
    separator = " and ".toList ∨ separator = " or ".toList := by
  simp only [separators, List.mem_cons, Prod.mk.injEq, List.not_mem_nil, or_false] at h
  exact h.imp And.right And.right

lemma after_separator {connective : Connective} {separator : List Char}
    (h : (connective, separator) ∈ separators) :
    QuoteState.outside.after separator = .outside := by
  rcases separator_eq_of_mem h with rfl | rfl <;> decide

/-- A cut at the first connective leaves a text that is read outside on both sides. -/
lemma cutFrom?_eq_some {texts : List (List Char)} {q : QuoteState} {s : List Char} {cut : Cut}
    (h : cutFrom? texts q s = some cut) :
    s = cut.before ++ cut.separator ++ cut.after ∧ cut.separator ∈ texts ∧
      q.after cut.before = .outside := by
  refine ⟨(whole_of_cutFrom? h).symm, mem_separators_of_cutFrom? h, ?_⟩
  induction s generalizing q cut with
  | nil => simp [cutFrom?] at h
  | cons c s ih =>
    rw [cutFrom?] at h
    split at h
    · next separator hsep =>
      cases h
      unfold separatorAt? at hsep
      split at hsep
      · cases hsep
      · split at hsep
        · next d _ hq => exact (QuoteState.isStructural_iff.1 hq).1
        · cases hsep
    · obtain ⟨cut', hcut', rfl⟩ := Option.map_eq_some_iff.1 h
      have hafter : (q.next c).after cut'.before = .outside := ih hcut'
      exact hafter

lemma splitAtConnective?_eq_some {s : List Char} {p : Split} (h : splitAtConnective? s = some p) :
    ∃ separator, (p.connective, separator) ∈ separators ∧ s = p.left ++ separator ++ p.right ∧
      QuoteState.outside.after p.left = .outside := by
  obtain ⟨cut, hcut, h⟩ := Option.bind_eq_some_iff.1 h
  obtain ⟨⟨connective, separator⟩, hfind, h⟩ := Option.bind_eq_some_iff.1 h
  cases h
  obtain ⟨hs, -, hafter⟩ := cutFrom?_eq_some hcut
  have heq : separator = cut.separator := by simpa using List.find?_some hfind
  exact ⟨separator, List.mem_of_find?_eq_some hfind, by rw [hs, heq], hafter⟩

/-- A written comparison is a word, a comparator and a token with blanks between them. -/
structure WrittenAs (s field : List Char) (comparator : Comparator) (token : List Char) : Prop where
  field_ne_nil : field ≠ []
  isWordChar_of_mem : ∀ c ∈ field, isWordChar c = true
  token_ne_nil : token ≠ []
  head_token : ∀ c ∈ token.head?, isBlank c = false
  exists_eq : ∃ gap gap', Blanks gap ∧ gap ≠ [] ∧ Blanks gap' ∧ gap' ≠ [] ∧
    s = field ++ gap ++ comparator.word.toList ++ gap' ++ token

lemma not_isBlank_of_mem_word (comparator : Comparator) :
    ∀ c ∈ comparator.word.toList, (!isBlank c) = true := by
  cases comparator <;> decide

lemma ofWord?_eq_some {w : String} {comparator : Comparator}
    (h : Comparator.ofWord? w = some comparator) : w = comparator.word := by
  have hfind := List.find?_some h
  exact (beq_iff_eq.1 hfind).symm

lemma takeWhile_append_cons {p : Char → Bool} {s : List Char} {c : Char} (hs : ∀ c ∈ s, p c = true)
    (hc : p c = false) (t : List Char) : (s ++ c :: t).takeWhile p = s := by
  rw [List.takeWhile_append_of_pos hs, List.takeWhile_cons, hc]
  exact List.append_nil s

lemma dropWhile_append_cons {p : Char → Bool} {s : List Char} {c : Char} (hs : ∀ c ∈ s, p c = true)
    (hc : p c = false) (t : List Char) : (s ++ c :: t).dropWhile p = c :: t := by
  rw [List.dropWhile_append_of_pos hs, List.dropWhile_cons, hc]
  rfl

/-- A text after its first word starts with a blank, for else its first character would belong to
the word. -/
lemma gap_ne_nil {s gap rest : List Char} (h : s.dropWhile (!isBlank ·) = gap ++ rest)
    (hne : rest ≠ []) (hhead : ∀ c ∈ rest.head?, isBlank c = false) : gap ≠ [] := by
  rintro rfl
  have hblank := List.head?_dropWhile_not (!isBlank ·) s
  rw [h, List.nil_append, List.head?_eq_some_head hne] at hblank
  simp [hhead _ (List.head?_eq_some_head hne)] at hblank

lemma writtenAs_of_ofText? {s field token : List Char} {comparator : Comparator}
    (h : WrittenComparison.ofText? s = some ⟨field, comparator, token⟩) :
    WrittenAs s field comparator token := by
  unfold WrittenComparison.ofText? at h
  extract_lets field' afterField afterGap word afterWord token' at h
  split at h
  · cases h
  · next hne =>
    obtain ⟨comparator', hcomparator, h⟩ := Option.map_eq_some_iff.1 h
    simp only [WrittenComparison.mk.injEq] at h
    obtain ⟨hfield, rfl, htoken⟩ := h
    simp only [Bool.or_eq_true, List.isEmpty_iff, beq_iff_eq, not_or] at hne
    obtain ⟨gap, hblanks, hafterField⟩ := exists_eq_append_trimStart afterField
    obtain ⟨gap', hblanks', hafterWord⟩ := exists_eq_append_trimStart afterWord
    have hword : word = comparator'.word.toList := by
      rw [← ofWord?_eq_some hcomparator, String.toList_ofList]
    have hs : s = field' ++ afterField := List.takeWhile_append_dropWhile.symm
    have hafterGap : afterGap = word ++ afterWord := List.takeWhile_append_dropWhile.symm
    subst hfield htoken
    refine ⟨hne.1.1, List.all_eq_true.1 List.all_takeWhile, hne.2, head_trimStart _,
      gap, gap', hblanks, ?_, hblanks', ?_, ?_⟩
    · rintro rfl
      rw [List.nil_append] at hafterField
      exact hne.1.2 (congrArg List.length hafterField)
    · exact gap_ne_nil hafterWord hne.2 (head_trimStart _)
    · have hgap : afterField = gap ++ afterGap := hafterField
      have hgap' : afterWord = gap' ++ token' := hafterWord
      rw [hs, hgap, hafterGap, hgap', hword]
      simp only [List.append_assoc]

lemma ofText?_of_writtenAs {s field token : List Char} {comparator : Comparator}
    (h : WrittenAs s field comparator token) :
    WrittenComparison.ofText? s = some ⟨field, comparator, token⟩ := by
  obtain ⟨hfield, hword, htoken, hhead, gap, gap', hblanks, hne, hblanks', hne', rfl⟩ := h
  obtain ⟨b, gap, rfl⟩ := List.exists_cons_of_ne_nil hne
  obtain ⟨b', gap', rfl⟩ := List.exists_cons_of_ne_nil hne'
  have hb : isWordChar b = false := isWordChar_of_isBlank (hblanks b List.mem_cons_self)
  have hb' : (!isBlank b') = false := by simp [hblanks' b' List.mem_cons_self]
  have hsplit : field ++ b :: gap ++ comparator.word.toList ++ b' :: gap' ++ token =
      field ++ b :: (gap ++ (comparator.word.toList ++ b' :: (gap' ++ token))) := by
    simp only [List.append_assoc, List.cons_append]
  have hgap : trimStart (b :: (gap ++ (comparator.word.toList ++ b' :: (gap' ++ token)))) =
      comparator.word.toList ++ b' :: (gap' ++ token) := by
    rw [← List.cons_append, trimStart_append_of_blanks hblanks]
    apply trimStart_eq_self
    cases comparator <;> exact fun c hc => by cases hc; decide
  have hgap' : trimStart (b' :: (gap' ++ token)) = token := by
    rw [← List.cons_append, trimStart_append_of_blanks hblanks', trimStart_eq_self hhead]
  rw [hsplit, WrittenComparison.ofText?]
  simp only [takeWhile_append_cons hword hb, dropWhile_append_cons hword hb, hgap,
    takeWhile_append_cons (not_isBlank_of_mem_word comparator) hb',
    dropWhile_append_cons (not_isBlank_of_mem_word comparator) hb', hgap', String.ofList_toList,
    Comparator.ofWord?_word, Option.map_some]
  rw [if_neg]
  simp only [Bool.or_eq_true, List.isEmpty_iff, beq_iff_eq, List.length_cons, List.length_append,
    hfield, htoken, false_or, or_false]
  omega

/-- What stands before the token holds no quote and no mark, and it makes a written comparison with
any other token. -/
lemma WrittenAs.exists_before {s field token : List Char} {comparator : Comparator}
    (h : WrittenAs s field comparator token) :
    ∃ before, s = before ++ token ∧ '@' ∉ before ∧ '\'' ∉ before ∧
      ∀ token', token' ≠ [] → (∀ c ∈ token'.head?, isBlank c = false) →
        WrittenAs (before ++ token') field comparator token' := by
  obtain ⟨hne, hword, -, -, gap, gap', hgap, hgapne, hgap', hgapne', rfl⟩ := h
  have hbefore : ∀ {c : Char}, isBlank c = false → isWordChar c = false →
      c ∉ comparator.word.toList → c ∉ field ++ gap ++ comparator.word.toList ++ gap' := by
    intro c hblank hc hcomparator hmem
    simp only [List.mem_append] at hmem
    rcases hmem with ((hmem | hmem) | hmem) | hmem
    · exact Bool.eq_false_iff.1 hc (hword c hmem)
    · exact not_mem_of_blanks hgap hblank hmem
    · exact hcomparator hmem
    · exact not_mem_of_blanks hgap' hblank hmem
  have hat : '@' ∉ comparator.word.toList := by cases comparator <;> decide
  have hquote : '\'' ∉ comparator.word.toList := by cases comparator <;> decide
  exact ⟨_, rfl, hbefore (by decide) (by decide) hat, hbefore (by decide) (by decide) hquote,
    fun token' hne' hhead =>
      ⟨hne, hword, hne', hhead, gap, gap', hgap, hgapne, hgap', hgapne', rfl⟩⟩

lemma withoutBrackets?_bracketed (s : List Char) :
    withoutBrackets? ('[' :: s ++ [']']) = some s := by
  rw [List.cons_append, withoutBrackets?, if_pos List.getLast?_concat, List.dropLast_concat]

lemma withoutBrackets?_of_head {s : List Char} (h : s.head? ≠ some '[') :
    withoutBrackets? s = none := by
  cases s with
  | nil => rfl
  | cons c s =>
    have hc : c ≠ '[' := fun hc => h (congrArg some hc)
    rw [withoutBrackets?]
    rintro rest heq
    exact hc (List.cons_eq_cons.1 heq).1

lemma splitFrom_ne_nil (delimiter : Char) (q : QuoteState) (s : List Char) :
    splitFrom delimiter q s ≠ [] := by
  induction s generalizing q with
  | nil => simp [splitFrom]
  | cons c s ih =>
    rw [splitFrom]
    split
    · simp
    · intro h
      exact ih _ (List.modifyHead_eq_nil_iff.1 h)

lemma splitFrom_append_of_countStructural {delimiter : Char} {q : QuoteState} {s : List Char}
    (h : countStructural delimiter q s = 0) (t : List Char) :
    splitFrom delimiter q (s ++ t) = (splitFrom delimiter (q.after s) t).modifyHead (s ++ ·) := by
  induction s generalizing q with
  | nil => exact (congrFun List.modifyHead_id _).symm
  | cons c s ih =>
    rw [countStructural, Nat.add_eq_zero_iff] at h
    have hdelimiter : (q.isStructural c && c == delimiter) = false := by simpa using h.1
    rw [List.cons_append, splitFrom, hdelimiter, if_neg Bool.false_ne_true, ih h.2,
      List.modifyHead_modifyHead, QuoteState.after_cons]
    rfl

lemma splitFrom_of_countStructural {delimiter : Char} {q : QuoteState} {s : List Char}
    (h : countStructural delimiter q s = 0) : splitFrom delimiter q s = [s] := by
  have hsplit := splitFrom_append_of_countStructural h []
  rw [List.append_nil, splitFrom, List.modifyHead_cons, List.append_nil] at hsplit
  exact hsplit

/-! ### Reading a flat fragment -/

section ReadFlat

variable {policy : Policy} {s : List Char} {slots : Slots}

lemma readFlat_placeholder {number : Nat} (h : placeholderNumber? (trim s) = some number) :
    readFlat policy s slots =
      (slots.take? number).elim (.error (.unknownPlaceholder (String.ofList (trim s)))) .ok := by
  rw [readFlat]
  simp only [h]
  cases slots.take? number <;> rfl

lemma readFlat_negation {rest : List Char} (h : placeholderNumber? (trim s) = none)
    (hrest : afterNegation? (trim s) = some rest) :
    readFlat policy s slots = do
      let (inner, slots) ← readFlat policy rest slots
      return (.negation inner, slots) := by
  rw [readFlat]
  simp only [h]
  split
  · next hrest' =>
    rw [hrest] at hrest'
    cases hrest'
    rfl
  · next hrest' =>
    rw [hrest] at hrest'
    cases hrest'

lemma readFlat_joined {connective : Connective} {left right : List Char}
    (h : placeholderNumber? (trim s) = none) (hnot : afterNegation? (trim s) = none)
    (hsplit : splitAtConnective? (trim s) = some ⟨connective, left, right⟩) :
    readFlat policy s slots = do
      let (left, slots) ← readFlat policy left slots
      let (right, slots) ← readFlat policy right slots
      return (.joined connective left right, slots) := by
  rw [readFlat]
  simp only [h]
  split
  · next hnot' =>
    rw [hnot] at hnot'
    cases hnot'
  · split
    · next hsplit' =>
      rw [hsplit] at hsplit'
      cases hsplit'
      rfl
    · next hsplit' =>
      rw [hsplit] at hsplit'
      cases hsplit'

lemma readFlat_comparison (h : placeholderNumber? (trim s) = none)
    (hnot : afterNegation? (trim s) = none) (hsplit : splitAtConnective? (trim s) = none) :
    readFlat policy s slots = do
      let comparison ← readComparison policy slots (trim s)
      return (comparison, slots) := by
  rw [readFlat]
  simp only [h]
  split
  · next hnot' =>
    rw [hnot] at hnot'
    cases hnot'
  · split
    · next hsplit' =>
      rw [hsplit] at hsplit'
      cases hsplit'
    · rfl

end ReadFlat

end RecordFilter.Proofs
