import Mathlib.Tactic.Common
import RecordFilter.Proofs.PlaceholderLinearity

/-!
# Comparisons in the grammar

The grammar reads a comparison by its words, and the parser by runs of word characters and of
blanks. Both find the field, the comparator and the token of `WrittenAs`, and both read the same
operand from the token. So a text without groups and placeholders is the same comparison to both
(`toOption_readComparison`).
-/

namespace RecordFilter.Proofs
open RecordFilter.Text RecordFilter.Parser

variable {policy : Policy}

lemma word?_eq_some_iff {s word rest : List Char} :
    Grammar.word? s = some (word, rest) ↔
      (word ≠ [] ∧ ∀ c ∈ word, isBlank c = false) ∧
      (rest ≠ [] ∧ ∀ c ∈ rest.head?, isBlank c = false) ∧
      ∃ gap, Blanks gap ∧ gap ≠ [] ∧ s = word ++ gap ++ rest := by
  rw [Grammar.word?]
  constructor
  · intro h
    split at h
    · cases h
    · next hne =>
      cases h
      rw [not_or] at hne
      obtain ⟨gap, hgap, hrest⟩ := exists_eq_append_trimStart (s.dropWhile (!isBlank ·))
      have hword : ∀ c ∈ s.takeWhile (!isBlank ·), isBlank c = false := by
        intro c hc
        simpa using List.all_eq_true.1 List.all_takeWhile c hc
      refine ⟨⟨hne.1, hword⟩, ⟨hne.2, head_trimStart _⟩, gap, hgap,
        gap_ne_nil hrest hne.2 (head_trimStart _), ?_⟩
      rw [List.append_assoc, ← hrest, List.takeWhile_append_dropWhile]
  · rintro ⟨⟨hword, hblank⟩, ⟨hrest, hhead⟩, gap, hgap, hne, rfl⟩
    obtain ⟨b, gap, rfl⟩ := List.exists_cons_of_ne_nil hne
    have hmem : ∀ c ∈ word, (!isBlank c) = true := fun c hc => by simp [hblank c hc]
    have hb : (!isBlank b) = false := by simp [hgap b List.mem_cons_self]
    have hstart : trimStart (b :: (gap ++ rest)) = rest := by
      rw [← List.cons_append, trimStart_append_of_blanks hgap, trimStart_eq_self hhead]
    rw [List.append_assoc, List.cons_append, takeWhile_append_cons hmem hb,
      dropWhile_append_cons hmem hb, hstart, if_neg (not_or.2 ⟨hword, hrest⟩)]

/-- A written comparison is two words and a token, the first word of word characters and the second
that of a comparator. -/
lemma writtenAs_iff_words {s field token : List Char} {comparator : Comparator} :
    WrittenAs s field comparator token ↔
      (∀ c ∈ field, isWordChar c = true) ∧ ∃ rest, Grammar.word? s = some (field, rest) ∧
        Grammar.word? rest = some (comparator.word.toList, token) := by
  have hcomparator : comparator.word.toList ≠ [] ∧
      ∀ c ∈ comparator.word.toList, isBlank c = false := by
    cases comparator <;> decide
  simp only [word?_eq_some_iff]
  constructor
  · rintro ⟨hne, hword, htoken, hhead, gap, gap', hgap, hgapne, hgap', hgapne', rfl⟩
    have hblank : ∀ c ∈ field, isBlank c = false := by
      intro c hc
      rw [Bool.eq_false_iff]
      intro hblank
      exact Bool.eq_false_iff.1 (isWordChar_of_isBlank hblank) (hword c hc)
    refine ⟨hword, comparator.word.toList ++ gap' ++ token, ⟨⟨hne, hblank⟩, ⟨?_, ?_⟩, gap, hgap,
      hgapne, by simp only [List.append_assoc]⟩, hcomparator, ⟨htoken, hhead⟩, gap', hgap', hgapne',
      rfl⟩
    · simp [hcomparator.1]
    · intro c hc
      rw [List.append_assoc, List.head?_append_of_ne_nil _ hcomparator.1] at hc
      exact hcomparator.2 c (List.mem_of_head? hc)
  · rintro ⟨hword, rest, ⟨⟨hne, -⟩, -, gap, hgap, hgapne, rfl⟩, -, ⟨htoken, hhead⟩, gap', hgap',
      hgapne', rfl⟩
    exact ⟨hne, hword, htoken, hhead, gap, gap', hgap, hgapne, hgap', hgapne',
      by simp only [List.append_assoc]⟩

lemma toOption_ofToken (token : List Char) :
    (Scalar.ofToken policy token).toOption = Grammar.readValue? policy token := by
  rw [Scalar.ofToken, Grammar.readValue?]
  cases Scalar.ofTrimmed? policy (trim token) <;> rfl

lemma toOption_map {ε α β : Type} (x : Except ε α) (f : α → β) :
    (x.map f).toOption = x.toOption.map f := by
  cases x <;> rfl

lemma toOption_readElements (whole : List Char) (elements : List (List Char)) :
    (readElements policy whole elements).toOption = elements.mapM fun element =>
      if trim element = [] then none else Grammar.readValue? policy element := by
  induction elements with
  | nil => rfl
  | cons element elements ih =>
    rw [readElements, List.mapM_cons, ← ih, ← toOption_ofToken]
    by_cases hblank : trim element = []
    · rw [if_pos hblank, if_pos hblank]
      rfl
    · rw [if_neg hblank, if_neg hblank]
      cases Scalar.ofToken policy element with
      | error => rfl
      | ok => cases readElements policy whole elements <;> rfl

lemma withoutBrackets?_eq (token : List Char) :
    withoutBrackets? token =
      if token.head? = some '[' ∧ token.getLast? = some ']' then some token.tail.dropLast
      else none := by
  by_cases hhead : token.head? = some '['
  · obtain ⟨rest, rfl⟩ := List.head?_eq_some_iff.1 hhead
    have hlast : ('[' :: rest).getLast? = some ']' ↔ rest.getLast? = some ']' := by
      cases rest with
      | nil => decide
      | cons c rest => rw [List.getLast?_cons_cons]
    simp only [withoutBrackets?, hlast, List.head?_cons, true_and, List.tail_cons]
  · rw [withoutBrackets?_of_head hhead, if_neg fun h => hhead h.1]

/-- The parser reads the operand that the grammar reads. -/
lemma toOption_readOperand (comparator : Comparator) (token : List Char) :
    (readOperand policy comparator token).toOption =
      Grammar.readOperand? policy comparator token := by
  rw [readOperand, Grammar.readOperand?, withoutBrackets?_eq]
  by_cases hlist : comparator.takesList = true
  · rw [if_pos hlist, hlist, Bool.not_true, if_neg Bool.false_ne_true]
    split_ifs with hbrackets
    · rw [Grammar.readList?]
      dsimp only
      split
      · rfl
      · rw [toOption_map, toOption_readElements]
    · rw [← toOption_ofToken, ← toOption_map]
  · rw [if_neg hlist, Bool.eq_false_iff.2 hlist, Bool.not_false, if_pos rfl, ← toOption_ofToken,
      ← toOption_map]

lemma isFieldName_iff {field : String} :
    isFieldName field = true ↔
      field.toList ≠ [] ∧ (∀ c ∈ field.toList, isWordChar c = true) ∧ isKeyword field = false := by
  simp only [isFieldName, isWord, Bool.and_eq_true, Bool.not_eq_true', List.isEmpty_eq_false_iff,
    List.all_eq_true, and_assoc]

/-- The grammar reads a comparison from what is written as one without groups and placeholders, if
its word can name a field and its token is an operand. -/
lemma readComparison?_eq_some_iff {s : List Char} {p : Filter} :
    Grammar.readComparison? policy s = some p ↔
      Grammar.isPlain s = true ∧ ∃ field comparator token operand,
        WrittenAs s field comparator token ∧ isKeyword (String.ofList field) = false ∧
        Grammar.readOperand? policy comparator token = some operand ∧
        p = .comparison (String.ofList field) comparator operand := by
  constructor
  · intro h
    obtain ⟨⟨field, rest⟩, hfirst, h⟩ := Option.bind_eq_some_iff.1 h
    obtain ⟨⟨word, token⟩, hsecond, h⟩ := Option.bind_eq_some_iff.1 h
    obtain ⟨comparator, hcomparator, h⟩ := Option.bind_eq_some_iff.1 h
    obtain ⟨operand, hoperand, h⟩ := Option.bind_eq_some_iff.1 h
    split at h
    · next hplain =>
      cases h
      rw [Bool.and_eq_true, isFieldName_iff, String.toList_ofList] at hplain
      have hword : word = comparator.word.toList := by
        rw [← ofWord?_eq_some hcomparator, String.toList_ofList]
      rw [hword] at hsecond
      exact ⟨hplain.1, field, comparator, token, operand,
        writtenAs_iff_words.2 ⟨hplain.2.2.1, rest, hfirst, hsecond⟩, hplain.2.2.2, hoperand, rfl⟩
    · cases h
  · rintro ⟨hplain, field, comparator, token, operand, hwritten, hkeyword, hoperand, rfl⟩
    obtain ⟨hword, rest, hfirst, hsecond⟩ := writtenAs_iff_words.1 hwritten
    have hfield : isFieldName (String.ofList field) = true := by
      rw [isFieldName_iff, String.toList_ofList]
      exact ⟨hwritten.field_ne_nil, hword, hkeyword⟩
    simp only [Grammar.readComparison?, hfirst, hsecond, String.ofList_toList,
      Comparator.ofWord?_word, hoperand, hplain, hfield, bind, Option.bind, Bool.and_self, if_true,
      pure]

lemma isPlain_iff {s : List Char} :
    Grammar.isPlain s = true ↔ countStructural '(' .outside s = 0 ∧ countMarks .outside s = 0 := by
  rw [Grammar.isPlain, Bool.and_eq_true, beq_iff_eq, Option.isNone_iff_eq_none, cut?,
    countMarks_eq_zero_iff]

/-- What has a group is no comparison. -/
lemma readComparison?_eq_none {s : List Char} (h : countStructural '(' .outside s ≠ 0) :
    Grammar.readComparison? policy s = none := by
  rw [Option.eq_none_iff_forall_ne_some]
  intro p hread
  exact h (isPlain_iff.1 (readComparison?_eq_some_iff.1 hread).1).1

lemma toOption_eq_some_iff {ε α : Type} {x : Except ε α} {a : α} :
    x.toOption = some a ↔ x = .ok a := by
  cases x <;> simp [Except.toOption]

/-- From a text without groups and placeholders the parser reads the comparison that the grammar
reads, whatever slots there are. -/
theorem toOption_readComparison {s : List Char} (hplain : Grammar.isPlain s = true)
    (slots : Slots) :
    (readComparison policy slots s).toOption = Grammar.readComparison? policy s := by
  ext p
  rw [toOption_eq_some_iff, readComparison_eq_ok_iff, readComparison?_eq_some_iff]
  simp only [← toOption_readOperand, toOption_eq_some_iff, hplain, (isPlain_iff.1 hplain).2]

/-- A comma in a literal separates no elements, and neither blanks nor brackets are part of them. -/
example : Grammar.readComparison? .strict "Tags  in [ 'a,b' ,null]".toList =
    some (.comparison "Tags" .oneOf (.list [.string "a,b", .null])) := by
  decide +kernel

end RecordFilter.Proofs
