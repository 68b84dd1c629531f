import RecordFilter.Predicate.Recursion
import RecordFilter.Proofs.GrammarForms
import RecordFilter.Proofs.PlaceholderLinearity
import RecordFilter.Proofs.ScannedText

/-!
# What is left once groups are replaced

A text in which the groups have been replaced holds no parenthesis outside literals, and neither does
any part that the reading goes on with: each of them is cut off where the text is read outside, so
it is read from there as it was read in the text. Replacing the groups of such a part binds none and
gives the part back, whether it is scanned or not (`resolveWith_of_countParentheses`).
-/

namespace RecordFilter.Proofs
open RecordFilter.Text RecordFilter.Parser

/-- How many parentheses stand outside literals in a text that starts in state `q`. -/
def countParentheses (q : QuoteState) (s : List Char) : Nat :=
  countStructural '(' q s + countStructural ')' q s

lemma countParentheses_append (q : QuoteState) (s t : List Char) :
    countParentheses q (s ++ t) = countParentheses q s + countParentheses (q.after s) t := by
  simp only [countParentheses, countStructural_append]
  omega

lemma countParentheses_of_not_mem {s : List Char} (hopen : '(' ∉ s) (hclose : ')' ∉ s)
    (q : QuoteState) : countParentheses q s = 0 := by
  rw [countParentheses, countStructural_of_not_mem hopen, countStructural_of_not_mem hclose]

@[simp] lemma countParentheses_trim (s : List Char) :
    countParentheses .outside (trim s) = countParentheses .outside s := by
  rw [countParentheses, countParentheses, countStructural_trim (by decide),
    countStructural_trim (by decide)]

lemma countParentheses_char {q : QuoteState} {c : Char} (hopen : ¬(q.isStructural c = true ∧ c = '('))
    (hclose : ¬(q.isStructural c = true ∧ c = ')')) (s : List Char) :
    countParentheses q (c :: s) = countParentheses (q.next c) s := by
  rw [countParentheses, countStructural, countStructural, if_neg hopen, if_neg hclose, Nat.zero_add,
    Nat.zero_add, countParentheses]

/-- The parentheses around a group count, and so do those in it. -/
lemma countParentheses_group {source : List Char} (h : IsClosed source) (s : List Char) :
    countParentheses .outside ('(' :: (source ++ ')' :: s)) =
      2 + countParentheses .outside source + countParentheses .outside s := by
  have hclosing : countStructural ')' .outside ('(' :: (source ++ ')' :: s)) =
      countStructural ')' .outside source + (1 + countStructural ')' .outside s) := by
    rw [countStructural, if_neg (by decide), next_opening, countStructural_append, h.after,
      countStructural, if_pos (by decide), next_closing, Nat.zero_add]
  rw [countParentheses, countStructural_group h, hclosing, countParentheses, countParentheses]
  omega

/-- A text is without parentheses outside literals if no reading of a character finds one. -/
lemma countParentheses_eq_zero_iff (offset : Nat) (q : QuoteState) (s : List Char) :
    countParentheses q s = 0 ↔
      ∀ r ∈ scanFrom offset q s, r.isStructural = true → r.char ≠ '(' ∧ r.char ≠ ')' := by
  rw [countParentheses, Nat.add_eq_zero_iff, countStructural_eq_countP '(' offset,
    countStructural_eq_countP ')' offset, List.countP_eq_zero, List.countP_eq_zero,
    ← forall₂_and]
  refine forall₂_congr fun r _ => ?_
  by_cases hr : r.isStructural = true <;> simp [hr]

section ResolveWith

variable {read : Reader} {whole : List Char}

lemma resolveWith_char {q : QuoteState} {c : Char} (hopen : ¬(q.isStructural c = true ∧ c = '('))
    (hclose : ¬(q.isStructural c = true ∧ c = ')')) (s : List Char) (slots : Slots) :
    resolveWith read whole q (c :: s) slots = do
      let (flat, slots) ← resolveWith read whole (q.next c) s slots
      return (c :: flat, slots) := by
  rw [resolveWith, if_neg hopen, if_neg hclose]

lemma resolveWith_closing (s : List Char) (slots : Slots) :
    resolveWith read whole .outside (')' :: s) slots =
      .error (.unmatchedParentheses (String.ofList whole)) := by
  rw [resolveWith, if_neg (by decide), if_pos (by decide)]

lemma resolveWith_unclosed {s : List Char} (h : takeGroup? .outside 0 s = none) (slots : Slots) :
    resolveWith read whole .outside ('(' :: s) slots =
      .error (.unmatchedParentheses (String.ofList whole)) := by
  rw [resolveWith, if_pos (by decide)]
  split
  · rfl
  · next htake =>
    rw [h] at htake
    cases htake

lemma resolveWith_group {source : List Char} (h : IsClosed source) (rest : List Char)
    (slots : Slots) :
    resolveWith read whole .outside ('(' :: (source ++ ')' :: rest)) slots = do
      let (content, slots) ← read source slots
      let (flat, slots') ← resolveWith read whole .outside rest (slots.bind source content)
      return (placeholder slots.length ++ flat, slots') := by
  rw [resolveWith, if_pos (by decide)]
  split
  · next htake =>
    rw [takeGroup?_of_isClosed h] at htake
    cases htake
  · next htake =>
    rw [takeGroup?_of_isClosed h] at htake
    cases htake
    rfl

end ResolveWith

section Resolved

variable {read : Reader} {whole : List Char} {q : QuoteState} {s flat : List Char}
  {slots slots' : Slots}

/-- Where groups are replaced, no parenthesis is left outside literals, whatever reads them. -/
lemma countParentheses_of_resolveWith
    (h : resolveWith read whole q s slots = .ok (flat, slots')) : countParentheses q flat = 0 := by
  induction scanCase q s generalizing flat slots with
  | nil q =>
    rw [resolveWith] at h
    cases h
    rfl
  | char hopen hclose _ ih =>
    rw [resolveWith_char hopen hclose] at h
    obtain ⟨⟨flat', slots₁⟩, hrest, h⟩ := bind_eq_ok_iff.1 h
    cases h
    rw [countParentheses_char hopen hclose]
    exact ih hrest
  | closing s =>
    rw [resolveWith_closing] at h
    cases h
  | unclosed htake =>
    rw [resolveWith_unclosed htake] at h
    cases h
  | group hsource _ ih =>
    rw [resolveWith_group hsource] at h
    obtain ⟨⟨content, slots₁⟩, -, h⟩ := bind_eq_ok_iff.1 h
    obtain ⟨⟨flat', slots₂⟩, hrest, h⟩ := bind_eq_ok_iff.1 h
    cases h
    have hplaceholder : ∀ c : Char, c.isDigit = false → c ∉ placeholderMark →
        c ∉ placeholder slots₁.length := by
      intro c hdigit hmark hmem
      rcases List.mem_append.1 hmem with hmem | hmem
      · exact hmark hmem
      · rw [isDigit_of_mem_digitsOf hmem] at hdigit
        cases hdigit
    rw [countParentheses_append, after_placeholder, ih hrest,
      countParentheses_of_not_mem (hplaceholder '(' (by decide) (by decide))
        (hplaceholder ')' (by decide) (by decide))]

/-- Without parentheses outside literals there is nothing to replace and nothing to read. -/
lemma resolveWith_of_countParentheses (h : countParentheses q s = 0) (read : Reader)
    (whole : List Char) (slots : Slots) : resolveWith read whole q s slots = .ok (s, slots) := by
  induction s generalizing q with
  | nil => rw [resolveWith]
  | cons c s ih =>
    rw [countParentheses, countStructural, countStructural] at h
    have hopen : ¬(q.isStructural c = true ∧ c = '(') := fun hc => by
      rw [if_pos hc] at h
      omega
    have hclose : ¬(q.isStructural c = true ∧ c = ')') := fun hc => by
      rw [if_pos hc] at h
      omega
    rw [if_neg hopen, if_neg hclose, Nat.zero_add, Nat.zero_add] at h
    rw [resolveWith_char hopen hclose, ih h]
    rfl

/-- Not scanning a text without any parenthesis makes no difference. -/
theorem resolveGroups_eq_resolveWith (read : Reader) (s : List Char) (slots : Slots) :
    resolveGroups read s slots = resolveWith read s .outside s slots := by
  rw [resolveGroups]
  split
  · rfl
  · next h =>
    rw [not_or] at h
    rw [resolveWith_of_countParentheses (countParentheses_of_not_mem h.1 h.2 .outside)]

lemma resolveGroups_of_countParentheses (h : countParentheses .outside s = 0) (read : Reader)
    (slots : Slots) : resolveGroups read s slots = .ok (s, slots) := by
  rw [resolveGroups_eq_resolveWith, resolveWith_of_countParentheses h]

lemma countParentheses_of_resolveGroups (h : resolveGroups read s slots = .ok (flat, slots')) :
    countParentheses .outside flat = 0 := by
  rw [resolveGroups_eq_resolveWith] at h
  exact countParentheses_of_resolveWith h

end Resolved

/-- Groups that are read as fragments are replaced as the parser replaces them. -/
lemma resolveWith_readFragment (policy : Policy) (whole : List Char) (q : QuoteState)
    (s : List Char) (slots : Slots) :
    resolveWith (readFragment policy) whole q s slots = resolveFrom policy whole q s slots := by
  induction scanCase q s generalizing slots with
  | nil q => rw [resolveWith, resolveFrom]
  | char hopen hclose _ ih => rw [resolveWith_char hopen hclose, resolveFrom_char hopen hclose, ih]
  | closing s => rw [resolveWith_closing, resolveFrom_closing]
  | unclosed htake => rw [resolveWith_unclosed htake, resolveFrom_unclosed htake]
  | group hsource _ ih =>
    rw [resolveWith_group hsource, resolveFrom_group hsource]
    simp only [ih]

theorem resolveGroups_readFragment (policy : Policy) (s : List Char) (slots : Slots) :
    resolveGroups (readFragment policy) s slots = resolve policy s slots := by
  rw [resolveGroups_eq_resolveWith, resolveWith_readFragment, resolve]

/-! ### The parts of a text -/

/-- The texts that the reading of a text goes on with: what a leading `not` negates, and both sides
of the first connective outside literals. -/
inductive IsNextPart (s : List Char) : List Char → Prop
  | negated {rest : List Char} (h : afterNegation? s = some rest) : IsNextPart s rest
  | left {split : Split} (h : splitAtConnective? s = some split) : IsNextPart s split.left
  | right {split : Split} (h : splitAtConnective? s = some split) : IsNextPart s split.right

/-- All texts that a text is cut into, with or without the blanks around them. -/
inductive IsPart (s : List Char) : List Char → Prop
  | self : IsPart s s
  | trimmed {t : List Char} (h : IsPart s t) : IsPart s (trim t)
  | next {t part : List Char} (h : IsPart s t) (hpart : IsNextPart t part) : IsPart s part

namespace IsNextPart

variable {s part : List Char}

lemma length_lt (h : IsNextPart s part) : part.length < s.length := by
  cases h with
  | negated h => exact length_lt_of_afterNegation? h
  | left h => exact (length_lt_of_splitAtConnective? h).1
  | right h => exact (length_lt_of_splitAtConnective? h).2

/-- What stands outside literals in a part stands outside literals in the text, as a part begins
where the text is read outside. -/
lemma countParentheses_le (h : IsNextPart s part) :
    countParentheses .outside part ≤ countParentheses .outside s := by
  cases h with
  | negated h =>
    obtain rfl := afterNegation?_eq_some_iff.1 h
    rw [countParentheses_append, after_negationMark]
    exact Nat.le_add_left _ _
  | left h =>
    obtain ⟨separator, -, heq, -⟩ := splitAtConnective?_eq_some h
    rw [heq, List.append_assoc, countParentheses_append]
    exact Nat.le_add_right _ _
  | right h =>
    obtain ⟨separator, hmem, heq, hafter⟩ := splitAtConnective?_eq_some h
    rw [heq, countParentheses_append, QuoteState.after_append, hafter, after_separator hmem]
    exact Nat.le_add_left _ _

end IsNextPart

lemma IsPart.countParentheses_eq_zero {s part : List Char} (h : IsPart s part)
    (hs : countParentheses .outside s = 0) : countParentheses .outside part = 0 := by
  induction h with
  | self => exact hs
  | trimmed _ ih => rw [countParentheses_trim, ih]
  | next _ hpart ih => exact Nat.le_zero.1 (ih ▸ hpart.countParentheses_le)

end RecordFilter.Proofs
