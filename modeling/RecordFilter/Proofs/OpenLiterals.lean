import RecordFilter.Proofs.FlatReading
import RecordFilter.Proofs.LiteralReadings
import RecordFilter.Proofs.OperandVariation
import RecordFilter.Proofs.ReadFilters

/-!
# Literals that stay open

A literal that starts a token has to end with it, and the parentheses of a group are found only
outside literals. One way is left to end a filter inside a literal: under the lenient policy a
token that starts with another character is kept as it stands, and a quote in the middle of it
takes all that follows into the same token. Such a token is the last one of the text, and its text
is the last value of the filter.
-/

namespace RecordFilter.Proofs
open RecordFilter.Text RecordFilter.Parser RecordFilter.Number

/-- The operand of the comparison that stands last. -/
def lastOperand : Filter → Operand Scalar
  | .comparison _ _ operand => operand
  | .nested _ _ operand => operand
  | .joined _ _ right => lastOperand right
  | .negation inner => lastOperand inner

/-- A text ends in the bare word `word`, which a quote leaves open. Before it all literals are
closed, and behind it stand only blanks and the bracket of a list. -/
structure EndsOpen (s before word behind : List Char) : Prop where
  text : s = before ++ (word ++ behind)
  closed : QuoteState.outside.after before = .outside
  head : word.head? ≠ some '\''
  opened : QuoteState.outside.after word ≠ .outside
  behind_mem : ∀ c ∈ behind, isBlank c = true ∨ c = ']'

/-- All literals of a text are closed; or else the policy is lenient, the text ends in a bare word
that is left open, and the last of the values is that word. -/
def ClosedOrKept (policy : Policy) (s : List Char) (values : List Scalar) : Prop :=
  QuoteState.outside.after s = .outside ∨
    policy = .lenient ∧ ∃ before word behind, EndsOpen s before word behind ∧
      values.getLast? = some (.string (String.ofList word))

namespace ClosedOrKept

variable {policy : Policy} {s t : List Char} {values : List Scalar}

lemma prepend (ht : QuoteState.outside.after t = .outside) (h : ClosedOrKept policy s values) :
    ClosedOrKept policy (t ++ s) values := by
  rcases h with hclosed | ⟨hpolicy, before, word, behind, hs, hlast⟩
  · left
    rw [QuoteState.after_append, ht, hclosed]
  · refine .inr ⟨hpolicy, t ++ before, word, behind, ?_, hlast⟩
    refine ⟨by rw [hs.text, List.append_assoc], ?_, hs.head, hs.opened, hs.behind_mem⟩
    rw [QuoteState.after_append, ht, hs.closed]

lemma append (ht : ∀ c ∈ t, isBlank c = true ∨ c = ']') (h : ClosedOrKept policy s values) :
    ClosedOrKept policy (s ++ t) values := by
  rcases h with hclosed | ⟨hpolicy, before, word, behind, hs, hlast⟩
  · left
    rw [QuoteState.after_append, hclosed]
    apply after_outside_of_no_quote
    intro hmem
    rcases ht _ hmem with h | h <;> exact absurd h (by decide)
  · refine .inr ⟨hpolicy, before, word, behind ++ t, ?_, hlast⟩
    refine ⟨by rw [hs.text]; simp only [List.append_assoc], hs.closed, hs.head, hs.opened, ?_⟩
    intro c hc
    rcases List.mem_append.1 hc with hc | hc
    · exact hs.behind_mem c hc
    · exact ht c hc

lemma append_values (h : ClosedOrKept policy s values) (first : List Scalar) :
    ClosedOrKept policy s (first ++ values) := by
  refine h.imp_right fun ⟨hpolicy, before, word, behind, hs, hlast⟩ =>
    ⟨hpolicy, before, word, behind, hs, ?_⟩
  rw [List.getLast?_append, hlast, Option.some_or]

lemma of_trim (h : ClosedOrKept policy (trim s) values) : ClosedOrKept policy s values := by
  obtain ⟨x, y, hx, hy, hs⟩ := exists_eq_append_trim s
  rw [hs]
  exact (h.prepend (after_of_blanks hx)).append fun c hc => .inl (hy c hc)

end ClosedOrKept

/-- A literal that is read is closed by its last character. -/
lemma after_of_decode {s v : List Char} (h : Literal.decode s = some v) :
    QuoteState.outside.after s = .outside := by
  have hliteral := (isSome_decode_iff s).1 (Option.isSome_of_eq_some h)
  exact hliteral.after

section Reading

variable {policy : Policy}

/-- A token is closed, or it is kept as it stands. -/
lemma closedOrKept_of_ofTrimmed? {token : List Char} {value : Scalar}
    (h : Scalar.ofTrimmed? policy token = some value) : ClosedOrKept policy token [value] := by
  by_cases hquote : '\'' ∈ token
  · by_cases hhead : token.head? = some '\''
    · have hword : ¬(token = [] ∨ token = "null".toList) := by
        rintro (rfl | rfl)
        · cases hquote
        · exact absurd hquote (by decide)
      unfold Scalar.ofTrimmed? at h
      rw [if_neg hword, if_pos hhead] at h
      obtain ⟨v, hv, -⟩ := Option.map_eq_some_iff.1 h
      exact .inl (after_of_decode hv)
    · by_cases hafter : QuoteState.outside.after token = .outside
      · exact .inl hafter
      · rw [ofTrimmed?_of_quote hquote hhead] at h
        split at h
        · next hpolicy =>
          cases h
          exact .inr ⟨hpolicy, [], token, [], ⟨by simp, rfl, hhead, hafter, by simp⟩, rfl⟩
        · cases h
  · exact .inl (after_outside_of_no_quote hquote)

lemma closedOrKept_of_ofToken {token : List Char} {value : Scalar}
    (h : Scalar.ofToken policy token = .ok value) : ClosedOrKept policy token [value] := by
  unfold Scalar.ofToken at h
  split at h
  · next hvalue =>
    cases h
    exact (closedOrKept_of_ofTrimmed? hvalue).of_trim
  · cases h

/-- The last part of a text that is split is its end, and what comes before it is closed. -/
lemma exists_last_of_splitFrom (delimiter : Char) (q : QuoteState) (s : List Char) :
    ∃ parts before last, splitFrom delimiter q s = parts ++ [last] ∧ s = before ++ last ∧
      (parts = [] ∧ before = [] ∨ parts ≠ [] ∧ q.after before = .outside) := by
  induction s generalizing q with
  | nil => exact ⟨[], [], [], rfl, rfl, .inl ⟨rfl, rfl⟩⟩
  | cons c s ih =>
    obtain ⟨parts, before, last, hparts, rfl, hbefore⟩ := ih (q.next c)
    rw [splitFrom, hparts]
    split
    · next hcut =>
      rw [Bool.and_eq_true] at hcut
      have hnext := QuoteState.next_of_isStructural hcut.1
      refine ⟨[] :: parts, c :: before, last, rfl, rfl, .inr ⟨List.cons_ne_nil _ _, ?_⟩⟩
      rcases hbefore with ⟨-, rfl⟩ | ⟨-, hbefore⟩
      · exact hnext
      · exact hbefore
    · rcases hbefore with ⟨rfl, rfl⟩ | ⟨hne, hbefore⟩
      · exact ⟨[], [], c :: last, rfl, rfl, .inl ⟨rfl, rfl⟩⟩
      · obtain ⟨first, parts, rfl⟩ := List.exists_cons_of_ne_nil hne
        exact ⟨(c :: first) :: parts, c :: before, last, rfl, rfl,
          .inr ⟨List.cons_ne_nil _ _, hbefore⟩⟩

/-- The last value of a list is read from its last element. -/
lemma exists_last_of_readElements {whole last : List Char} {elements : List (List Char)}
    {values : List Scalar} (h : readElements policy whole (elements ++ [last]) = .ok values) :
    ∃ first value, values = first ++ [value] ∧ Scalar.ofToken policy last = .ok value := by
  induction elements generalizing values with
  | nil =>
    rw [List.nil_append, readElements] at h
    split at h
    · cases h
    · obtain ⟨value, hvalue, h⟩ := bind_eq_ok_iff.1 h
      obtain ⟨rest, hrest, h⟩ := bind_eq_ok_iff.1 h
      cases hrest
      cases h
      exact ⟨[], value, rfl, hvalue⟩
  | cons element elements ih =>
    rw [List.cons_append, readElements] at h
    split at h
    · cases h
    · obtain ⟨value, -, h⟩ := bind_eq_ok_iff.1 h
      obtain ⟨rest, hrest, h⟩ := bind_eq_ok_iff.1 h
      cases h
      obtain ⟨first, last', rfl, hlast⟩ := ih hrest
      exact ⟨value :: first, last', rfl, hlast⟩

lemma closedOrKept_of_readElements {whole s : List Char} {values : List Scalar}
    (h : readElements policy whole (split ',' s) = .ok values) : ClosedOrKept policy s values := by
  obtain ⟨parts, before, last, hparts, rfl, hbefore⟩ := exists_last_of_splitFrom ',' .outside s
  rw [split, hparts] at h
  obtain ⟨first, value, rfl, hvalue⟩ := exists_last_of_readElements h
  have hclosed : QuoteState.outside.after before = .outside := by
    rcases hbefore with ⟨-, rfl⟩ | ⟨-, hbefore⟩
    · rfl
    · exact hbefore
  exact ((closedOrKept_of_ofToken hvalue).append_values first).prepend hclosed

lemma eq_of_withoutBrackets? {token inner : List Char} (h : withoutBrackets? token = some inner) :
    token = ['['] ++ inner ++ [']'] := by
  unfold withoutBrackets? at h
  split at h
  · next rest =>
    split at h
    · next hlast =>
      cases h
      rw [List.append_assoc, List.dropLast_append_getLast? _ hlast]
      rfl
    · cases h
  · cases h

lemma closedOrKept_of_readOperand {comparator : Comparator} {token : List Char}
    {operand : Operand Scalar} (h : readOperand policy comparator token = .ok operand) :
    ClosedOrKept policy token operand.values := by
  rw [readOperand] at h
  split at h
  · split at h
    · next inner hinner =>
      have hbracket : QuoteState.outside.after ['['] = .outside := by decide
      suffices hvalues : ClosedOrKept policy inner operand.values by
        rw [eq_of_withoutBrackets? hinner]
        refine (hvalues.prepend hbracket).append fun c hc => .inr ?_
        exact List.mem_singleton.1 hc
      split at h
      · next hblank =>
        have hclosed : ClosedOrKept policy (trim inner) operand.values := by
          rw [hblank]
          exact .inl rfl
        exact hclosed.of_trim
      · obtain ⟨values, hvalues, rfl⟩ := map_eq_ok_iff.1 h
        exact closedOrKept_of_readElements hvalues
    · obtain ⟨value, hvalue, rfl⟩ := map_eq_ok_iff.1 h
      exact closedOrKept_of_ofToken hvalue
  · obtain ⟨value, hvalue, rfl⟩ := map_eq_ok_iff.1 h
    exact closedOrKept_of_ofToken hvalue

/-! ### Fragments and filters -/

lemma closedOrKept_of_readComparison {slots : Slots} {s : List Char} {p : Filter}
    (h : readComparison policy slots s = .ok p) :
    ClosedOrKept policy s (lastOperand p).values := by
  obtain ⟨-, field, comparator, token, operand, hwritten, -, hoperand, rfl⟩ :=
    readComparison_eq_ok_iff.1 h
  obtain ⟨before, rfl, -, hquote, -⟩ := hwritten.exists_before
  exact (closedOrKept_of_readOperand hoperand).prepend (after_outside_of_no_quote hquote)

/-- The literals of a fragment in pieces are closed, or its end is kept as a value. -/
theorem closedOrKept_of_flatForm {ps : List Piece} {slots slots' : Slots} {p : Filter}
    (hform : FlatForm ps) (h : readFlat policy (flatText ps) slots = .ok (p, slots')) :
    ClosedOrKept policy (sourceText ps) (lastOperand p).values := by
  induction hform generalizing slots slots' p with
  | @placeholder ps ts number hcore hnumber hread =>
    have hdigits : ∀ {digits : List Char}, (∀ c ∈ digits, c.isDigit = true) → '\'' ∉ digits :=
      fun hall hmem => absurd (hall _ hmem) (by decide)
    refine .of_trim ?_
    rw [← hcore.source]
    left
    obtain ⟨digits, hall, ⟨rfl, -, -⟩ | ⟨slot, source, rfl, -⟩⟩ := pieces_of_placeholderNumber? hnumber
    · rw [sourceText_charPieces, QuoteState.after_append]
      exact after_outside_of_no_quote (hdigits hall)
    · rw [sourceText, after_group (hcore.scanned.isClosed_of_mem_groupsOf List.mem_cons_self),
        sourceText_charPieces]
      exact after_outside_of_no_quote (hdigits hall)
  | @negation ps qs hcore hread _ _ ih =>
    rw [hread] at h
    obtain ⟨⟨inner, slots₁⟩, hinner, h⟩ := bind_eq_ok_iff.1 h
    cases h
    refine .of_trim ?_
    rw [← hcore.source, sourceText_append, sourceText_charPieces]
    exact (ih hinner).prepend after_negationMark
  | @joined ps ts split hcore hsplit hread _ _ _ ihr =>
    rw [hread] at h
    obtain ⟨⟨left, slots₁⟩, -, h⟩ := bind_eq_ok_iff.1 h
    obtain ⟨⟨right, slots₂⟩, hright, h⟩ := bind_eq_ok_iff.1 h
    cases h
    have hsplits := splits_of_splitPieces? hcore.scanned hsplit
    refine .of_trim ?_
    rw [← hcore.source, hsplits.source]
    exact ((ihr hright).prepend (after_separator hsplits.mem)).prepend hsplits.after
  | @comparison ps ts hcore hread =>
    rw [hread] at h
    obtain ⟨comparison, hcomparison, h⟩ := bind_eq_ok_iff.1 h
    cases h
    have hnone := groupsOf_eq_nil_of_countMarks hcore.scanned
      (builds_of_readComparison hcomparison).2
    refine .of_trim ?_
    rw [← hcore.source, ← flatText_eq_sourceText hnone]
    exact closedOrKept_of_readComparison hcomparison

end Reading

/-- A filter that is read ends outside its literals. The only exception is made by the lenient
policy: the text may end in a bare word, begun outside literals and not by a quote, that a quote
leaves open. All of that word is the last value of the filter. -/
theorem closedOrKept_of_ofText {policy : Policy} {s : String} {p : Filter}
    (h : Filter.ofText policy s = .ok p) :
    QuoteState.outside.after s.toList = .outside ∨
      policy = .lenient ∧ ∃ before word behind, EndsOpen s.toList before word behind ∧
        (lastOperand p).values.getLast? = some (.string (String.ofList word)) := by
  obtain ⟨-, slots, hread⟩ := ofText_eq_ok_iff.1 h
  rw [readFragment] at hread
  obtain ⟨⟨flat, slots₁⟩, hresolve, hflat⟩ := bind_eq_ok_iff.1 hread
  obtain ⟨ps, hps, hsource, rfl, -⟩ := resolveFrom_eq_ok_iff.1 hresolve
  have hkept : ClosedOrKept policy (trim s.toList) (lastOperand p).values :=
    hsource ▸ closedOrKept_of_flatForm (flatForm_of_wellScanned hps) hflat
  exact hkept.of_trim

/-- The apostrophe of a bare word in a list takes the next comparison into the list. -/
theorem closedOrKept_of_ofText_swallowedComparison :
    Filter.ofText .lenient "not A in [1, O'B and C in [2 ]" =
        .ok (.negation (.comparison "A" .oneOf
          (.list [.integer 1, .string "O'B and C in [2"]))) ∧
      ∃ before word behind,
        EndsOpen "not A in [1, O'B and C in [2 ]".toList before word behind ∧
        some (Scalar.string "O'B and C in [2") = some (.string (String.ofList word)) := by
  have hread : Filter.ofText .lenient "not A in [1, O'B and C in [2 ]" =
      .ok (.negation (.comparison "A" .oneOf
        (.list [.integer 1, .string "O'B and C in [2"]))) := by decide +kernel
  have hopen : QuoteState.outside.after "not A in [1, O'B and C in [2 ]".toList ≠ .outside := by
    decide +kernel
  exact ⟨hread, ((closedOrKept_of_ofText hread).resolve_left hopen).2⟩

/-- A bare word with one apostrophe takes the rest of the filter, and the literal stays open. -/
theorem apostrophe_swallows_comparison :
    ¬∀ (policy : Policy) (s : String) (p : Filter), Filter.ofText policy s = .ok p →
      QuoteState.outside.after s.toList = .outside := by
  intro h
  have hread : Filter.ofText .lenient "A eq O'B and C eq 3" =
      .ok (.comparison "A" .equal (.single (.string "O'B and C eq 3"))) := by decide +kernel
  exact absurd (h .lenient _ _ hread) (by decide +kernel)

end RecordFilter.Proofs
