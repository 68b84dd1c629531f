import Mathlib.Tactic.Common
import RecordFilter.Proofs.GrammarAgreement
import RecordFilter.Proofs.ScalarRoundTrip

/-!
# The shape of printed text

Printed text is put together from words, values and texts in parentheses. This file says what can
be relied on at every joint: parentheses and literals are closed, no placeholder is started, and a
search for connectives passes over a part as a whole (`IsPassed`), so that the first connective
found is the one that was printed there.
-/

namespace RecordFilter.Proofs
open RecordFilter.Text RecordFilter.Parser RecordFilter.Number

lemma countMarks_of_countStructural {q : QuoteState} {s : List Char}
    (h : countStructural '@' q s = 0) : countMarks q s = 0 := by
  induction s generalizing q with
  | nil => rfl
  | cons c s ih =>
    rw [countStructural, Nat.add_eq_zero_iff] at h
    have hmark : ¬(q.isStructural c = true ∧ placeholderMark <+: c :: s) := by
      rintro ⟨hq, hpre⟩
      rw [if_pos ⟨hq, (List.cons_prefix_cons.1 hpre).1.symm⟩] at h
      exact absurd h.1 Nat.one_ne_zero
    rw [countMarks, if_neg hmark, ih h.2]

lemma closesOnDigit_append_of_closing {q : QuoteState} {s : List Char}
    (h : countStructural ')' q s = 0) (t : List Char) :
    closesOnDigit q (s ++ t) = closesOnDigit (q.after s) t := by
  induction s generalizing q with
  | nil => rfl
  | cons c s ih =>
    rw [countStructural, Nat.add_eq_zero_iff] at h
    have hclose : (q.isStructural c && c == ')') = false := by simpa using h.1
    rw [List.cons_append, closesOnDigit, hclose, Bool.false_and, Bool.false_or, ih h.2,
      QuoteState.after_cons]

lemma closesOnDigit_append_of_head {q : QuoteState} {s t : List Char}
    (hs : closesOnDigit q s = false) (ht : closesOnDigit (q.after s) t = false)
    (hhead : t.head?.any Char.isDigit = false) : closesOnDigit q (s ++ t) = false := by
  induction s generalizing q with
  | nil => exact ht
  | cons c s ih =>
    rw [closesOnDigit, Bool.or_eq_false_iff] at hs
    rw [List.cons_append, closesOnDigit, ih hs.2 ht, Bool.or_false]
    cases s with
    | nil => rw [List.nil_append, hhead, Bool.and_false]
    | cons d s => exact hs.1

/-- Outside literals, of which none is left open, a text holds no parenthesis and cannot start a
placeholder. -/
structure IsBare (s : List Char) : Prop where
  opening : countStructural '(' .outside s = 0
  closing : countStructural ')' .outside s = 0
  mark : countStructural '@' .outside s = 0
  after : QuoteState.outside.after s = .outside

lemma IsBare.append {s t : List Char} (hs : IsBare s) (ht : IsBare t) : IsBare (s ++ t) where
  opening := by rw [countStructural_append, hs.after, hs.opening, ht.opening]
  closing := by rw [countStructural_append, hs.after, hs.closing, ht.closing]
  mark := by rw [countStructural_append, hs.after, hs.mark, ht.mark]
  after := by rw [QuoteState.after_append, hs.after, ht.after]

lemma isBare_of_isOpaque {s : List Char} (h : isOpaque .outside s = true)
    (hafter : QuoteState.outside.after s = .outside) : IsBare s :=
  ⟨countStructural_of_isOpaque h _, countStructural_of_isOpaque h _,
    countStructural_of_isOpaque h _, hafter⟩

/-- The characters that cannot stand outside literals between the joints of printed text. -/
def jointChars : List Char := ['(', ')', '@', '\'']

lemma isBare_of_not_mem {s : List Char} (h : ∀ c ∈ jointChars, c ∉ s) : IsBare s where
  opening := countStructural_of_not_mem (h '(' (by decide)) _
  closing := countStructural_of_not_mem (h ')' (by decide)) _
  mark := countStructural_of_not_mem (h '@' (by decide)) _
  after := after_outside_of_no_quote (h '\'' (by decide))

/-- A search for connectives passes over the text as a whole, whatever comes after it. -/
def IsPassed (s : List Char) : Prop :=
  ∀ t, Grammar.splitFrom? .outside (s ++ t) =
    (Grammar.splitFrom? .outside t).map fun split => { split with left := s ++ split.left }

lemma splitFrom?_cons {q : QuoteState} {c : Char} {s : List Char}
    (hconnective : Grammar.connectiveAt? q (c :: s) = none)
    (hopen : ¬(q.isStructural c = true ∧ c = '(')) :
    Grammar.splitFrom? q (c :: s) = (Grammar.splitFrom? (q.next c) s).map fun split =>
      { split with left := c :: split.left } := by
  rw [Grammar.splitFrom?, hconnective]
  dsimp only
  rw [if_neg hopen]

lemma isPassed_of_isOpaque {s : List Char} (h : isOpaque .outside s = true)
    (hafter : QuoteState.outside.after s = .outside) : IsPassed s := by
  have hpassed : ∀ (q : QuoteState) (t : List Char), isOpaque q s = true →
      Grammar.splitFrom? q (s ++ t) = (Grammar.splitFrom? (q.after s) t).map fun split =>
        { split with left := s ++ split.left } := by
    clear h hafter
    induction s with
    | nil => simp
    | cons c s ih =>
      intro q t h
      simp only [isOpaque, Bool.and_eq_true, Bool.not_eq_true'] at h
      have hconnective : Grammar.connectiveAt? q (c :: (s ++ t)) = none := by
        simp [Grammar.connectiveAt?, h.1]
      rw [List.cons_append, splitFrom?_cons hconnective (by simp [h.1]), ih _ _ h.2, Option.map_map,
        QuoteState.after_cons]
      rfl
  intro t
  rw [hpassed _ t h, hafter]

lemma isPassed_of_not_mem {s : List Char} (hopen : '(' ∉ s) (hquote : '\'' ∉ s) (hblank : ' ' ∉ s) :
    IsPassed s := by
  induction s with
  | nil => intro t; simp
  | cons c s ih =>
    rw [List.mem_cons, not_or] at hopen hquote hblank
    intro t
    rw [List.cons_append, splitFrom?_cons (connectiveAt?_of_ne (Ne.symm hblank.1) _ _)
      (fun h => hopen.1 h.2.symm), next_outside_of_ne (Ne.symm hquote.1),
      ih hopen.2 hquote.2 hblank.2, Option.map_map]
    rfl

lemma IsPassed.append {s t : List Char} (hs : IsPassed s) (ht : IsPassed t) :
    IsPassed (s ++ t) := by
  intro u
  rw [List.append_assoc, hs, ht, Option.map_map]
  simp only [Function.comp_def, List.append_assoc]

/-- After a blank comes nothing that makes it the blank of a connective. -/
lemma IsPassed.blank_cons {s : List Char} (hs : IsPassed s)
    (h : ∀ t, Grammar.connectiveAt? .outside (' ' :: (s ++ t)) = none) : IsPassed (' ' :: s) := by
  have hnext : QuoteState.outside.next ' ' = .outside := by decide
  intro t
  rw [List.cons_append, splitFrom?_cons (h t) (by decide), hnext, hs, Option.map_map]
  rfl

lemma isPassed_parenthesized {s : List Char} (h : IsClosed s) :
    IsPassed (Filter.parenthesized s) := by
  intro t
  rw [Filter.parenthesized, List.append_assoc, List.cons_append, List.singleton_append,
    Grammar.splitFrom?, connectiveAt?_of_ne (by decide)]
  dsimp only
  rw [if_pos (by decide)]
  split
  · next htake =>
    rw [takeGroup?_of_isClosed h] at htake
    cases htake
  · next htake =>
    rw [takeGroup?_of_isClosed h] at htake
    cases htake
    simp

lemma splitFrom?_of_isPassed {s : List Char} (h : IsPassed s) :
    Grammar.splitFrom? .outside s = none := by
  have hnil := h []
  rwa [List.append_nil, Grammar.splitFrom?, Option.map_none] at hnil

lemma connectiveAt?_blank_of_head {s : List Char} (hne : s ≠ [])
    (h : ∀ c ∈ s.head?, c ≠ 'a' ∧ c ≠ 'o') (t : List Char) :
    Grammar.connectiveAt? .outside (' ' :: (s ++ t)) = none := by
  obtain ⟨c, s, rfl⟩ := List.exists_cons_of_ne_nil hne
  obtain ⟨ha, ho⟩ := h c rfl
  simp [Grammar.connectiveAt?, separators, Ne.symm ha, Ne.symm ho]

/-- The text of a value: it stands as a whole wherever it is printed. -/
structure IsValueText (s : List Char) : Prop where
  bare : IsBare s
  passed : IsPassed s
  ne_nil : s ≠ []
  trimmed : Trimmed s
  head : ∀ c ∈ s.head?, c ≠ 'a' ∧ c ≠ 'o'

/-- The text of a value that can be an element of a list. -/
structure IsElementText (s : List Char) : Prop extends IsValueText s where
  comma : countStructural ',' .outside s = 0
  bracket : s.head? ≠ some '['

lemma IsValueText.blank_cons {s : List Char} (h : IsValueText s) : IsPassed (' ' :: s) :=
  h.passed.blank_cons (connectiveAt?_blank_of_head h.ne_nil h.head)

lemma isElementText_encode (v : List Char) : IsElementText (Literal.encode v) where
  bare := isBare_of_isOpaque (isOpaque_encode v) (after_encode v)
  passed := isPassed_of_isOpaque (isOpaque_encode v) (after_encode v)
  ne_nil := by simp [Literal.encode]
  trimmed := trimmed_encode v
  head := by
    intro c hc
    cases hc
    decide
  comma := countStructural_of_isOpaque (isOpaque_encode v) _
  bracket := by simp [Literal.encode]

/-- The characters of a value that is no literal. -/
def isTokenChar (c : Char) : Bool :=
  c.isAlphanum || c == '-' || c == '.'

lemma not_isBlank_of_isTokenChar {c : Char} (h : isTokenChar c = true) : isBlank c = false := by
  simp only [isTokenChar, Bool.or_eq_true, beq_iff_eq] at h
  rcases h with (h | rfl) | rfl
  · rw [Bool.eq_false_iff]
    intro hblank
    have hword := isWordChar_of_isAlphanum h
    rw [isWordChar_of_isBlank hblank] at hword
    cases hword
  · decide
  · decide

lemma isElementText_of_isTokenChar {s : List Char} (hs : ∀ c ∈ s, isTokenChar c = true)
    (hne : s ≠ []) (hhead : ∀ c ∈ s.head?, c ≠ 'a' ∧ c ≠ 'o') : IsElementText s := by
  have hmem : ∀ c, isTokenChar c = false → c ∉ s := by
    intro c hc hmem
    rw [hs c hmem] at hc
    cases hc
  have hjoint : ∀ c ∈ jointChars, isTokenChar c = false := by decide
  have hblank : ∀ c ∈ s, isBlank c = false := fun c hc => not_isBlank_of_isTokenChar (hs c hc)
  refine ⟨⟨isBare_of_not_mem fun c hc => hmem c (hjoint c hc), ?_, hne, ⟨?_, ?_⟩, hhead⟩, ?_, ?_⟩
  · exact isPassed_of_not_mem (hmem _ (by decide)) (hmem _ (by decide)) (hmem _ (by decide))
  · exact fun c hc => hblank c (List.mem_of_head? hc)
  · exact fun c hc => hblank c (List.mem_of_getLast? hc)
  · exact countStructural_of_not_mem (hmem _ (by decide)) _
  · exact fun h => hmem '[' (by decide) (List.mem_of_head? h)

lemma isElementText_of_isPlainNumeral {x : Numeral} (h : IsPlainNumeral x) :
    IsElementText x.text := by
  refine isElementText_of_isTokenChar (fun c hc => ?_) h.text_ne_nil fun c hc => ?_
  · rcases h.mem_text hc with hdigit | rfl | rfl
    · simp [isTokenChar, Char.isAlphanum, hdigit]
    · decide
    · decide
  · have ha : ¬('a'.isDigit = true ∨ 'a' = '-' ∨ 'a' = '.') := by decide
    have ho : ¬('o'.isDigit = true ∨ 'o' = '-' ∨ 'o' = '.') := by decide
    constructor
    · rintro rfl
      exact ha (h.mem_text (List.mem_of_head? hc))
    · rintro rfl
      exact ho (h.mem_text (List.mem_of_head? hc))

lemma isElementText_text (value : Scalar) : IsElementText value.text := by
  cases value with
  | null => exact isElementText_of_isTokenChar (by decide) (by decide) (by decide)
  | boolean b =>
    cases b
    · exact isElementText_of_isTokenChar (by decide) (by decide) (by decide)
    · exact isElementText_of_isTokenChar (by decide) (by decide) (by decide)
  | integer n =>
    rw [Scalar.text, ← text_integerNumeral]
    exact isElementText_of_isPlainNumeral (isPlainNumeral_integerNumeral _)
  | decimal d => exact isElementText_of_isPlainNumeral (isPlainNumeral_numeral d)
  | string s => exact isElementText_encode _
  | date d => exact isElementText_encode _

/-- What stands between the elements of a list. -/
def elementGap : List Char := [',', ' ']

lemma isValueText_intercalate {texts : List (List Char)} (hne : texts ≠ [])
    (h : ∀ s ∈ texts, IsElementText s) : IsValueText (List.intercalate elementGap texts) := by
  induction texts with
  | nil => exact absurd rfl hne
  | cons s texts ih =>
    have hs := (h s List.mem_cons_self).toIsValueText
    cases texts with
    | nil =>
      rw [List.intercalate_singleton]
      exact hs
    | cons t texts =>
      have hrest := ih (List.cons_ne_nil _ _) fun s hs => h s (List.mem_cons_of_mem _ hs)
      have hcomma : IsBare [','] ∧ IsPassed [','] :=
        ⟨isBare_of_not_mem (by decide), isPassed_of_not_mem (by decide) (by decide) (by decide)⟩
      have hblank : IsBare [' '] := isBare_of_not_mem (by decide)
      have heq : List.intercalate elementGap (s :: t :: texts) =
          s ++ ([','] ++ ' ' :: List.intercalate elementGap (t :: texts)) := by
        rw [List.intercalate_cons_cons]
        simp [elementGap]
      rw [heq]
      refine ⟨?_, ?_, by simp, ?_, ?_⟩
      · exact hs.bare.append (hcomma.1.append (IsBare.append (s := [' ']) hblank hrest.bare))
      · exact hs.passed.append (hcomma.2.append hrest.blank_cons)
      · exact hs.trimmed.append hrest.trimmed hs.ne_nil hrest.ne_nil [',', ' ']
      · rw [List.head?_append_of_ne_nil _ hs.ne_nil]
        exact hs.head

lemma isValueText_bracketed {s : List Char} (h : s = [] ∨ IsValueText s) :
    IsValueText ('[' :: s ++ [']']) := by
  have hparts : ∀ c ∈ ['[', ']'], IsBare [c] ∧ IsPassed [c] := by
    intro c hc
    have hmem : (∀ d ∈ jointChars, d ∉ [c]) ∧ ' ' ∉ [c] := by
      revert c
      decide
    exact ⟨isBare_of_not_mem hmem.1, isPassed_of_not_mem (hmem.1 _ (by decide))
      (hmem.1 _ (by decide)) hmem.2⟩
  have hopen := hparts '[' (by decide)
  have hclose := hparts ']' (by decide)
  have hs : IsBare s ∧ IsPassed s := by
    rcases h with rfl | h
    · exact ⟨isBare_of_not_mem (by decide), fun t => by simp⟩
    · exact ⟨h.bare, h.passed⟩
  refine ⟨(hopen.1.append hs.1).append hclose.1, (hopen.2.append hs.2).append hclose.2, by simp,
    ⟨?_, ?_⟩, ?_⟩
  · intro c hc
    cases hc
    decide
  · intro c hc
    rw [List.getLast?_concat] at hc
    cases hc
    decide
  · intro c hc
    cases hc
    decide

lemma isValueText_of_operandText {comparator : Comparator} {operand : Operand Scalar}
    {s : List Char} (h : Filter.operandText comparator operand = .ok s) : IsValueText s := by
  cases operand with
  | single value =>
    cases h
    exact (isElementText_text value).toIsValueText
  | list values =>
    rw [Filter.operandText] at h
    split at h
    · cases h
      apply isValueText_bracketed
      by_cases hnil : values = []
      · exact .inl (by rw [hnil]; rfl)
      · refine .inr (isValueText_intercalate (by simpa using hnil) fun s hs => ?_)
        obtain ⟨value, -, rfl⟩ := List.mem_map.1 hs
        exact isElementText_text value
    · cases h

/-! ### Filters -/

/-- The text of a filter: it is closed, starts no placeholder, and no digit follows one of its
closing parentheses. -/
structure IsTidy (s : List Char) : Prop where
  closed : IsClosed s
  mark : countStructural '@' .outside s = 0
  digits : closesOnDigit .outside s = false
  ne_nil : s ≠ []
  trimmed : Trimmed s

/-- A text that can be the first of several parts: it is passed over, and what it begins is neither
a lone group nor a negation. -/
structure IsLead (s : List Char) : Prop extends IsTidy s where
  passed : IsPassed s
  group : ∀ t, Grammar.group? (s ++ ' ' :: t) = none
  negation : ∀ t, afterNegation? (s ++ ' ' :: t) = none

lemma IsTidy.isClean {s : List Char} (h : IsTidy s) : IsClean .outside s :=
  ⟨countMarks_of_countStructural h.mark, h.digits⟩

lemma IsBare.isClosed {s : List Char} (h : IsBare s) : IsClosed s :=
  ⟨openAfter?_of_countStructural h.opening h.closing 0, h.after⟩

lemma IsClosed.append {s t : List Char} (hs : IsClosed s) (ht : IsClosed t) :
    IsClosed (s ++ t) where
  balanced := by rw [openAfter?_append, hs.balanced, Option.bind_some, hs.after, ht.balanced]
  after := by rw [QuoteState.after_append, hs.after, ht.after]

lemma IsBare.digits {s : List Char} (h : IsBare s) : closesOnDigit .outside s = false := by
  have happend := closesOnDigit_append_of_closing h.closing []
  rwa [List.append_nil] at happend

lemma IsValueText.isTidy {s : List Char} (h : IsValueText s) : IsTidy s :=
  ⟨h.bare.isClosed, h.bare.mark, h.bare.digits, h.ne_nil, h.trimmed⟩

/-- Tidy texts with a bare text in between that starts with a blank. -/
lemma IsTidy.append {s t gap : List Char} (hs : IsTidy s) (ht : IsTidy t)
    (hgap : IsBare (' ' :: gap)) : IsTidy (s ++ (' ' :: gap ++ t)) := by
  have hrest : closesOnDigit .outside (' ' :: gap ++ t) = false := by
    rw [closesOnDigit_append_of_closing hgap.closing, hgap.after, ht.digits]
  refine ⟨hs.closed.append (hgap.isClosed.append ht.closed), ?_, ?_, by simp [hs.ne_nil], ?_⟩
  · rw [countStructural_append, countStructural_append, hs.mark, hs.closed.after, hgap.mark,
      hgap.after, ht.mark]
  · exact closesOnDigit_append_of_head hs.digits (by rw [hs.closed.after]; exact hrest) rfl
  · exact hs.trimmed.append ht.trimmed hs.ne_nil ht.ne_nil _

lemma spaced_eq (s w t : List Char) : Filter.spaced s w t = s ++ (' ' :: (w ++ [' ']) ++ t) := by
  simp [Filter.spaced]

lemma parenthesized_eq (s : List Char) : Filter.parenthesized s = ['('] ++ (s ++ [')']) := rfl

lemma IsClosed.parenthesized {s : List Char} (h : IsClosed s) :
    IsClosed (Filter.parenthesized s) :=
  ⟨openAfter?_group h 0 [], after_group h []⟩

lemma IsTidy.parenthesized {s : List Char} (h : IsTidy s) : IsTidy (Filter.parenthesized s) := by
  have hopen : countStructural '@' .outside ['('] = 0 ∧ countStructural ')' .outside ['('] = 0 ∧
      QuoteState.outside.after ['('] = .outside := by decide
  have hclose : countStructural '@' .outside [')'] = 0 ∧ closesOnDigit .outside [')'] = false := by
    decide
  refine ⟨h.closed.parenthesized, ?_, ?_, by simp [parenthesized_eq], ⟨?_, ?_⟩⟩
  · rw [parenthesized_eq, countStructural_append, countStructural_append, hopen.1, hopen.2.2,
      h.mark, h.closed.after, hclose.1]
  · rw [parenthesized_eq, closesOnDigit_append_of_closing hopen.2.1, hopen.2.2]
    exact closesOnDigit_append_of_head h.digits (by rw [h.closed.after]; exact hclose.2) rfl
  · intro c hc
    cases hc
    decide
  · intro c hc
    rw [Filter.parenthesized, List.getLast?_concat] at hc
    cases hc
    decide

lemma IsTidy.negation {s : List Char} (h : IsTidy s) : IsTidy (negationMark ++ s) := by
  have hmark : IsBare negationMark := isBare_of_not_mem (by decide)
  have hhead : Trimmed ['n'] := ⟨by decide, by decide⟩
  refine ⟨hmark.isClosed.append h.closed, ?_, ?_, by simp [h.ne_nil], ?_⟩
  · rw [countStructural_append, hmark.mark, hmark.after, h.mark]
  · rw [closesOnDigit_append_of_closing hmark.closing, hmark.after, h.digits]
  · exact hhead.append h.trimmed (by decide) h.ne_nil ['o', 't', ' ']

lemma isLead_parenthesized {s : List Char} (h : IsTidy s) : IsLead (Filter.parenthesized s) where
  toIsTidy := h.parenthesized
  passed := isPassed_parenthesized h.closed
  group := by
    intro t
    have heq : Filter.parenthesized s ++ ' ' :: t = '(' :: (s ++ ')' :: ' ' :: t) := by
      simp [Filter.parenthesized]
    simp [heq, Grammar.group?, takeGroup?_of_isClosed h.closed]
  negation := by
    intro t
    rw [Option.eq_none_iff_forall_ne_some]
    intro rest hrest
    cases afterNegation?_eq_some_iff.1 hrest

lemma not_mem_field {field : String} (h : isFieldName field = true) {c : Char}
    (hc : isWordChar c = false) : c ∉ field.toList := by
  intro hmem
  rw [(isFieldName_iff.1 h).2.1 c hmem] at hc
  cases hc

lemma isBare_field {field : String} (h : isFieldName field = true) : IsBare field.toList := by
  have hjoint : ∀ c ∈ jointChars, isWordChar c = false := by decide
  exact isBare_of_not_mem fun c hc => not_mem_field h (hjoint c hc)

lemma isLead_field {field : String} (h : isFieldName field = true) : IsLead field.toList := by
  obtain ⟨hne, hword, hkeyword⟩ := isFieldName_iff.1 h
  have hmem : ∀ c, isWordChar c = false → c ∉ field.toList := fun _ hc => not_mem_field h hc
  have hbare := isBare_field h
  have hblank : ∀ c ∈ field.toList, isBlank c = false := by
    intro c hc
    rw [Bool.eq_false_iff]
    intro hblank
    have hc' := hword c hc
    rw [isWordChar_of_isBlank hblank] at hc'
    cases hc'
  refine ⟨⟨hbare.isClosed, hbare.mark, hbare.digits, hne, ⟨?_, ?_⟩⟩, ?_, ?_, ?_⟩
  · exact fun c hc => hblank c (List.mem_of_head? hc)
  · exact fun c hc => hblank c (List.mem_of_getLast? hc)
  · exact isPassed_of_not_mem (hmem _ (by decide)) (hmem _ (by decide)) (hmem _ (by decide))
  · intro t
    rw [Option.eq_none_iff_forall_ne_some]
    intro group hgroup
    obtain ⟨c, cs, hcs⟩ := List.exists_cons_of_ne_nil hne
    have hs := (group?_eq_some_iff.1 hgroup).1
    rw [hcs, List.cons_append] at hs
    exact hmem '(' (by decide) (by rw [hcs, (List.cons_eq_cons.1 hs).1]; exact List.mem_cons_self)
  · -- A text that begins with the mark has the keyword for its first word.
    intro t
    rw [Option.eq_none_iff_forall_ne_some]
    intro rest hrest
    have hs : field.toList ++ ' ' :: t = "not".toList ++ ' ' :: rest :=
      afterNegation?_eq_some_iff.1 hrest
    have hfield := takeWhile_append_cons hword (by decide : isWordChar ' ' = false) t
    rw [hs, takeWhile_append_cons (by decide) (by decide)] at hfield
    rw [← String.toList_injective hfield] at hkeyword
    exact absurd hkeyword (by decide)

lemma isBare_comparator (comparator : Comparator) :
    IsBare (' ' :: (comparator.word.toList ++ [' '])) :=
  isBare_of_not_mem (by cases comparator <;> decide)

lemma IsLead.spaced {subject value : List Char} (hsubject : IsLead subject)
    (comparator : Comparator) (hvalue : IsValueText value) :
    IsLead (Filter.spaced subject comparator.word.toList value) := by
  have hword : IsPassed comparator.word.toList := by
    refine isPassed_of_not_mem ?_ ?_ ?_ <;> cases comparator <;> decide
  have hblank : ∀ t, Grammar.connectiveAt? .outside
      (' ' :: (comparator.word.toList ++ ' ' :: value ++ t)) = none := by
    intro t
    cases comparator <;> simp [Grammar.connectiveAt?, separators, Comparator.word]
  have heq : ∀ t, Filter.spaced subject comparator.word.toList value ++ ' ' :: t =
      subject ++ ' ' :: (comparator.word.toList ++ ' ' :: value ++ ' ' :: t) := by
    intro t
    simp [Filter.spaced]
  refine ⟨?_, ?_, ?_, ?_⟩
  · rw [spaced_eq]
    exact hsubject.toIsTidy.append hvalue.isTidy (isBare_comparator comparator)
  · have hrest := (hword.append hvalue.blank_cons).blank_cons hblank
    have happend := hsubject.passed.append hrest
    rwa [← List.cons_append, ← List.append_assoc] at happend
  · intro t
    rw [heq, hsubject.group]
  · intro t
    rw [heq, hsubject.negation]

end RecordFilter.Proofs
