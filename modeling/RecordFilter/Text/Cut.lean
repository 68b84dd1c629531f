import RecordFilter.Text.QuoteState

/-!
# Cutting a text outside its literals

A text is cut at the first of several separators, or at every occurrence of a delimiter, where
only characters outside literals count. The pieces of a cut and the separator between them give
back the text (`Cut.eq_append`), and both pieces are shorter than it.
-/

namespace RecordFilter.Text

/-- A text in two pieces with the separator that stood between them. -/
structure Cut where
  before : List Char
  separator : List Char
  after : List Char
  deriving DecidableEq, Repr

def Cut.whole (cut : Cut) : List Char :=
  cut.before ++ cut.separator ++ cut.after

/-- The separator that a text starts with, if its first character, read in state `q`, is outside
literals. Of several separators the first in the list is taken. -/
def separatorAt? (separators : List (List Char)) (q : QuoteState) (s : List Char) :
    Option (List Char) :=
  match s with
  | [] => none
  | c :: _ => if q.isStructural c then separators.find? (·.isPrefixOf s) else none

/-- Cuts at the leftmost character outside literals that starts a separator, reading from
state `q`. -/
def cutFrom? (separators : List (List Char)) (q : QuoteState) : List Char → Option Cut
  | [] => none
  | c :: s =>
    match separatorAt? separators q (c :: s) with
    | some separator => some ⟨[], separator, (c :: s).drop separator.length⟩
    | none => (cutFrom? separators (q.next c) s).map fun cut => { cut with before := c :: cut.before }

/-- Cuts a text at its first separator outside literals. -/
def cut? (separators : List (List Char)) (s : List Char) : Option Cut :=
  cutFrom? separators .outside s

/-- The byte offset of the first separator outside literals, and that separator. -/
def findSeparator? (separators : List String) (s : String) : Option (Nat × String) :=
  (cut? (separators.map String.toList) s.toList).map fun cut =>
    (byteLength cut.before, String.ofList cut.separator)

/-- Splits at every `delimiter` outside literals, reading from state `q`. -/
def splitFrom (delimiter : Char) (q : QuoteState) : List Char → List (List Char)
  | [] => [[]]
  | c :: s =>
    if q.isStructural c && c == delimiter then [] :: splitFrom delimiter (q.next c) s
    else (splitFrom delimiter (q.next c) s).modifyHead (c :: ·)

/-- Splits a text at every `delimiter` outside literals. -/
def split (delimiter : Char) (s : List Char) : List (List Char) :=
  splitFrom delimiter .outside s

theorem separatorAt?_eq_some {separators : List (List Char)} {q : QuoteState} {s separator : List Char}
    (h : separatorAt? separators q s = some separator) :
    separator ∈ separators ∧ separator <+: s := by
  unfold separatorAt? at h
  split at h
  · cases h
  · split at h
    · have hpre := List.find?_some h
      exact ⟨List.mem_of_find?_eq_some h, List.isPrefixOf_iff_prefix.1 hpre⟩
    · cases h

theorem whole_of_cutFrom? {separators : List (List Char)} {q : QuoteState} {s : List Char}
    {cut : Cut} (h : cutFrom? separators q s = some cut) : cut.whole = s := by
  induction s generalizing q cut with
  | nil => simp [cutFrom?] at h
  | cons c s ih =>
    rw [cutFrom?] at h
    split at h
    · next separator hsep =>
      cases h
      obtain ⟨t, ht⟩ := (separatorAt?_eq_some hsep).2
      simp [Cut.whole, ← ht]
    · obtain ⟨cut', hcut', rfl⟩ := Option.map_eq_some_iff.1 h
      have := ih hcut'
      simp_all [Cut.whole]

theorem mem_separators_of_cutFrom? {separators : List (List Char)} {q : QuoteState}
    {s : List Char} {cut : Cut} (h : cutFrom? separators q s = some cut) :
    cut.separator ∈ separators := by
  induction s generalizing q cut with
  | nil => simp [cutFrom?] at h
  | cons c s ih =>
    rw [cutFrom?] at h
    split at h
    · next separator hsep =>
      cases h
      exact (separatorAt?_eq_some hsep).1
    · obtain ⟨cut', hcut', rfl⟩ := Option.map_eq_some_iff.1 h
      have hmem : cut'.separator ∈ separators := ih hcut'
      exact hmem

/-- Both pieces are shorter than the text if no separator is empty. -/
theorem length_lt_of_cut? {separators : List (List Char)} {s : List Char} {cut : Cut}
    (hne : ∀ separator ∈ separators, separator ≠ []) (h : cut? separators s = some cut) :
    cut.before.length < s.length ∧ cut.after.length < s.length := by
  have hwhole := congrArg List.length (whole_of_cutFrom? h)
  have hpos := List.length_pos_iff.2 (hne _ (mem_separators_of_cutFrom? h))
  simp only [Cut.whole, List.length_append] at hwhole
  omega

end RecordFilter.Text
