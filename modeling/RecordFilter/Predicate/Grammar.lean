import RecordFilter.Predicate.Parser
import RecordFilter.Text.Balance

/-!
# The grammar of filters

Filters read straight from their text, with no placeholders: a group is read where it stands, and a
connective counts only outside literals and outside every group. A comparison is read by its words.
The parser reads the same filters by way of placeholders; this reading says which ones those are.
-/

namespace RecordFilter.Grammar

open RecordFilter.Text RecordFilter.Parser

/-- The text between the parentheses of a fragment that is exactly one group. -/
def group? (s : List Char) : Option (List Char) :=
  match s with
  | '(' :: rest =>
    match takeGroup? .outside 0 rest with
    | some (group, []) => some group
    | _ => none
  | _ => none

/-- The connective whose separator a text starts with, if its first character, read in state `q`,
is outside literals. -/
def connectiveAt? (q : QuoteState) (s : List Char) : Option (Connective × List Char) :=
  match s with
  | [] => none
  | c :: _ =>
    if q.isStructural c then separators.find? fun (_, separator) => separator.isPrefixOf s
    else none

/-- Splits a text at its first connective outside literals and groups, reading from state `q`. -/
def splitFrom? (q : QuoteState) (s : List Char) : Option Split :=
  match s with
  | [] => none
  | c :: rest =>
    match connectiveAt? q (c :: rest) with
    | some (connective, separator) => some ⟨connective, [], (c :: rest).drop separator.length⟩
    | none =>
      if q.isStructural c ∧ c = '(' then
        match _ : takeGroup? .outside 0 rest with
        | none => none
        | some (group, after) =>
          (splitFrom? .outside after).map fun split =>
            { split with left := '(' :: group ++ ')' :: split.left }
      else (splitFrom? (q.next c) rest).map fun split => { split with left := c :: split.left }
termination_by s.length
decreasing_by
  · have := length_lt_of_takeGroup? ‹takeGroup? _ _ _ = some _›
    rw [List.length_cons]
    omega
  · simp

theorem length_lt_of_group? {s group : List Char} (h : group? s = some group) :
    group.length < s.length := by
  unfold group? at h
  split at h
  · next rest =>
    split at h
    · next hgroup =>
      cases h
      have := length_lt_of_takeGroup? hgroup
      rw [List.length_cons]
      omega
    · cases h
  · cases h

theorem length_lt_of_connectiveAt? {q : QuoteState} {s separator : List Char} {c : Connective}
    (h : connectiveAt? q s = some (c, separator)) :
    (s.drop separator.length).length < s.length := by
  unfold connectiveAt? at h
  split at h
  · cases h
  · split at h
    · have hmem := List.mem_of_find?_eq_some h
      have hpre := List.find?_some h
      obtain ⟨rest, hrest⟩ := List.isPrefixOf_iff_prefix.1 hpre
      have hpos : 0 < separator.length := by
        simp only [separators, List.mem_cons, Prod.mk.injEq, List.not_mem_nil, or_false] at hmem
        obtain ⟨_, rfl⟩ | ⟨_, rfl⟩ := hmem <;> decide
      rw [← hrest, List.drop_left, List.length_append]
      omega
    · cases h

theorem length_lt_of_splitFrom? {q : QuoteState} {s : List Char} {p : Split}
    (h : splitFrom? q s = some p) : p.left.length < s.length ∧ p.right.length < s.length := by
  fun_induction splitFrom? q s generalizing p with
  | case1 => cases h
  | case2 q c rest connective separator hsep =>
    cases h
    exact ⟨by simp, length_lt_of_connectiveAt? hsep⟩
  | case3 => cases h
  | case4 q c rest _ _ group after hgroup ih =>
    obtain ⟨split, hsplit, rfl⟩ := Option.map_eq_some_iff.1 h
    have hlt := ih hsplit
    have := length_lt_of_takeGroup? hgroup
    simp only [List.length_cons, List.length_append]
    omega
  | case5 q c rest _ _ ih =>
    obtain ⟨split, hsplit, rfl⟩ := Option.map_eq_some_iff.1 h
    have hlt := ih hsplit
    simp only [List.length_cons]
    omega

/-- No group and no placeholder stands outside the literals of a text. -/
def isPlain (s : List Char) : Bool :=
  countStructural '(' .outside s == 0 && (cut? [placeholderMark] s).isNone

/-- The word that a text starts with, up to its first blank, and what stands after the blanks
behind the word. -/
def word? (s : List Char) : Option (List Char × List Char) :=
  let word := s.takeWhile (!isBlank ·)
  let rest := trimStart (s.dropWhile (!isBlank ·))
  if word = [] ∨ rest = [] then none else some (word, rest)

/-- Reads a single value. -/
def readValue? (policy : Policy) (token : List Char) : Option Scalar :=
  Scalar.ofTrimmed? policy (trim token)

/-- Reads what stands between the brackets of a list: values with commas between them, none of them
blank, or nothing but blanks. A comma in a literal does not count. -/
def readList? (policy : Policy) (inner : List Char) : Option (List Scalar) :=
  if trim inner = [] then some []
  else (split ',' inner).mapM fun element =>
    if trim element = [] then none else readValue? policy element

/-- Reads the operand of a comparator. One that takes a list takes a list in brackets, or a value
without brackets as a list of one. -/
def readOperand? (policy : Policy) (comparator : Comparator) (token : List Char) :
    Option (Operand Scalar) :=
  if !comparator.takesList then (readValue? policy token).map .single
  else if token.head? = some '[' ∧ token.getLast? = some ']' then
    (readList? policy token.tail.dropLast).map .list
  else (readValue? policy token).map fun value => .list [value]

/-- Reads a comparison: the name of a field, the word of a comparator and an operand, with blanks
between them and no group or placeholder among them. -/
def readComparison? (policy : Policy) (s : List Char) : Option Filter := do
  let (field, rest) ← word? s
  let (word, token) ← word? rest
  let comparator ← Comparator.ofWord? (String.ofList word)
  let operand ← readOperand? policy comparator token
  if isPlain s && isFieldName (String.ofList field) then
    return .comparison (String.ofList field) comparator operand
  else none

/-- Reads a fragment. -/
def read? (policy : Policy) (fragment : List Char) : Option Filter :=
  let s := trim fragment
  if !isBalanced s then none
  else
    match _ : group? s with
    | some group => read? policy group
    | none =>
      match _ : afterNegation? s with
      | some rest => (read? policy rest).map .negation
      | none =>
        match _ : splitFrom? .outside s with
        | some ⟨connective, left, right⟩ => do
          let left ← read? policy left
          let right ← read? policy right
          return .joined connective left right
        | none => readComparison? policy s
termination_by fragment.length
decreasing_by
  · have hlt := length_lt_of_group? ‹group? _ = some _›
    exact Nat.lt_of_lt_of_le hlt (length_trim_le _)
  · have hlt := length_lt_of_afterNegation? ‹afterNegation? _ = some _›
    exact Nat.lt_of_lt_of_le hlt (length_trim_le _)
  · have hlt := length_lt_of_splitFrom? ‹splitFrom? _ _ = some _›
    exact Nat.lt_of_lt_of_le hlt.1 (length_trim_le _)
  · have hlt := length_lt_of_splitFrom? ‹splitFrom? _ _ = some _›
    exact Nat.lt_of_lt_of_le hlt.2 (length_trim_le _)

end RecordFilter.Grammar
