import RecordFilter.Predicate.Chain
import RecordFilter.Predicate.Placeholder
import RecordFilter.Predicate.Printer
import RecordFilter.Scalar.Token

/-!
# Reading filter text

A fragment is read in two steps. First its groups, the parts in parentheses outside literals, are
read from left to right and replaced by placeholders (`resolveFrom`). What is left has no
parentheses outside literals and is read by its words (`readFlat`): a lone placeholder is its
group; `not` negates all that follows; otherwise the first `and` or `or` outside literals
splits the text, so the two bind equally and lean to the right; and what none of these rules
splits is a comparison. All groups of a fragment are read before its comparisons, which decides
what is reported of a text with several faults.
-/

namespace RecordFilter.Parser

open RecordFilter.Text

/-- Splits off the group that a text starts with, after the opening parenthesis: what stands
before its closing parenthesis, and what comes after that. Reads from state `q`, `depth`
parentheses further in; `none` if the group is never closed. -/
def takeGroup? (q : QuoteState) (depth : Nat) : List Char → Option (List Char × List Char)
  | [] => none
  | c :: s =>
    if q.isStructural c ∧ c = ')' ∧ depth = 0 then some ([], s)
    else
      let depth :=
        if q.isStructural c ∧ c = '(' then depth + 1
        else if q.isStructural c ∧ c = ')' then depth - 1
        else depth
      (takeGroup? (q.next c) depth s).map fun (group, rest) => (c :: group, rest)

theorem length_lt_of_takeGroup? {q : QuoteState} {depth : Nat} {s group rest : List Char}
    (h : takeGroup? q depth s = some (group, rest)) : group.length + rest.length < s.length := by
  induction s generalizing q depth group rest with
  | nil => simp [takeGroup?] at h
  | cons c s ih =>
    rw [takeGroup?] at h
    split at h
    · cases h
      simp
    · obtain ⟨⟨group', rest'⟩, hrec, heq⟩ := Option.map_eq_some_iff.1 h
      have := ih hrec
      cases heq
      simp only [List.length_cons]
      omega

/-- A comparison as it is written: a word, a comparator and the token of its operand. -/
structure WrittenComparison where
  field : List Char
  comparator : Comparator
  token : List Char

/-- Reads a run of word characters, a comparator and a token, with blanks between them. -/
def WrittenComparison.ofText? (s : List Char) : Option WrittenComparison :=
  let field := s.takeWhile isWordChar
  let afterField := s.dropWhile isWordChar
  let afterGap := trimStart afterField
  let word := afterGap.takeWhile (!isBlank ·)
  let afterWord := afterGap.dropWhile (!isBlank ·)
  let token := trimStart afterWord
  if field.isEmpty || afterField.length == afterGap.length || token.isEmpty then none
  else (Comparator.ofWord? (String.ofList word)).map fun comparator => ⟨field, comparator, token⟩

/-- Reads the elements of a list. -/
def readElements (policy : Policy) (whole : List Char) :
    List (List Char) → Except Failure (List Scalar)
  | [] => .ok []
  | element :: elements => do
    if trim element = [] then throw (.invalidValue (String.ofList whole))
    let value ← Scalar.ofToken policy element
    let values ← readElements policy whole elements
    return value :: values

/-- The text between brackets, if the token is one pair of them around a text. -/
def withoutBrackets? (token : List Char) : Option (List Char) :=
  match token with
  | '[' :: rest => if rest.getLast? = some ']' then some rest.dropLast else none
  | _ => none

/-- Reads the operand of a comparator. A comparator that takes a list also takes a single value,
as a list of one. -/
def readOperand (policy : Policy) (comparator : Comparator) (token : List Char) :
    Except Failure (Operand Scalar) :=
  if comparator.takesList then
    match withoutBrackets? token with
    | some inner =>
      if trim inner = [] then .ok (.list [])
      else (readElements policy token (split ',' inner)).map .list
    | none => (Scalar.ofToken policy token).map fun value => .list [value]
  else (Scalar.ofToken policy token).map .single

/-- Reads a comparison. A group cannot be an operand. -/
def readComparison (policy : Policy) (slots : Slots) (s : List Char) : Except Failure Filter :=
  let unreadable := Except.error (.unreadable (String.ofList (slots.restore s)))
  match WrittenComparison.ofText? s with
  | none => unreadable
  | some ⟨field, comparator, token⟩ =>
    if isKeyword (String.ofList field) then unreadable
    else if (cut? [placeholderMark] token).isSome then unreadable
    else do
      let operand ← readOperand policy comparator token
      return .comparison (String.ofList field) comparator operand

/-- The connective between two predicates, with the blanks around it. -/
def separators : List (Connective × List Char) :=
  [(.and, " and ".toList), (.or, " or ".toList)]

/-- A text in two pieces at the first connective outside literals. -/
structure Split where
  connective : Connective
  left : List Char
  right : List Char

/-- Splits a text at its first connective outside literals. -/
def splitAtConnective? (s : List Char) : Option Split := do
  let cut ← cut? (separators.map Prod.snd) s
  let (connective, _) ← separators.find? (·.2 == cut.separator)
  return ⟨connective, cut.before, cut.after⟩

theorem length_lt_of_splitAtConnective? {s : List Char} {p : Split}
    (h : splitAtConnective? s = some p) : p.left.length < s.length ∧ p.right.length < s.length := by
  obtain ⟨cut, hcut, h⟩ := Option.bind_eq_some_iff.1 h
  obtain ⟨found, _, h⟩ := Option.bind_eq_some_iff.1 h
  cases h
  exact length_lt_of_cut? (by decide) hcut

/-- The word that negates what follows it, with the blank after it. -/
def negationMark : List Char := "not ".toList

/-- The text after a leading `not `. -/
def afterNegation? (s : List Char) : Option (List Char) :=
  if negationMark.isPrefixOf s then some (s.drop negationMark.length) else none

theorem length_lt_of_afterNegation? {s rest : List Char} (h : afterNegation? s = some rest) :
    rest.length < s.length := by
  rw [afterNegation?] at h
  split at h
  · next hmark =>
    cases h
    obtain ⟨t, rfl⟩ := List.isPrefixOf_iff_prefix.1 hmark
    simp only [List.drop_left, List.length_append, negationMark]
    exact Nat.lt_add_of_pos_left (by decide)
  · cases h

/-- Reads a text without parentheses outside literals; groups are placeholders. -/
def readFlat (policy : Policy) (s : List Char) (slots : Slots) : Except Failure (Filter × Slots) :=
  let s := trim s
  match placeholderNumber? s with
  | some number =>
    match slots.take? number with
    | some taken => .ok taken
    | none => .error (.unknownPlaceholder (String.ofList s))
  | none =>
    match _ : afterNegation? s with
    | some rest => do
      let (inner, slots) ← readFlat policy rest slots
      return (.negation inner, slots)
    | none =>
      match _ : splitAtConnective? s with
      | some ⟨connective, left, right⟩ => do
        let (left, slots) ← readFlat policy left slots
        let (right, slots) ← readFlat policy right slots
        return (.joined connective left right, slots)
      | none => do
        let comparison ← readComparison policy slots s
        return (comparison, slots)
termination_by s.length
decreasing_by
  · have hlt := length_lt_of_afterNegation? ‹afterNegation? _ = some _›
    exact Nat.lt_of_lt_of_le hlt (length_trim_le _)
  · have hlt := length_lt_of_splitAtConnective? ‹splitAtConnective? _ = some _›
    exact Nat.lt_of_lt_of_le hlt.1 (length_trim_le _)
  · have hlt := length_lt_of_splitAtConnective? ‹splitAtConnective? _ = some _›
    exact Nat.lt_of_lt_of_le hlt.2 (length_trim_le _)

mutual

def readFragment (policy : Policy) (fragment : List Char) (slots : Slots) :
    Except Failure (Filter × Slots) := do
  let (flat, slots) ← resolveFrom policy (trim fragment) .outside (trim fragment) slots
  readFlat policy flat slots
termination_by 2 * fragment.length + 1
decreasing_by
  have := length_trim_le fragment
  omega

/-- Reads the groups of a text and puts placeholders in their place. Reads from state `q`; `whole`
is the fragment that is reported if parentheses do not match. -/
def resolveFrom (policy : Policy) (whole : List Char) (q : QuoteState) (s : List Char)
    (slots : Slots) : Except Failure (List Char × Slots) :=
  match s with
  | [] => .ok ([], slots)
  | c :: s =>
    if q.isStructural c ∧ c = '(' then
      match _ : takeGroup? .outside 0 s with
      | none => .error (.unmatchedParentheses (String.ofList whole))
      | some (group, rest) => do
        let (content, slots) ← readFragment policy group slots
        let (flat, slots') ← resolveFrom policy whole .outside rest (slots.bind group content)
        return (placeholder slots.length ++ flat, slots')
    else if q.isStructural c ∧ c = ')' then
      .error (.unmatchedParentheses (String.ofList whole))
    else do
      let (flat, slots) ← resolveFrom policy whole (q.next c) s slots
      return (c :: flat, slots)
termination_by 2 * s.length
decreasing_by
  · have := length_lt_of_takeGroup? ‹takeGroup? _ _ _ = some _›
    rw [List.length_cons]
    omega
  · have := length_lt_of_takeGroup? ‹takeGroup? _ _ _ = some _›
    rw [List.length_cons]
    omega
  · rw [List.length_cons]
    omega

end

/-- Replaces the groups of a fragment by placeholders. -/
def resolve (policy : Policy) (fragment : List Char) (slots : Slots) :
    Except Failure (List Char × Slots) :=
  resolveFrom policy fragment .outside fragment slots

/-- Reads a filter, and returns it with the slots of all groups of the text. -/
def readWithSlots (policy : Policy) (s : List Char) : Except Failure (Filter × Slots) :=
  if trim s = [] then .error .emptyFilter else readFragment policy s []

end RecordFilter.Parser

namespace RecordFilter

def Filter.ofText (policy : Policy) (s : String) : Except Failure Filter :=
  (Parser.readWithSlots policy s.toList).map Prod.fst

end RecordFilter
