import RecordFilter.Predicate.Parser

/-!
# Reading as a recursion on fragments

What is left of a fragment once its groups are replaced can be read by its words, or its parts can be
read as fragments of their own, in which groups are looked for again. This file holds one step of
the second way: how a fragment is read if a reader for other fragments is at hand (`readStep`). The
reader is asked for the groups, for what a negation negates and for both sides of a connective.
-/

namespace RecordFilter.Parser

open RecordFilter.Text

/-- Reads a fragment next to the slots that are bound already. -/
abbrev Reader := List Char → Slots → Except Failure (Filter × Slots)

/-- Replaces the groups of a text, which `read` reads, by placeholders. Reads from state `q`; `whole`
is the fragment that is reported if parentheses do not match. -/
def resolveWith (read : Reader) (whole : List Char) (q : QuoteState) (s : List Char)
    (slots : Slots) : Except Failure (List Char × Slots) :=
  match s with
  | [] => .ok ([], slots)
  | c :: s =>
    if q.isStructural c ∧ c = '(' then
      match _ : takeGroup? .outside 0 s with
      | none => .error (.unmatchedParentheses (String.ofList whole))
      | some (group, rest) => do
        let (content, slots) ← read group slots
        let (flat, slots') ← resolveWith read whole .outside rest (slots.bind group content)
        return (placeholder slots.length ++ flat, slots')
    else if q.isStructural c ∧ c = ')' then
      .error (.unmatchedParentheses (String.ofList whole))
    else do
      let (flat, slots) ← resolveWith read whole (q.next c) s slots
      return (c :: flat, slots)
termination_by s.length
decreasing_by
  · have := length_lt_of_takeGroup? ‹takeGroup? _ _ _ = some _›
    rw [List.length_cons]
    omega
  · rw [List.length_cons]
    omega

/-- Replaces the groups of a fragment. A fragment without any parenthesis, in literals or outside,
is not even scanned. -/
def resolveGroups (read : Reader) (fragment : List Char) (slots : Slots) :
    Except Failure (List Char × Slots) :=
  if '(' ∈ fragment ∨ ')' ∈ fragment then resolveWith read fragment .outside fragment slots
  else .ok (fragment, slots)

/-- Reads a fragment whose groups and parts are read by `read`. -/
def readStep (policy : Policy) (read : Reader) : Reader := fun fragment slots => do
  let (flat, slots) ← resolveGroups read (trim fragment) slots
  let flat := trim flat
  match placeholderNumber? flat with
  | some number =>
    match slots.take? number with
    | some taken => .ok taken
    | none => .error (.unknownPlaceholder (String.ofList flat))
  | none =>
    match afterNegation? flat with
    | some rest => do
      let (inner, slots) ← read rest slots
      return (.negation inner, slots)
    | none =>
      match splitAtConnective? flat with
      | some ⟨connective, left, right⟩ => do
        let (left, slots) ← read left slots
        let (right, slots) ← read right slots
        return (.joined connective left right, slots)
      | none => do
        let comparison ← readComparison policy slots flat
        return (comparison, slots)

end RecordFilter.Parser
