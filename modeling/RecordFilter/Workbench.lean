import RecordFilter.Request

/-!
# Workbench

Filters, a table and groups can be worked on step by step. The bench holds a stack of filters, the
current table and the groups collected so far; a step that fails leaves the bench as it was.
-/

namespace RecordFilter

/-- Everything that lies on the bench; the top of the stack is its last filter. -/
structure Workbench where
  stack : List Filter
  table : Table
  groups : List Group

namespace Workbench

def empty : Workbench :=
  ⟨[], .empty, []⟩

inductive Step where
  | parse (policy : Policy) (text : String)
  | push (p : Filter)
  | pop
  | duplicate
  | swap
  | negate
  | join (connective : Connective)
  | split (connective : Connective)
  | chain (connective : Connective) (count : Option Nat)
  | reparse
  | print
  | collect (allowed : Option (List String))
  | flatten
  | tableText
  | loadGroups (json : String)
  | ungroup (connective : Connective)
  | groupsText (outer inner : Connective)

/-- Why a step fails. -/
inductive StepFailure where
  /-- The stack has too few filters. -/
  | emptyStack
  /-- More filters are asked for than the stack has. -/
  | countTooLarge
  | filter (failure : Failure)
  | request (failure : RequestFailure)

/-- The bench after a step, and what the step printed. -/
abbrev StepResult := Except StepFailure (Workbench × Option String)

/-- The top of the stack and the filters below it. -/
def top (b : Workbench) : Except StepFailure (Filter × List Filter) :=
  match b.stack.reverse with
  | [] => .error .emptyStack
  | p :: rest => .ok (p, rest.reverse)

/-- The two filters on top of the stack, the upper one last, and the filters below them. -/
def topTwo (b : Workbench) : Except StepFailure (Filter × Filter × List Filter) :=
  match b.stack.reverse with
  | q :: p :: rest => .ok (p, q, rest.reverse)
  | _ => .error .emptyStack

/-- A failure of the filter language as the failure of a step. -/
def ofFilter {α : Type} (result : Except Failure α) : Except StepFailure α :=
  result.mapError .filter

/-- A failure of a request as the failure of a step. -/
def ofRequest {α : Type} (result : Except RequestFailure α) : Except StepFailure α :=
  result.mapError .request

def step (b : Workbench) : Step → StepResult
  | .parse policy text => do
    let p ← ofFilter (Filter.ofText policy text)
    return ({ b with stack := b.stack ++ [p] }, none)
  | .push p => return ({ b with stack := b.stack ++ [p] }, none)
  | .pop => do
    let (_, rest) ← b.top
    return ({ b with stack := rest }, none)
  | .duplicate => do
    let (p, rest) ← b.top
    return ({ b with stack := rest ++ [p, p] }, none)
  | .swap => do
    let (p, q, rest) ← b.topTwo
    return ({ b with stack := rest ++ [q, p] }, none)
  | .negate => do
    let (p, rest) ← b.top
    return ({ b with stack := rest ++ [.negation p] }, none)
  | .join connective => do
    let (p, q, rest) ← b.topTwo
    return ({ b with stack := rest ++ [.joined connective p q] }, none)
  | .split connective => do
    let (p, rest) ← b.top
    return ({ b with stack := rest ++ p.leaves connective }, none)
  | .chain connective count => do
    let count := count.getD b.stack.length
    if b.stack.length < count then throw .countTooLarge
    let kept := b.stack.length - count
    let p ← ofFilter (Predicate.chain connective (b.stack.drop kept))
    return ({ b with stack := b.stack.take kept ++ [p] }, none)
  | .reparse => do
    let (p, rest) ← b.top
    let text ← ofFilter (Filter.text p)
    let q ← ofFilter (Filter.ofText .strict text)
    return ({ b with stack := rest ++ [q] }, none)
  | .print => do
    let (p, _) ← b.top
    let text ← ofFilter (Filter.text p)
    return (b, some text)
  | .collect allowed => do
    let t ← ofFilter (Table.collect allowed b.stack)
    return ({ b with stack := [], table := t }, none)
  | .flatten =>
    return ({ b with table := .empty, groups := b.groups ++ b.table.groups }, none)
  | .tableText => return (b, some b.table.toJson.text)
  | .loadGroups json => do
    let value ← ofRequest (readJson json)
    let groups ← ofRequest (groupsOfJson value)
    return ({ b with groups := groups }, none)
  | .ungroup connective => do
    let filters ← ofFilter (filtersOfGroups connective b.groups)
    return ({ b with stack := b.stack ++ filters, groups := [] }, none)
  | .groupsText outer inner => do
    let text ← ofFilter (textOfGroups outer inner b.groups)
    return (b, some text)

end Workbench

end RecordFilter
