import RecordFilter.Group.Basic
import RecordFilter.OrderedMap
import RecordFilter.Predicate.Chain
import RecordFilter.Predicate.Skeleton

/-!
# Tables of groups

A table holds groups by field and comparator, both in order of insertion. Filters are collected
into a table one by one; each has to be a comparison of a field, or a cluster: a chain of
comparisons that all compare one field by one comparator. The first filter that is neither, or
that compares a field outside the given ones, is the failure of the whole collection.
-/

namespace RecordFilter

/-- Groups by field and comparator. -/
abbrev Table := OrderedMap String (OrderedMap Comparator Group)

/-- What one filter adds to a table. -/
structure Contribution where
  field : String
  comparator : Comparator
  values : List Scalar
  deriving DecidableEq

namespace Filter

/-- What a comparison of a field contributes. -/
def comparison? : Filter → Option Contribution
  | .comparison field comparator operand => some ⟨field, comparator, operand.values⟩
  | _ => none

/-- What the leaves of a cluster contribute together. -/
def cluster? (leaves : List Filter) : Option Contribution := do
  match ← leaves.mapM comparison? with
  | [] => none
  | first :: rest =>
    if rest.all fun c => c.field == first.field && c.comparator == first.comparator then
      some { first with values := first.values ++ rest.flatMap Contribution.values }
    else none

/-- What a filter contributes to a table. -/
def contribution (p : Filter) : Except Failure Contribution :=
  match p with
  | .comparison field comparator operand => .ok ⟨field, comparator, operand.values⟩
  | .joined connective _ _ =>
    if connective = .not then .error (.ungroupable (description p))
    else
      match cluster? (p.leaves connective) with
      | some c => .ok c
      | none => .error (.mixedCluster (description p))
  | .nested .. | .negation _ => .error (.ungroupable (description p))

end Filter

namespace Table

def add (t : Table) (c : Contribution) : Table :=
  t.update c.field fun byComparator =>
    (byComparator.getD .empty).update c.comparator fun group =>
      (group.getD (.empty c.field c.comparator)).addAll c.values

/-- Fails for a field outside the allowed ones. -/
def checkAllowed (allowed : Option (List String)) (field : String) : Except Failure Unit :=
  match allowed with
  | none => .ok ()
  | some fields => if field ∈ fields then .ok () else .error (.unknownField field fields)

def collectOne (allowed : Option (List String)) (t : Table) (p : Filter) :
    Except Failure Table := do
  let c ← p.contribution
  checkAllowed allowed c.field
  return t.add c

def collect (allowed : Option (List String)) (filters : List Filter) : Except Failure Table :=
  filters.foldlM (collectOne allowed) .empty

/-- The groups of a table, field by field. -/
def groups (t : Table) : List Group :=
  t.values.flatMap OrderedMap.values

/-- The tables have alike groups for the same fields and comparators, in any order. -/
def isAlike (t t' : Table) : Bool :=
  t.sameEntries t' fun row row' => row.sameEntries row' Group.isAlike

end Table

end RecordFilter
