import RecordFilter.Scalar.Basic
import RecordFilter.Vocabulary

/-!
# Groups

All values that one field is compared with by one comparator. The values of a group are kept in
the order in which they came, and of several alike scalars only the first (`ValueSet.insert`).
-/

namespace RecordFilter

/-- Scalars of which no two are alike, in order of insertion. -/
structure ValueSet where
  toList : List Scalar
  distinct : toList.Pairwise fun a b => a.worth ≠ b.worth
  deriving DecidableEq

namespace ValueSet

def empty : ValueSet :=
  ⟨[], .nil⟩

/-- An alike scalar is in the set. -/
def contains (s : ValueSet) (value : Scalar) : Bool :=
  s.toList.any value.isAlike

theorem contains_iff {s : ValueSet} {value : Scalar} :
    s.contains value = true ↔ ∃ a ∈ s.toList, value.worth = a.worth := by
  simp [contains]

/-- Adds a scalar at the end unless an alike one is there. -/
def insert (s : ValueSet) (value : Scalar) : ValueSet :=
  if h : s.contains value then s
  else
    { toList := s.toList ++ [value]
      distinct := by
        refine List.pairwise_append.2 ⟨s.distinct, List.pairwise_singleton _ _, ?_⟩
        intro a ha b hb heq
        rw [List.mem_singleton] at hb
        exact h (contains_iff.2 ⟨a, ha, hb ▸ heq.symm⟩) }

def insertAll (s : ValueSet) (values : List Scalar) : ValueSet :=
  values.foldl insert s

def ofList (values : List Scalar) : ValueSet :=
  empty.insertAll values

/-- The sets have alike members, in any order. -/
def sameMembers (s t : ValueSet) : Bool :=
  s.toList.length == t.toList.length && s.toList.all t.contains

end ValueSet

/-- The values that a field is compared with by a comparator. -/
structure Group where
  field : String
  comparator : Comparator
  values : ValueSet
  deriving DecidableEq

namespace Group

def empty (field : String) (comparator : Comparator) : Group :=
  ⟨field, comparator, .empty⟩

def addAll (g : Group) (values : List Scalar) : Group :=
  { g with values := g.values.insertAll values }

/-- The groups are for the same field and comparator and have alike values, in any order. -/
def isAlike (g h : Group) : Bool :=
  g.field == h.field && g.comparator == h.comparator && g.values.sameMembers h.values

end Group

end RecordFilter
