import RecordFilter.Predicate.Basic

/-!
# Truth of predicates

A valuation says which comparisons hold. Conjunction, disjunction and negation extend it to all
predicates except those with a node that joins by `not`, which have no truth value
(`isSome_truth?`).
-/

namespace RecordFilter.Predicate

variable {α : Type}

/-- The truth value of a predicate when `holds` says which comparisons hold. -/
def truth? (holds : Predicate α → Bool) : Predicate α → Option Bool
  | .comparison field comparator operand => some (holds (.comparison field comparator operand))
  | .nested subject comparator operand => some (holds (.nested subject comparator operand))
  | .joined .and left right =>
    (left.truth? holds).bind fun a => (right.truth? holds).map fun b => a && b
  | .joined .or left right =>
    (left.truth? holds).bind fun a => (right.truth? holds).map fun b => a || b
  | .joined .not _ _ => none
  | .negation inner => (inner.truth? holds).map (!·)

/-- No node joins by `not`. -/
def isMeaningful : Predicate α → Bool
  | .comparison .. => true
  | .nested .. => true
  | .joined connective left right =>
    connective != .not && left.isMeaningful && right.isMeaningful
  | .negation inner => inner.isMeaningful

/-- Exactly the predicates without a binary `not` have a truth value. -/
theorem isSome_truth? (holds : Predicate α → Bool) (p : Predicate α) :
    (p.truth? holds).isSome = p.isMeaningful := by
  induction p with
  | comparison => rfl
  | nested => rfl
  | joined connective left right ihl ihr =>
    cases connective <;>
      simp only [truth?, isMeaningful, ← ihl, ← ihr] <;>
      cases left.truth? holds <;> cases right.truth? holds <;> rfl
  | negation inner ih => simp [truth?, isMeaningful, ← ih]

end RecordFilter.Predicate
