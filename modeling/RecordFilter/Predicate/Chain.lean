import RecordFilter.Failure
import RecordFilter.Predicate.Basic

/-!
# Chains

Predicates joined by one connective form a chain. `leaves` flattens a chain from left to right,
whichever way it leans, and `chain` builds the chain that leans to the right. A negation, and a
node with another connective, is a leaf.
-/

namespace RecordFilter.Predicate

variable {α : Type}

/-- The leaves of the chain of `connective` nodes at the root. -/
def leaves (connective : Connective) : Predicate α → List (Predicate α)
  | .joined c left right =>
    if c = connective then left.leaves connective ++ right.leaves connective
    else [.joined c left right]
  | p => [p]

/-- Joins `first` and the predicates after it, leaning to the right. -/
def chainFrom (connective : Connective) (first : Predicate α) : List (Predicate α) → Predicate α
  | [] => first
  | second :: rest => .joined connective first (chainFrom connective second rest)

/-- Joins predicates into one. A lone predicate stays as it is; several cannot be joined
by `not`. -/
def chain (connective : Connective) : List (Predicate α) → Except Failure (Predicate α)
  | [] => .error .emptyJoin
  | [p] => .ok p
  | p :: q :: rest =>
    if connective = .not then .error .joinedByNot else .ok (chainFrom connective p (q :: rest))

theorem leaves_ne_nil (connective : Connective) (p : Predicate α) : p.leaves connective ≠ [] := by
  induction p with
  | joined c left right ihl _ => by_cases h : c = connective <;> simp [leaves, h, ihl]
  | _ => simp [leaves]

end RecordFilter.Predicate
