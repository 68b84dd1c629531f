import RecordFilter.Scalar.Basic
import RecordFilter.Vocabulary

/-!
# Predicates

The tree that a filter denotes: comparisons of a field with one value or with a list of values,
predicates joined by a connective, and negations. The type is generic in the values that fields
are compared with, so a change of all values is `Predicate.map`, and two filters are alike when
they become equal once each scalar is replaced by its worth.
-/

namespace RecordFilter

/-- The right-hand side of a comparison. -/
inductive Operand (α : Type) where
  | single (value : α)
  | list (values : List α)
  deriving DecidableEq

/-- A predicate on records. Built by hand, it may compare a predicate in place of a field,
pair any comparator with either kind of operand, and join by `not`; none of these can be read
from text. -/
inductive Predicate (α : Type) where
  | comparison (field : String) (comparator : Comparator) (operand : Operand α)
  | nested (subject : Predicate α) (comparator : Comparator) (operand : Operand α)
  | joined (connective : Connective) (left right : Predicate α)
  | negation (inner : Predicate α)
  deriving DecidableEq

/-- A predicate over scalars. -/
abbrev Filter := Predicate Scalar

namespace Operand

variable {α β γ : Type}

/-- The values compared with, in order. -/
def values : Operand α → List α
  | .single value => [value]
  | .list values => values

/-- Replaces every value. -/
def map (f : α → β) : Operand α → Operand β
  | .single value => .single (f value)
  | .list values => .list (values.map f)

@[simp] theorem values_map (f : α → β) (o : Operand α) : (o.map f).values = o.values.map f := by
  cases o <;> rfl

@[simp] theorem map_id (o : Operand α) : o.map id = o := by
  cases o <;> simp [map]

@[simp] theorem map_map (f : α → β) (g : β → γ) (o : Operand α) :
    (o.map f).map g = o.map (g ∘ f) := by
  cases o <;> simp [map]

end Operand

namespace Predicate

variable {α β γ : Type}

/-- Replaces every value. -/
def map (f : α → β) : Predicate α → Predicate β
  | .comparison field comparator operand => .comparison field comparator (operand.map f)
  | .nested subject comparator operand => .nested (subject.map f) comparator (operand.map f)
  | .joined connective left right => .joined connective (left.map f) (right.map f)
  | .negation inner => .negation (inner.map f)

/-- The operation at the root. -/
def operation : Predicate α → Operation
  | .comparison _ comparator _ => .comparator comparator
  | .nested _ comparator _ => .comparator comparator
  | .joined connective _ _ => .connective connective
  | .negation _ => .connective .not

/-- The predicate is joined from others or a negation. -/
def isCompound (p : Predicate α) : Bool :=
  p.operation.isConnective

/-- The field that is compared, if the predicate is a comparison of a field. -/
def field? : Predicate α → Option String
  | .comparison field _ _ => some field
  | _ => none

/-- The operand, if the predicate is a comparison. -/
def operand? : Predicate α → Option (Operand α)
  | .comparison _ _ operand => some operand
  | .nested _ _ operand => some operand
  | _ => none

@[simp] theorem map_id (p : Predicate α) : p.map id = p := by
  induction p <;> simp_all [map]

@[simp] theorem map_map (f : α → β) (g : β → γ) (p : Predicate α) :
    (p.map f).map g = p.map (g ∘ f) := by
  induction p <;> simp_all [map]

@[simp] theorem operation_map (f : α → β) (p : Predicate α) :
    (p.map f).operation = p.operation := by
  cases p <;> rfl

end Predicate

namespace Filter

/-- The filters differ at most in how equal numbers are written. -/
def isAlike (p q : Filter) : Bool :=
  p.map Scalar.worth = q.map Scalar.worth

@[simp] theorem isAlike_iff {p q : Filter} :
    isAlike p q = true ↔ p.map Scalar.worth = q.map Scalar.worth := by
  simp [isAlike]

end Filter

end RecordFilter
