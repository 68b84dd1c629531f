import RecordFilter.Predicate.Basic

/-!
# What canonical text keeps

Printing loses two things. A date is written as the literal of an instant, so it is read back as a
string; and a single value of a comparator that takes a list is read back as a list of one. The
filter that is left when both are done is `Filter.asPrinted`. Nothing else is lost, but a filter
that compares a predicate in place of a field has no text that reads back at all.
-/

namespace RecordFilter

/-- The scalar that the text of a scalar denotes, as far as its kind goes. -/
def Scalar.asPrinted : Scalar → Scalar
  | .date d => .string (String.ofList d.instant)
  | value => value

namespace Filter

/-- The operand as a comparator reads it back. -/
def operandAsPrinted (comparator : Comparator) : Operand Scalar → Operand Scalar
  | .single value =>
    if comparator.takesList then .list [value.asPrinted] else .single value.asPrinted
  | .list values => .list (values.map Scalar.asPrinted)

/-- The filter that canonical text stands for. -/
def asPrinted : Filter → Filter
  | .comparison field comparator operand =>
    .comparison field comparator (operandAsPrinted comparator operand)
  | .nested subject comparator operand =>
    .nested (asPrinted subject) comparator (operandAsPrinted comparator operand)
  | .joined connective left right => .joined connective (asPrinted left) (asPrinted right)
  | .negation inner => .negation (asPrinted inner)

/-- Some comparison compares a predicate in place of a field. -/
def hasNested : Filter → Bool
  | .comparison .. => false
  | .nested .. => true
  | .joined _ left right => hasNested left || hasNested right
  | .negation inner => hasNested inner

end Filter

@[simp] theorem Scalar.asPrinted_asPrinted (value : Scalar) :
    value.asPrinted.asPrinted = value.asPrinted := by
  cases value <;> rfl

@[simp] theorem Scalar.text_asPrinted (value : Scalar) : value.asPrinted.text = value.text := by
  cases value <;> simp [asPrinted, text]

theorem Filter.operandAsPrinted_operandAsPrinted (comparator : Comparator)
    (operand : Operand Scalar) :
    operandAsPrinted comparator (operandAsPrinted comparator operand) =
      operandAsPrinted comparator operand := by
  cases operand with
  | single value => by_cases h : comparator.takesList <;> simp [operandAsPrinted, h]
  | list values => simp [operandAsPrinted]

/-- Printing twice loses no more than printing once. -/
theorem Filter.asPrinted_asPrinted (p : Filter) : asPrinted (asPrinted p) = asPrinted p := by
  induction p with
  | comparison field comparator operand =>
    simp [asPrinted, operandAsPrinted_operandAsPrinted]
  | nested subject comparator operand ih =>
    simp [asPrinted, operandAsPrinted_operandAsPrinted, ih]
  | joined connective left right ihl ihr => simp [asPrinted, ihl, ihr]
  | negation inner ih => simp [asPrinted, ih]

end RecordFilter
