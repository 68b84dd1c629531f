import RecordFilter.Failure
import RecordFilter.Predicate.Basic
import RecordFilter.Text.Word

/-!
# Printing

The canonical text of a filter. Single spaces stand between the words, and an operand of a
connective or a negation is put in parentheses exactly if it is compound itself. What could
not be read back is refused: a node that joins by `not`, a field whose name is no word or a
keyword, and a list for a comparator that takes a single value.
-/

namespace RecordFilter

open RecordFilter.Text

/-- The name can stand for a field in filter text. -/
def isFieldName (name : String) : Bool :=
  isWord name.toList && !isKeyword name

namespace Filter

def parenthesized (s : List Char) : List Char :=
  '(' :: s ++ [')']

/-- Three words with single spaces between them. -/
def spaced (first second third : List Char) : List Char :=
  first ++ ' ' :: second ++ ' ' :: third

def operandText (comparator : Comparator) : Operand Scalar → Except Failure (List Char)
  | .single value => .ok value.text
  | .list values =>
    if comparator.takesList then
      .ok ('[' :: List.intercalate [',', ' '] (values.map Scalar.text) ++ [']'])
    else .error (.listNotTaken comparator.word)

def fieldText (field : String) : Except Failure (List Char) :=
  if isFieldName field then .ok field.toList else .error (.invalidField field)

def render : Filter → Except Failure (List Char)
  | .comparison field comparator operand => do
    let subject ← fieldText field
    let value ← operandText comparator operand
    return spaced subject comparator.word.toList value
  | .nested subject comparator operand => do
    let subject ← render subject
    let value ← operandText comparator operand
    return spaced (parenthesized subject) comparator.word.toList value
  | .joined connective left right =>
    if connective = .not then throw .binaryNot
    else do
      let first ← render left
      let second ← render right
      return spaced (if left.isCompound then parenthesized first else first)
        connective.word.toList (if right.isCompound then parenthesized second else second)
  | .negation inner => do
    let text ← render inner
    return "not ".toList ++ if inner.isCompound then parenthesized text else text

def text (p : Filter) : Except Failure String :=
  (render p).map String.ofList

end Filter

end RecordFilter
