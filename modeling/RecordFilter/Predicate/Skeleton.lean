import RecordFilter.Predicate.Printer
import RecordFilter.Text.Escape

/-!
# Skeletons

Messages about a filter quote its text. A filter that has none is described by the structure of
its tree instead, with every node and value labelled by its kind.
-/

namespace RecordFilter

open RecordFilter.Text RecordFilter.Number

def Connective.label : Connective → List Char
  | .and => "And".toList
  | .or => "Or".toList
  | .not => "Not".toList

def Comparator.label : Comparator → List Char
  | .equal => "Eq".toList
  | .notEqual => "Ne".toList
  | .greater => "Gt".toList
  | .less => "Lt".toList
  | .greaterOrEqual => "Ge".toList
  | .lessOrEqual => "Le".toList
  | .contains => "Contains".toList
  | .startsWith => "StartsWith".toList
  | .endsWith => "EndsWith".toList
  | .fitsPattern => "Matches".toList
  | .oneOf => "In".toList
  | .anyRelated => "Any".toList
  | .allRelated => "All".toList
  | .noneRelated => "None".toList
  | .singleRelated => "Single".toList

/-- A label with its content in parentheses. -/
def Skeleton.labelled (label : String) (content : List Char) : List Char :=
  label.toList ++ '(' :: content ++ [')']

/-- A label with named fields in braces. -/
def Skeleton.labelledFields (label : String) (fields : List (String × List Char)) : List Char :=
  label.toList ++ [' ', '{', ' '] ++
    List.intercalate [',', ' '] (fields.map fun (name, content) =>
      name.toList ++ ':' :: ' ' :: content) ++ [' ', '}']

open Skeleton

def Scalar.skeleton : Scalar → List Char
  | .null => "Null".toList
  | .boolean b => labelled "Boolean" (if b then "true" else "false").toList
  | .integer n => labelled "Integer" (integerText n.toInt)
  | .decimal d => labelled "Decimal" d.text
  | .string s => labelled "String" (escape s.toList)
  | .date d => labelled "Date" d.text

def Operand.skeleton : Operand Scalar → List Char
  | .single value => labelled "Scalar" value.skeleton
  | .list values =>
    labelled "List" ('[' :: List.intercalate [',', ' '] (values.map Scalar.skeleton) ++ [']'])

namespace Filter

def comparisonSkeleton (subject : List Char) (comparator : Comparator)
    (operand : Operand Scalar) : List Char :=
  labelled "Comparison" (labelledFields "Comparison"
    [("subject", subject), ("operator", comparator.label), ("value", operand.skeleton)])

def skeleton : Filter → List Char
  | .comparison field comparator operand =>
    comparisonSkeleton (labelled "Field" (escape field.toList)) comparator operand
  | .nested subject comparator operand =>
    comparisonSkeleton (labelled "Expression" (skeleton subject)) comparator operand
  | .joined connective left right =>
    labelledFields "Logical"
      [("subject", skeleton left), ("operator", connective.label), ("value", skeleton right)]
  | .negation inner => labelled "Not" (skeleton inner)

/-- How a message refers to a filter: by its text if it has one, and else by its structure. -/
def description (p : Filter) : String :=
  match text p with
  | .ok s => s
  | .error _ => String.ofList (skeleton p)

end Filter

end RecordFilter
