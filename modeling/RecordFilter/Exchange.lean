import RecordFilter.Group.Table
import RecordFilter.RequestFailure

/-!
# Groups as JSON

Each group is an object with its field, its comparator and its values; a table is an object of
objects of groups, by field and comparator. Reading accepts a table, or an array of groups.
Dates become strings, and a decimal becomes the number of the format that its text reads as.
-/

namespace RecordFilter

open RecordFilter.Number

namespace Scalar

def toJson : Scalar → Json
  | .null => .null
  | .boolean b => .boolean b
  | .integer n => .number (.whole n.toInt)
  | .decimal d =>
    match JsonNumber.ofNumeral? d.numeral with
    | some x => .number x
    | none => .string (String.ofList d.text)
  | .string s => .string s
  | .date d => .string (String.ofList d.text)

/-- The scalar that a number stands for: an integer of 64 bits if it is whole and fits, and else
the decimal that it is written as. -/
def ofNumber (x : JsonNumber) : Except RequestFailure Scalar :=
  let asDecimal := (Decimal.ofNumeral x.numeral).map Scalar.decimal
  match x with
  | .whole n =>
    if Int64.minValue.toInt ≤ n ∧ n ≤ Int64.maxValue.toInt then .ok (.integer (Int64.ofInt n))
    else asDecimal.mapError fun cause => .invalidGroups (.notDecimal x cause)
  | .real _ => asDecimal.mapError fun cause => .invalidGroups (.notDecimal x cause)

/-- The scalar that a JSON value stands for; arrays and objects stand for none. -/
def ofJson : Json → Except RequestFailure Scalar
  | .null => .ok .null
  | .boolean b => .ok (.boolean b)
  | .number x => ofNumber x
  | .string s => .ok (.string s)
  | value => .error (.invalidGroups (.notScalar value))

end Scalar

namespace Group

def toJson (g : Group) : Json :=
  .ofMembers [("subject", .string g.field), ("operator", .string g.comparator.word),
    ("values", .array (g.values.toList.map Scalar.toJson))]

/-- A member that a group has to have. -/
def requiredMember (name : String) (value : Json) : Except RequestFailure Json :=
  match value.member? name with
  | some member => .ok member
  | none => .error (.invalidGroups (.missing name))

/-- A member that has to be a string. -/
def stringMember (name : String) (value : Json) : Except RequestFailure String := do
  match ← requiredMember name value with
  | .string s => return s
  | _ => throw (.invalidGroups (.notString name))

/-- A member that has to be an array. -/
def arrayMember (name : String) (value : Json) : Except RequestFailure (List Json) := do
  match ← requiredMember name value with
  | .array items => return items
  | _ => throw (.invalidGroups (.notArray name))

/-- The group that a JSON value stands for. -/
def ofJson (value : Json) : Except RequestFailure Group := do
  let field ← stringMember "subject" value
  let word ← stringMember "operator" value
  match Comparator.ofWord? word with
  | none => throw (.filter (.unknownComparator word))
  | some comparator =>
    let items ← arrayMember "values" value
    let values ← items.mapM Scalar.ofJson
    return (Group.empty field comparator).addAll values

end Group

namespace Table

def toJson (t : Table) : Json :=
  .ofMembers (t.entries.map fun (field, byComparator) =>
    (field, .ofMembers (byComparator.entries.map fun (comparator, group) =>
      (comparator.word, group.toJson))))

end Table

/-- The JSON values of the groups of one field of a table. -/
def groupValuesOfField : Json → Except RequestFailure (List Json)
  | .object members => .ok (members.map Prod.snd)
  | _ => .error (.invalidGroups .noComparators)

def groupsOfField (value : Json) : Except RequestFailure (List Group) := do
  let values ← groupValuesOfField value
  values.mapM Group.ofJson

/-- The groups that a JSON value describes, as a table or as an array. -/
def groupsOfJson : Json → Except RequestFailure (List Group)
  | .array items => items.mapM Group.ofJson
  | .object members => do
    let groups ← (members.map Prod.snd).mapM groupsOfField
    return groups.flatten
  | value => .error (.invalidGroups (.noContainer value))

end RecordFilter
