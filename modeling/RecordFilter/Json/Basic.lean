import RecordFilter.Json.Number

/-!
# JSON values

The members of an object are kept in increasing order of their names, by code point, each name
once. `Json.put` keeps that order and lets a later member replace an earlier one.
-/

namespace RecordFilter

inductive Json where
  | null
  | boolean (value : Bool)
  | number (value : JsonNumber)
  | string (value : String)
  | array (items : List Json)
  | object (members : List (String × Json))

namespace Json

/-- Sets a member of an object whose members are in order. -/
def put (name : String) (value : Json) : List (String × Json) → List (String × Json)
  | [] => [(name, value)]
  | (n, v) :: members =>
    if name < n then (name, value) :: (n, v) :: members
    else if name = n then (name, value) :: members
    else (n, v) :: put name value members

/-- The object with the given members, of which the last of each name counts. -/
def ofMembers (members : List (String × Json)) : Json :=
  .object (members.foldl (fun acc (name, value) => put name value acc) [])

def member? (name : String) : Json → Option Json
  | .object members => members.lookup name
  | _ => none

end Json

end RecordFilter
