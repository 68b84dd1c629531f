import RecordFilter.Failure
import RecordFilter.Json.Printer
import RecordFilter.Number.Decimal

/-!
# Failures of requests

A request to the program fails because of a filter, because its JSON is no JSON or describes no
groups, because something is missing, or because the manual has no such topic.
-/

namespace RecordFilter

open RecordFilter.Number

/-- How a JSON value fails to describe groups. -/
inductive ShapeFailure where
  /-- A group lacks a member. -/
  | missing (member : String)
  /-- A member of a group is no string. -/
  | notString (member : String)
  /-- A member of a group is no array. -/
  | notArray (member : String)
  /-- A value of a group is an array or an object. -/
  | notScalar (value : Json)
  /-- A number is no decimal. -/
  | notDecimal (number : JsonNumber) (cause : DecimalError)
  /-- What stands under the name of a field is no object. -/
  | noComparators
  /-- The whole is no container. -/
  | noContainer (value : Json)

def ShapeFailure.message : ShapeFailure → String
  | .missing member => "group is missing '" ++ member ++ "'"
  | .notString member => "'" ++ member ++ "' must be a string"
  | .notArray member => "'" ++ member ++ "' must be an array"
  | .notScalar value => "expected a scalar value, got " ++ value.text
  | .notDecimal number cause => "number " ++ String.ofList number.text ++ ": " ++ cause.message
  | .noComparators => "expected an object of operators"
  | .noContainer value => "expected an object or array, got " ++ value.text

inductive RequestFailure where
  | filter (failure : Failure)
  | invalidJson
  | invalidGroups (failure : ShapeFailure)
  | noInput
  | unknownTopic (name : String)

def RequestFailure.message : RequestFailure → String
  | .filter failure => "Filter error: " ++ failure.message
  | .invalidJson => "Invalid JSON"
  | .invalidGroups failure => "Invalid groups: " ++ failure.message
  | .noInput => "No input provided. Use --input or pipe JSON to stdin."
  | .unknownTopic name =>
    "Unknown category: '" ++ name ++ "'\nRun 'sieve docs' to see available categories."

/-- A failure of the filter language as the failure of a request. -/
def RequestFailure.ofFilter {α : Type} (result : Except Failure α) : Except RequestFailure α :=
  result.mapError .filter

end RecordFilter
