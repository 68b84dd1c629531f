import RecordFilter.Exchange
import RecordFilter.Group.Text
import RecordFilter.Json.Reader
import RecordFilter.Manual

/-!
# Requests

What the program is asked to do: check a filter, group it, write groups as a filter, or open the
manual. Each request is a pure function of its input.
-/

namespace RecordFilter

inductive CheckResult where
  | valid
  | canonical (text : String)
  deriving DecidableEq, Repr

/-- Checks a filter; the canonical form is left out on demand. -/
def checkFilter (policy : Policy) (readOnly : Bool) (text : String) :
    Except RequestFailure CheckResult := do
  let p ← RequestFailure.ofFilter (Filter.ofText policy text)
  if readOnly then return .valid
  else
    let canonical ← RequestFailure.ofFilter (Filter.text p)
    return .canonical canonical

/-- Groups a filter as JSON. An empty list of fields allows all fields. -/
def groupFilter (policy : Policy) (allowed : List String) (text : String) :
    Except RequestFailure Json := do
  let t ← RequestFailure.ofFilter (Table.ofText policy (if allowed.isEmpty then none else some allowed) text)
  return t.toJson

def readJson (text : String) : Except RequestFailure Json :=
  match Json.ofText? text with
  | some value => .ok value
  | none => .error .invalidJson

/-- Writes the groups of a JSON text as a filter. -/
def filterOfGroups (outer inner : Connective) (input : Option String) :
    Except RequestFailure String := do
  match input with
  | none => throw .noInput
  | some text =>
    let value ← readJson text
    let groups ← groupsOfJson value
    RequestFailure.ofFilter (textOfGroups outer inner groups)

def openManual (name : String) : Except RequestFailure Manual.Topic :=
  match Manual.Topic.ofName? name with
  | some topic => .ok topic
  | none => .error (.unknownTopic name)

end RecordFilter
