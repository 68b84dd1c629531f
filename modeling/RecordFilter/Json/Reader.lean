import RecordFilter.Json.Token

/-!
# Reading JSON

Values are read from the tokens one token at a time. The containers that are open at a point are a
stack, innermost first, and a value that is complete is put into the innermost one. Containers
may be nested 127 deep.
-/

namespace RecordFilter.Json

/-- An open container with what was read of it so far. -/
inductive Frame where
  /-- An array with its items in reverse. -/
  | array (items : List Json)
  /-- An object with its members in reverse and the name of the member that comes next. -/
  | object (members : List (String × Json)) (name : String)

/-- How deep containers may be nested. -/
def maxDepth : Nat := 127

mutual

/-- Reads on where a value has to start. -/
def readValue? (stack : List Frame) : List JsonToken → Option Json
  | .atom value :: tokens => readAfter? value stack tokens
  | .string s :: tokens => readAfter? (.string s) stack tokens
  | .openBracket :: .closeBracket :: tokens =>
    if stack.length < maxDepth then readAfter? (.array []) stack tokens else none
  | .openBracket :: tokens =>
    if stack.length < maxDepth then readValue? (.array [] :: stack) tokens else none
  | .openBrace :: .closeBrace :: tokens =>
    if stack.length < maxDepth then readAfter? (.object []) stack tokens else none
  | .openBrace :: .string name :: .colon :: tokens =>
    if stack.length < maxDepth then readValue? (.object [] name :: stack) tokens else none
  | _ => none

/-- Reads on after a complete value. -/
def readAfter? (value : Json) (stack : List Frame) : List JsonToken → Option Json
  | [] => if stack.isEmpty then some value else none
  | .comma :: .string name :: .colon :: tokens =>
    match stack with
    | .object members last :: stack =>
      readValue? (.object ((last, value) :: members) name :: stack) tokens
    | _ => none
  | .comma :: tokens =>
    match stack with
    | .array items :: stack => readValue? (.array (value :: items) :: stack) tokens
    | _ => none
  | .closeBracket :: tokens =>
    match stack with
    | .array items :: stack => readAfter? (.array (value :: items).reverse) stack tokens
    | _ => none
  | .closeBrace :: tokens =>
    match stack with
    | .object members last :: stack =>
      readAfter? (ofMembers ((last, value) :: members).reverse) stack tokens
    | _ => none
  | _ => none

end

def ofText? (s : String) : Option Json := do
  let tokens ← JsonToken.readTokens? s.toList
  readValue? [] tokens

end RecordFilter.Json
