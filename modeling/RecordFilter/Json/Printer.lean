import RecordFilter.Json.Basic

/-!
# Printing JSON

The compact text of a value has no blanks; the indented one has a line for each item or member,
two spaces further in than the value that holds it. Strings escape quotes, backslashes and
controls, and nothing else.
-/

namespace RecordFilter.Json

def escapeChar (c : Char) : List Char :=
  if c = '"' then ['\\', '"']
  else if c = '\\' then ['\\', '\\']
  else if c = '\x08' then ['\\', 'b']
  else if c = '\x0c' then ['\\', 'f']
  else if c = '\n' then ['\\', 'n']
  else if c = '\r' then ['\\', 'r']
  else if c = '\t' then ['\\', 't']
  else if c.toNat < 0x20 then
    ['\\', 'u', '0', '0', Nat.digitChar (c.toNat / 16), Nat.digitChar (c.toNat % 16)]
  else [c]

def quoted (s : String) : List Char :=
  '"' :: s.toList.flatMap escapeChar ++ ['"']

def truthText (b : Bool) : List Char :=
  (if b then "true" else "false").toList

mutual

def compact : Json → List Char
  | .null => "null".toList
  | .boolean b => truthText b
  | .number x => x.text
  | .string s => quoted s
  | .array [] => ['[', ']']
  | .array (item :: items) => '[' :: compact item ++ compactItems items ++ [']']
  | .object [] => ['{', '}']
  | .object ((name, value) :: members) =>
    '{' :: quoted name ++ ':' :: compact value ++ compactMembers members ++ ['}']

/-- Items after the first one, each with the comma before it. -/
def compactItems : List Json → List Char
  | [] => []
  | item :: items => ',' :: compact item ++ compactItems items

/-- Members after the first one, each with the comma before it. -/
def compactMembers : List (String × Json) → List Char
  | [] => []
  | (name, value) :: members =>
    ',' :: quoted name ++ ':' :: compact value ++ compactMembers members

end

/-- The start of a line that is `depth` levels in. -/
def lineStart (depth : Nat) : List Char :=
  '\n' :: List.replicate (2 * depth) ' '

mutual

/-- The indented text of a value that stands `depth` levels in. -/
def indented (depth : Nat) : Json → List Char
  | .null => "null".toList
  | .boolean b => truthText b
  | .number x => x.text
  | .string s => quoted s
  | .array [] => ['[', ']']
  | .array (item :: items) =>
    '[' :: lineStart (depth + 1) ++ indented (depth + 1) item ++
      indentedItems (depth + 1) items ++ lineStart depth ++ [']']
  | .object [] => ['{', '}']
  | .object ((name, value) :: members) =>
    '{' :: lineStart (depth + 1) ++ quoted name ++ ':' :: ' ' :: indented (depth + 1) value ++
      indentedMembers (depth + 1) members ++ lineStart depth ++ ['}']

/-- Items after the first one, each on a line of its own. -/
def indentedItems (depth : Nat) : List Json → List Char
  | [] => []
  | item :: items => ',' :: lineStart depth ++ indented depth item ++ indentedItems depth items

/-- Members after the first one, each on a line of its own. -/
def indentedMembers (depth : Nat) : List (String × Json) → List Char
  | [] => []
  | (name, value) :: members =>
    ',' :: lineStart depth ++ quoted name ++ ':' :: ' ' :: indented depth value ++
      indentedMembers depth members

end

def text (j : Json) : String :=
  String.ofList (compact j)

def prettyText (j : Json) : String :=
  String.ofList (indented 0 j)

end RecordFilter.Json
