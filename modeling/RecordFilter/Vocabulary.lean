/-!
# The words of the filter language

Connectives join predicates and comparators relate a field to values. Each has one written form,
and none of these words can be the name of a field. The two kinds share no word
(`comparator?_word_connective`), so a word names at most one of them.
-/

namespace RecordFilter

/-- Joins predicates. -/
inductive Connective where
  | and
  | or
  | not
  deriving DecidableEq, Repr

/-- Relates a field to a value, or to a list of values. -/
inductive Comparator where
  | equal
  | notEqual
  | greater
  | less
  | greaterOrEqual
  | lessOrEqual
  | contains
  | startsWith
  | endsWith
  | fitsPattern
  | oneOf
  | anyRelated
  | allRelated
  | noneRelated
  | singleRelated
  deriving DecidableEq, Repr

namespace Connective

def all : List Connective := [.and, .or, .not]

def word : Connective → String
  | .and => "and"
  | .or => "or"
  | .not => "not"

def ofWord? (w : String) : Option Connective :=
  all.find? (·.word == w)

theorem mem_all (c : Connective) : c ∈ all := by
  cases c <;> decide

@[simp] theorem ofWord?_word (c : Connective) : ofWord? c.word = some c := by
  cases c <;> decide

end Connective

namespace Comparator

def all : List Comparator :=
  [.equal, .notEqual, .greater, .less, .greaterOrEqual, .lessOrEqual, .contains, .startsWith,
    .endsWith, .fitsPattern, .oneOf, .anyRelated, .allRelated, .noneRelated, .singleRelated]

def word : Comparator → String
  | .equal => "eq"
  | .notEqual => "ne"
  | .greater => "gt"
  | .less => "lt"
  | .greaterOrEqual => "ge"
  | .lessOrEqual => "le"
  | .contains => "contains"
  | .startsWith => "startsWith"
  | .endsWith => "endsWith"
  | .fitsPattern => "matches"
  | .oneOf => "in"
  | .anyRelated => "any"
  | .allRelated => "all"
  | .noneRelated => "none"
  | .singleRelated => "single"

def ofWord? (w : String) : Option Comparator :=
  all.find? (·.word == w)

/-- The comparator takes a list of values in brackets. -/
def takesList : Comparator → Bool
  | .oneOf | .anyRelated | .allRelated | .noneRelated | .singleRelated => true
  | _ => false

theorem mem_all (c : Comparator) : c ∈ all := by
  cases c <;> decide

@[simp] theorem ofWord?_word (c : Comparator) : ofWord? c.word = some c := by
  cases c <;> decide

end Comparator

inductive Operation where
  | connective (c : Connective)
  | comparator (c : Comparator)
  deriving DecidableEq, Repr

namespace Operation

def word : Operation → String
  | .connective c => c.word
  | .comparator c => c.word

def ofWord? (w : String) : Option Operation :=
  match Connective.ofWord? w with
  | some c => some (.connective c)
  | none => (Comparator.ofWord? w).map .comparator

/-- The operation joins predicates. -/
def isConnective : Operation → Bool
  | .connective _ => true
  | .comparator _ => false

end Operation

/-- The word has a meaning in the language, so it cannot name a field. -/
def isKeyword (w : String) : Bool :=
  (Operation.ofWord? w).isSome

theorem comparator?_word_connective (c : Connective) : Comparator.ofWord? c.word = none := by
  cases c <;> decide

@[simp] theorem Operation.ofWord?_word (o : Operation) : Operation.ofWord? o.word = some o := by
  cases o with
  | connective c => simp [ofWord?, word]
  | comparator c => cases c <;> decide

theorem isKeyword_word_connective (c : Connective) : isKeyword c.word = true := by
  cases c <;> decide

theorem isKeyword_word_comparator (c : Comparator) : isKeyword c.word = true := by
  cases c <;> decide

end RecordFilter
