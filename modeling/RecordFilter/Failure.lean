/-!
# Failures

Why a filter cannot be read, printed, rebuilt or grouped. Each constructor is one cause; causes
that are answered alike share a kind, and `Failure.message` holds all the wording.
-/

namespace RecordFilter

instance decidableEqExcept {ε α : Type} [DecidableEq ε] [DecidableEq α] : DecidableEq (Except ε α)
  | .ok a, .ok b => decidable_of_iff (a = b) ⟨congrArg Except.ok, Except.ok.inj⟩
  | .error e, .error e' => decidable_of_iff (e = e') ⟨congrArg Except.error, Except.error.inj⟩
  | .ok _, .error _ => .isFalse nofun
  | .error _, .ok _ => .isFalse nofun

inductive Failure where
  /-- A closing parenthesis without an opening one, or the other way round. -/
  | unmatchedParentheses (fragment : String)
  /-- A placeholder that stands for no group, or for one that was already used. -/
  | unknownPlaceholder (placeholder : String)
  /-- There is no filter, only blanks. -/
  | emptyFilter
  /-- A fragment that no rule of the grammar fits. -/
  | unreadable (fragment : String)
  /-- A word that is no connective. -/
  | unknownConnective (word : String)
  /-- A word that is no comparator. -/
  | unknownComparator (word : String)
  /-- A word that is neither. -/
  | unknownOperation (word : String)
  /-- Several predicates cannot be joined by `not`. -/
  | joinedByNot
  /-- A node joins two predicates by `not`. -/
  | binaryNot
  /-- A field name that could not be read back. -/
  | invalidField (name : String)
  /-- A list of values for a comparator that takes a single one. -/
  | listNotTaken (comparator : String)
  /-- A token that is no value. -/
  | invalidValue (token : String)
  /-- A joined predicate that compares several fields or uses several comparators. -/
  | mixedCluster (description : String)
  /-- A field that the caller did not allow. -/
  | unknownField (field : String) (allowed : List String)
  /-- A predicate that contributes to no group. -/
  | ungroupable (description : String)
  /-- There is nothing to join. -/
  | emptyJoin
  deriving DecidableEq, Repr

/-- The kinds of failure that callers tell apart. -/
inductive FailureKind where
  | unmatchedParentheses
  | unknownPlaceholder
  | invalidExpression
  | invalidValue
  | mixedCluster
  | unknownField
  | ungroupable
  | emptyJoin
  deriving DecidableEq, Repr

namespace Failure

def kind : Failure → FailureKind
  | .unmatchedParentheses _ => .unmatchedParentheses
  | .unknownPlaceholder _ => .unknownPlaceholder
  | .emptyFilter | .unreadable _ | .unknownConnective _ | .unknownComparator _
  | .unknownOperation _ | .joinedByNot | .binaryNot | .invalidField _ | .listNotTaken _ =>
    .invalidExpression
  | .invalidValue _ => .invalidValue
  | .mixedCluster _ => .mixedCluster
  | .unknownField _ _ => .unknownField
  | .ungroupable _ => .ungroupable
  | .emptyJoin => .emptyJoin

/-- What the failure is about, without the words that introduce its kind. -/
def detail : Failure → String
  | .unmatchedParentheses fragment => fragment
  | .unknownPlaceholder placeholder => placeholder
  | .emptyFilter => "empty filter"
  | .unreadable fragment => fragment
  | .unknownConnective word => "unknown logical operator '" ++ word ++ "'"
  | .unknownComparator word => "unknown comparison operator '" ++ word ++ "'"
  | .unknownOperation word => "unknown operator '" ++ word ++ "'"
  | .joinedByNot => "cannot join expressions with 'not'"
  | .binaryNot => "'not' cannot join two expressions"
  | .invalidField name => "'" ++ name ++ "' is not a valid subject"
  | .listNotTaken comparator => "'" ++ comparator ++ "' does not take a list of values"
  | .invalidValue token => token
  | .mixedCluster description => description
  | .unknownField field allowed =>
    "\"" ++ field ++ "\" does not match [" ++ ", ".intercalate allowed ++ "]"
  | .ungroupable description => description
  | .emptyJoin => "Cannot join an empty list of expressions"

def message (failure : Failure) : String :=
  match failure.kind with
  | .unmatchedParentheses => "Unmatched parentheses in: " ++ failure.detail
  | .unknownPlaceholder => "Symbol not found: " ++ failure.detail
  | .invalidExpression => "Invalid expression: " ++ failure.detail
  | .invalidValue => "Invalid value: " ++ failure.detail
  | .mixedCluster =>
    "Cannot group " ++ failure.detail ++
      ": clusters must share exactly one subject and one operator"
  | .unknownField => "Subject " ++ failure.detail
  | .ungroupable => "Expression cannot be grouped: " ++ failure.detail
  | .emptyJoin => failure.detail

end Failure

end RecordFilter
