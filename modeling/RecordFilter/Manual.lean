/-!
# Manual

What the program says about the filter language: an overview and one text for each topic.
-/

namespace RecordFilter.Manual

inductive Topic where
  | filters
  | operators
  | values
  | grouping
  deriving DecidableEq, Repr

/-- The topic with a name; upper and lower case letters are not told apart. -/
def Topic.ofName? (name : String) : Option Topic :=
  match String.ofList (name.toList.map Char.toLower) with
  | "syntax" => some .filters
  | "operators" | "ops" => some .operators
  | "values" | "value" | "types" => some .values
  | "grouping" | "group" | "groups" => some .grouping
  | _ => none

def overview : String :=
"SIEVE DOCUMENTATION

Sieve filters are OData-style boolean expressions over named fields. A filter
is parsed into a predicate tree that can be printed back in canonical form or
grouped per field and operator.

DOCUMENTATION CATEGORIES

  syntax            Comparisons, and/or/not, parentheses, precedence
  operators         Comparison and logical operators
  values            Strings, numbers, booleans, dates, null, lists
  grouping          Turning filters into per-field value sets and back

QUICK REFERENCE

  Age eq 30                         Comparison
  Name eq 'Jacob' and Age gt 18     Conjunction
  not (Age lt 18)                   Negation
  Name in ['Jacob', 'John']         List membership

Run 'sieve doc <category>' for detailed documentation.
"

def filtersText : String :=
"SYNTAX

COMPARISONS
  <field> <operator> <value>

    Age eq 30
    Name startsWith 'Jac'

  Field names are letters, digits and underscores. Keywords (and, or, not,
  and every operator name) cannot be used as field names.

LOGICAL OPERATORS
  A and B        Both must hold
  A or B         Either must hold
  not A          A must not hold

PRECEDENCE
  The first 'and' or 'or' in the text splits the filter; everything after it
  is the right-hand side. 'and' does NOT bind tighter than 'or':

    A or B and C     reads as   A or (B and C)
    A and B or C     reads as   A and (B or C)

  'not' applies to everything after it:

    not A and B      reads as   not (A and B)

  Use parentheses to say what you mean:

    (not A) and B
    Name eq 'Jacob' and (Age eq 30 or Age eq 40)

QUOTING
  Keywords and parentheses inside quotes are plain text:

    title eq '1:1 Meeting between Alex and Pat (remote)'
"

def operatorsText : String :=
"OPERATORS

EQUALITY
  eq             Equal
  ne             Not equal

ORDERING
  gt  lt         Greater / less than
  ge  le         Greater / less than or equal

STRINGS
  contains       Substring
  startsWith     Prefix
  endsWith       Suffix
  matches        Pattern

LISTS
  in             Value is one of a list:   Name in ['Jacob', 'John']
  any            Some related item matches
  all            Every related item matches
  none           No related item matches
  single         Exactly one related item matches

  List operators also accept a single value, which is read as a one-element
  list:  Name in 'Jacob'

LOGICAL
  and  or  not
"

def valuesText : String :=
"VALUES

  'text'         String. Escape a quote as \\' and a backslash as \\\\
                 (a backslash before any other character is kept as is)
  30  -7         Integer
  19.99          Decimal
  true  false    Boolean
  2024-01-15     Date (printed back as '2024-01-15T00:00:00.000Z')
  null           Null
  ['a', 2]       List (list operators only)

Anything else is rejected. Pass --lenient to keep unrecognized tokens as
bare strings instead:

  sieve check --lenient \"Name eq Jacob\"
  => Name eq 'Jacob'
"

/-- What groups are and how they are written. -/
def groupingText : String :=
"GROUPING

'sieve group' splits a filter on its top-level operator and collects the
values compared against each field, per operator. Duplicates collapse.

  sieve group \"Name eq 'Jacob' and (Age eq 30 or Age eq 40)\"
  => \x7b\"Age\":\x7b\"eq\":\x7b\"operator\":\"eq\",\"subject\":\"Age\",\"values\":[30,40]\x7d\x7d,
      \"Name\":\x7b\"eq\":\x7b\"operator\":\"eq\",\"subject\":\"Name\",\"values\":[\"Jacob\"]\x7d\x7d\x7d

A parenthesized part must compare ONE field with ONE operator:

  sieve group \"Name eq 'Jacob' and (Age eq 30 or Name eq 'John')\"
  => error: cannot group

Restrict the accepted fields with --keys:

  sieve group --keys Name,Age \"Email eq 'a@b.c'\"
  => error: subject \"Email\" does not match

'sieve stringify' turns groups back into a filter. Values inside a group are
joined with --sub-operator (default or), groups with --operator (default and):

  sieve group \"Age eq 30 or Age eq 40\" | sieve stringify
  => Age eq 30 or Age eq 40
"

def Topic.text : Topic → String
  | .filters => filtersText
  | .operators => operatorsText
  | .values => valuesText
  | .grouping => groupingText

end RecordFilter.Manual
