import RecordFilter.Group.Table
import RecordFilter.Predicate.Parser

/-!
# Groups and filter text

A filter is grouped by the leaves of the chain at its root, and groups are written back as a filter
with one comparison for each value.
-/

namespace RecordFilter

open RecordFilter.Text

/-- The connective at which a filter is split into the parts of a table. -/
def Filter.rootConnective (p : Filter) : Connective :=
  match p.operation with
  | .connective .or => .or
  | _ => .and

/-- Groups the filter that a text denotes. A blank text has no groups. -/
def Table.ofText (policy : Policy) (allowed : Option (List String)) (s : String) :
    Except Failure Table :=
  if trim s.toList = [] then .ok .empty
  else do
    let p ← Filter.ofText policy s
    Table.collect allowed (p.leaves p.rootConnective)

namespace Group

/-- The comparison of the field of a group with one value. -/
def leaf (g : Group) (value : Scalar) : Filter :=
  .comparison g.field g.comparator (if g.comparator.takesList then .list [value] else .single value)

/-- One comparison for each value of a group. -/
def leaves (g : Group) : List Filter :=
  g.values.toList.map g.leaf

end Group

/-- One filter for each group that has values, with the values joined by `connective`. -/
def filtersOfGroups (connective : Connective) (groups : List Group) :
    Except Failure (List Filter) :=
  (groups.filter fun g => !g.values.toList.isEmpty).mapM fun g =>
    Predicate.chain connective g.leaves

/-- The text of groups, joined by `outer`, with the values of each joined by `inner`. Without any
value the text is empty. -/
def textOfGroups (outer inner : Connective) (groups : List Group) : Except Failure String := do
  let filters ← filtersOfGroups inner groups
  if filters.isEmpty then return ""
  else
    let p ← Predicate.chain outer filters
    Filter.text p

end RecordFilter
