import RecordFilter.Number.Numeral
import RecordFilter.Predicate.Basic
import RecordFilter.Text.Cut

/-!
# Placeholders

While a fragment is read, each of its groups is replaced by a placeholder: the characters `@Sub_`
and the number of the slot that holds the group. A slot remembers the source of its group and
gives the predicate away once. Numbers are given out in the order in which groups are bound and
are never reused within one reading.
-/

namespace RecordFilter

open RecordFilter.Number RecordFilter.Text

/-- A bound group: the text between its parentheses, and its predicate until it is taken. -/
structure Slot where
  source : List Char
  content : Option Filter
  deriving DecidableEq

/-- The groups bound so far, in the order of their numbers. -/
abbrev Slots := List Slot

/-- What every placeholder starts with. -/
def placeholderMark : List Char := "@Sub_".toList

/-- The placeholder of a slot. -/
def placeholder (number : Nat) : List Char :=
  placeholderMark ++ digitsOf number

/-- The number of a text that is exactly one placeholder. -/
def placeholderNumber? (s : List Char) : Option Nat :=
  if placeholderMark.isPrefixOf s then
    let digits := s.drop placeholderMark.length
    if digits ≠ [] ∧ digits.all Char.isDigit then some (digitsValue digits) else none
  else none

namespace Slots

/-- Binds a group to a new slot at the end. -/
def bind (slots : Slots) (source : List Char) (content : Filter) : Slots :=
  slots ++ [⟨source, some content⟩]

/-- Takes the predicate out of a slot. There is none if the slot does not exist or its
predicate was taken before. -/
def take? (slots : Slots) (number : Nat) : Option (Filter × Slots) :=
  match slots[number]? with
  | some ⟨source, some content⟩ => some (content, slots.set number ⟨source, none⟩)
  | _ => none

/-- The text with the source of its group, in parentheses, in place of each placeholder of a
slot. Anything that looks like a placeholder but belongs to no slot stays. -/
def restore (slots : Slots) (s : List Char) : List Char :=
  match s with
  | [] => []
  | c :: rest =>
    let digits := (s.drop placeholderMark.length).takeWhile Char.isDigit
    if placeholderMark.isPrefixOf s ∧ digits ≠ [] then
      let after := rest.drop (placeholderMark.length - 1 + digits.length)
      match slots[digitsValue digits]? with
      | some slot => '(' :: slot.source ++ ')' :: restore slots after
      | none => placeholderMark ++ digits ++ restore slots after
    else c :: restore slots rest
termination_by s.length
decreasing_by all_goals simp_all only [List.length_cons, List.length_drop]; omega

end Slots

end RecordFilter
