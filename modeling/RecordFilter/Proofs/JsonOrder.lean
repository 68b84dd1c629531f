import Mathlib.Data.List.Forall2
import Mathlib.Data.List.Perm.Basic
import Mathlib.Tactic.Common
import RecordFilter.Proofs.JsonGroups

/-!
# The order of groups in JSON

The JSON of a table names each group by the field and the comparator under which it stands. Reading
it back gives every group once, by field and then by the word of the comparator, whatever the order
of the table. An array of groups is read in its own order. Nothing is asked of the values but
that each of them comes back alike: then none of them meets another one in its group, and their
order stays.
-/

namespace RecordFilter.Proofs

/-- A group with the field and the comparator under which it stands. -/
structure Place where
  field : String
  comparator : Comparator
  group : Group

/-- The groups of a table where they stand. -/
def places (t : Table) : List Place :=
  t.entries.flatMap fun (field, row) =>
    row.entries.map fun (comparator, g) => ⟨field, comparator, g⟩

/-- Fields come in the order of their names, and comparators of one field in that of their words. -/
def Place.Precedes (p q : Place) : Prop :=
  p.field < q.field ∨ p.field = q.field ∧ p.comparator.word < q.comparator.word

/-- The places in the order in which JSON has them. -/
def sortedPlaces (t : Table) : List Place :=
  (sortedEntries id t).flatMap fun (field, row) =>
    (sortedEntries Comparator.word row).map fun (comparator, g) => ⟨field, comparator, g⟩

lemma map_group_places (t : Table) : (places t).map Place.group = t.groups := by
  rw [places, Table.groups, List.map_flatMap, OrderedMap.values, List.flatMap_map]
  apply List.flatMap_congr
  intro entry _
  rw [List.map_map]
  rfl

lemma map_group_sortedPlaces (t : Table) : (sortedPlaces t).map Place.group = sortedGroups t := by
  rw [sortedPlaces, sortedGroups, List.map_flatMap]
  apply List.flatMap_congr
  intro entry _
  rw [List.map_map]
  rfl

lemma perm_sortedPlaces (t : Table) : (sortedPlaces t).Perm (places t) := by
  apply (perm_sortedEntries id t).flatMap
  intro entry _
  exact (perm_sortedEntries Comparator.word entry.2).map _

lemma pairwise_sortedPlaces (t : Table) : (sortedPlaces t).Pairwise Place.Precedes := by
  rw [sortedPlaces, List.pairwise_flatMap]
  constructor
  · intro entry _
    rw [List.pairwise_map]
    exact (pairwise_sortedEntries word_injective entry.2).imp fun hlt => .inr ⟨rfl, hlt⟩
  · apply (pairwise_sortedEntries Function.injective_id t).imp
    intro entry entry' hlt p hp q hq
    obtain ⟨_, -, rfl⟩ := List.mem_map.1 hp
    obtain ⟨_, -, rfl⟩ := List.mem_map.1 hq
    exact .inl hlt

/-! ### Groups that come back -/

/-- The group is for the same field and comparator and has alike values in the same order. -/
structure IsCopy (copy g : Group) : Prop where
  field : copy.field = g.field
  comparator : copy.comparator = g.comparator
  values : copy.values.toList.map Scalar.worth = g.values.toList.map Scalar.worth

/-- Every value comes back from JSON alike. -/
def KeepsValues (g : Group) : Prop :=
  ∀ v ∈ g.values.toList, ∃ v', Scalar.ofJson v.toJson = .ok v' ∧ v'.isAlike v = true

instance (g : Group) : Decidable (KeepsValues g) :=
  decidable_of_iff (∀ v ∈ g.values.toList,
    (Scalar.ofJson v.toJson).toOption.any (·.isAlike v) = true) <| by
      apply forall₂_congr
      intro v _
      cases Scalar.ofJson v.toJson with
      | error e => simp [Except.toOption]
      | ok v' => simp [Except.toOption]

/-- Alike values are different where their originals are, so reading drops none of them. -/
lemma KeepsValues.exists_ofJson {g : Group} (h : KeepsValues g) :
    ∃ copy, Group.ofJson g.toJson = .ok copy ∧ IsCopy copy g := by
  obtain ⟨values, hvalues⟩ := exists_forall₂ h
  have hworth : values.map Scalar.worth = g.values.toList.map Scalar.worth := by
    rw [← List.forall₂_eq_eq_eq, List.forall₂_map_left_iff, List.forall₂_map_right_iff]
    exact hvalues.flip.imp fun v' v hv => Scalar.isAlike_iff.1 hv.2
  have hdistinct : (ValueSet.ofList values).toList = values := by
    rw [toList_ofList, eraseDupsBy_of_pairwise]
    have hpairwise := List.pairwise_map.2 g.values.distinct
    rw [← hworth, List.pairwise_map] at hpairwise
    apply hpairwise.imp
    intro a b hne
    rw [Bool.eq_false_iff, ne_eq, Scalar.isAlike_iff]
    exact hne.symm
  refine ⟨{ g with values := .ofList values },
    group_ofJson_of_forall₂ (hvalues.imp fun v v' hv => hv.1), rfl, rfl, ?_⟩
  rw [hdistinct]
  exact hworth

/-- The JSON of a table loses no group and doubles none. If every value comes back alike, then its
groups are read from it in the order of their places, each with its values in their order, and from
an array of the same groups in the order of the table. Values that are neither decimals nor dates
come back as they were. -/
theorem groupsOfJson_toJson_sorted {t : Table} (h : ∀ g ∈ t.groups, KeepsValues g) :
    (∃ (ps : List Place) (gs : List Group), ps.Perm (places t) ∧ ps.Pairwise Place.Precedes ∧
      (ps.map Place.group).Perm t.groups ∧ groupsOfJson t.toJson = .ok gs ∧
      List.Forall₂ IsCopy gs (ps.map Place.group)) ∧
    (∃ gs, groupsOfJson (.array (t.groups.map Group.toJson)) = .ok gs ∧
      List.Forall₂ IsCopy gs t.groups) ∧
    ∀ v : Scalar, (∀ d, v ≠ .decimal d) → (∀ d, v ≠ .date d) → Scalar.ofJson v.toJson = .ok v := by
  have hcopy : ∀ g ∈ t.groups, ∃ copy, Group.ofJson g.toJson = .ok copy ∧ IsCopy copy g :=
    fun g hg => (h g hg).exists_ofJson
  refine ⟨?_, ?_, ?_⟩
  · obtain ⟨gs, hgs, hcopies⟩ := exists_groupsOfJson_toJson hcopy
    refine ⟨sortedPlaces t, gs, perm_sortedPlaces t, pairwise_sortedPlaces t, ?_, hgs, ?_⟩
    · rw [← map_group_places]
      exact (perm_sortedPlaces t).map _
    · rw [map_group_sortedPlaces]
      exact hcopies
  · obtain ⟨gs, hgs, hcopies⟩ := exists_mapM_of_forall hcopy
    refine ⟨gs, ?_, hcopies⟩
    rw [groupsOfJson, mapM_eq_ok_iff, List.forall₂_map_left_iff]
    exact mapM_eq_ok_iff.1 hgs
  · intro v hdecimal hdate
    rw [scalar_ofJson_toJson hdecimal]
    cases v with
    | date d => exact absurd rfl (hdate d)
    | _ => rfl

/-- Fields and comparators against their order, and a decimal that loses a zero on its way. -/
def pricedTable : Table :=
  tableOf [⟨"Size", .oneOf, [.string "b", .string "a"]⟩,
    ⟨"Price", .notEqual, [.decimal ⟨1250, 5, by decide, by decide⟩, .integer 2]⟩,
    ⟨"Price", .equal, [.null, .decimal ⟨-25, 6, by decide, by decide⟩]⟩]

theorem groupsOfJson_toJson_sorted_pricedTable :
    (∀ g ∈ pricedTable.groups, KeepsValues g) ∧
    (∃ (ps : List Place) (gs : List Group), ps.Perm (places pricedTable) ∧
      ps.Pairwise Place.Precedes ∧ (ps.map Place.group).Perm pricedTable.groups ∧
      groupsOfJson pricedTable.toJson = .ok gs ∧ List.Forall₂ IsCopy gs (ps.map Place.group)) ∧
    (∃ gs, groupsOfJson (.array (pricedTable.groups.map Group.toJson)) = .ok gs ∧
      List.Forall₂ IsCopy gs pricedTable.groups) ∧
    ∀ v : Scalar, (∀ d, v ≠ .decimal d) → (∀ d, v ≠ .date d) → Scalar.ofJson v.toJson = .ok v := by
  have h : ∀ g ∈ pricedTable.groups, KeepsValues g := by decide +kernel
  exact ⟨h, groupsOfJson_toJson_sorted h⟩

end RecordFilter.Proofs
