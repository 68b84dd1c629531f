import Mathlib.Tactic.Common
import RecordFilter.Proofs.GroupRoundTrip
import RecordFilter.Proofs.OrderedMerge
import RecordFilter.Proofs.Regrouping

/-!
# Tables are rebuilt from their groups

The groups of a table, written as filters and collected again, give the table back, but for the
groups that have no values and the fields that are left without a group. The contributions of the
groups come in blocks, one for each field and in it one for each comparator, so their merge has the
fields and comparators of the table in their order.
-/

namespace RecordFilter.Proofs
open RecordFilter.Predicate

section Blocks

variable {κ α β : Type} [DecidableEq κ] {entries : List (κ × α)} {block : κ × α → List β}
  {key : β → κ}

lemma flatMap_ite_of_mem (hnodup : (entries.map Prod.fst).Nodup) {entry : κ × α}
    (hentry : entry ∈ entries) :
    (entries.flatMap fun e => if e.1 = entry.1 then block e else []) = block entry := by
  induction entries with
  | nil => cases hentry
  | cons e entries ih =>
    rw [List.map_cons, List.nodup_cons] at hnodup
    obtain ⟨hnew, hnodup⟩ := hnodup
    rw [List.flatMap_cons]
    rcases List.mem_cons.1 hentry with rfl | hmem
    · have hrest : (entries.flatMap fun e => if e.1 = entry.1 then block e else []) = [] := by
        rw [List.flatMap_eq_nil_iff]
        intro e he
        rw [if_neg]
        intro heq
        exact hnew (List.mem_map.2 ⟨e, he, heq⟩)
      rw [if_pos rfl, hrest, List.append_nil]
    · have hne : e.1 ≠ entry.1 := fun heq => hnew (List.mem_map.2 ⟨entry, hmem, heq.symm⟩)
      rw [if_neg hne, List.nil_append, ih hnodup hmem]

/-- What comes in the block of a key is all that has this key. -/
lemma filter_flatMap_of_mem (hnodup : (entries.map Prod.fst).Nodup)
    (hkey : ∀ entry ∈ entries, ∀ b ∈ block entry, key b = entry.1) {entry : κ × α}
    (hentry : entry ∈ entries) :
    (entries.flatMap block).filter (fun b => key b = entry.1) = block entry := by
  have hblock : ∀ e ∈ entries, (block e).filter (fun b => key b = entry.1) =
      if e.1 = entry.1 then block e else [] := by
    intro e he
    by_cases heq : e.1 = entry.1
    · rw [if_pos heq, List.filter_eq_self]
      intro b hb
      simp [hkey e he b hb, heq]
    · rw [if_neg heq, List.filter_eq_nil_iff]
      intro b hb
      simp [hkey e he b hb, heq]
  rw [List.filter_flatMap, List.flatMap_congr hblock, flatMap_ite_of_mem hnodup hentry]

lemma eraseDupsBy_of_pairwise {r : α → α → Bool} {xs : List α}
    (h : xs.Pairwise fun a b => r b a = false) : xs.eraseDupsBy r = xs := by
  induction xs with
  | nil => rfl
  | cons x xs ih =>
    obtain ⟨hx, hxs⟩ := List.pairwise_cons.1 h
    have hkept : xs.filter (fun b => r b x = false) = xs := by
      apply List.filter_eq_self.2
      intro b hb
      simp [hx b hb]
    rw [List.eraseDupsBy_cons, hkept, ih hxs]

lemma eraseDups_of_nodup {ks : List κ} (h : ks.Nodup) : ks.eraseDups = ks := by
  apply eraseDupsBy_of_pairwise
  apply h.imp
  intro a b hne
  simpa using Ne.symm hne

lemma eraseDupsBy_toList (s : ValueSet) : s.toList.eraseDupsBy Scalar.isAlike = s.toList := by
  apply eraseDupsBy_of_pairwise
  apply s.distinct.imp
  intro a b hne
  simpa [Scalar.isAlike] using Ne.symm hne

/-- The keys of blocks are the keys of those that have something in them. -/
lemma eraseDups_map_flatMap (hnodup : (entries.map Prod.fst).Nodup)
    (hkey : ∀ entry ∈ entries, ∀ b ∈ block entry, key b = entry.1) :
    ((entries.flatMap block).map key).eraseDups =
      (entries.filter fun entry => !(block entry).isEmpty).map Prod.fst := by
  induction entries with
  | nil => rfl
  | cons e entries ih =>
    rw [List.map_cons, List.nodup_cons] at hnodup
    obtain ⟨hnew, hnodup⟩ := hnodup
    have hrest := ih hnodup fun e he => hkey e (List.mem_cons_of_mem _ he)
    have hblock : ∀ b ∈ block e, key b = e.1 := hkey e List.mem_cons_self
    rw [List.flatMap_cons, List.map_append]
    cases hcases : block e with
    | nil => rw [List.map_nil, List.nil_append, hrest, List.filter_cons_of_neg (by simp [hcases])]
    | cons b bs =>
      rw [hcases, List.forall_mem_cons] at hblock
      obtain ⟨hb, hbs⟩ := hblock
      have hfilter : ((bs.map key ++ (entries.flatMap block).map key).filter fun k => !k == e.1) =
          (entries.flatMap block).map key := by
        rw [List.filter_append, List.filter_eq_nil_iff.2, List.nil_append, List.filter_eq_self.2]
        · intro k hk
          obtain ⟨b', hb', rfl⟩ := List.mem_map.1 hk
          obtain ⟨e', he', hb'⟩ := List.mem_flatMap.1 hb'
          rw [hkey e' (List.mem_cons_of_mem _ he') b' hb']
          have hne : e'.1 ≠ e.1 := fun heq => hnew (List.mem_map.2 ⟨e', he', heq⟩)
          simpa using hne
        · intro k hk
          obtain ⟨b', hb', rfl⟩ := List.mem_map.1 hk
          simp [hbs b' hb']
      rw [List.map_cons, List.cons_append, List.eraseDups_cons, hb, hfilter, hrest,
        List.filter_cons_of_pos (by simp [hcases]), List.map_cons]

end Blocks

/-- Every group stands under its own field and comparator. -/
def IsKeyed (t : Table) : Prop :=
  ∀ field comparator g, group? t field comparator = some g →
    g.field = field ∧ g.comparator = comparator

/-- The group has values. -/
def hasValues (g : Group) : Bool :=
  !g.values.toList.isEmpty

/-- The table without the groups that have no values and without the fields that are left with no
group. -/
def withoutEmpty (t : Table) : Table :=
  (t.map fun byComparator => byComparator.filter hasValues).filter fun byComparator =>
    !byComparator.entries.isEmpty

/-- All that a group holds, as one contribution. -/
def wholeContribution (g : Group) : Contribution :=
  ⟨g.field, g.comparator, g.values.toList⟩

/-- The contributions of one field. -/
def rowContributions (byComparator : OrderedMap Comparator Group) : List Contribution :=
  (byComparator.filter hasValues).values.map wholeContribution

section Rebuild

variable {t : Table} {field : String} {comparator : Comparator}

lemma contributionsOf_groups (t : Table) :
    contributionsOf id t.groups = t.entries.flatMap fun entry => rowContributions entry.2 := by
  have hrow : ∀ byComparator : OrderedMap Comparator Group,
      contributionsOf id byComparator.values = rowContributions byComparator := by
    intro byComparator
    rw [rowContributions, OrderedMap.values_filter, contributionsOf]
    simp only [List.map_id]
    rfl
  have hflatMap : contributionsOf id t.groups =
      t.values.flatMap fun byComparator => contributionsOf id byComparator.values := by
    simp only [contributionsOf, Table.groups, List.filter_flatMap, List.map_flatMap]
  rw [hflatMap, OrderedMap.values, List.flatMap_map]
  simp only [hrow]

lemma get?_withoutEmpty {byComparator : OrderedMap Comparator Group}
    (h : (withoutEmpty t).get? field = some byComparator) :
    ∃ row, t.get? field = some row ∧ row.filter hasValues = byComparator :=
  OrderedMap.get?_map_eq_some_iff.1 (OrderedMap.get?_filter_eq_some_iff.1 h).1

lemma group?_withoutEmpty {g : Group} (h : group? (withoutEmpty t) field comparator = some g) :
    group? t field comparator = some g ∧ hasValues g = true := by
  obtain ⟨byComparator, hrow, hg⟩ := group?_eq_some_iff_get?.1 h
  obtain ⟨row, hfield, rfl⟩ := get?_withoutEmpty hrow
  obtain ⟨hg, hvalues⟩ := OrderedMap.get?_filter_eq_some_iff.1 hg
  exact ⟨group?_eq_some_iff_get?.2 ⟨row, hfield, hg⟩, hvalues⟩

lemma place_of_mem_entries (ht : IsKeyed t) {entry : String × OrderedMap Comparator Group}
    (hentry : entry ∈ t.entries) {place : Comparator × Group} (hplace : place ∈ entry.2.entries) :
    place.2.field = entry.1 ∧ place.2.comparator = place.1 :=
  ht entry.1 place.1 place.2 (group?_eq_some_iff_get?.2
    ⟨entry.2, OrderedMap.get?_eq_some_iff.2 hentry, OrderedMap.get?_eq_some_iff.2 hplace⟩)

/-- The contributions of a row are contributions to its field, if the table is keyed. -/
lemma field_of_mem_rowContributions (ht : IsKeyed t) {entry : String × OrderedMap Comparator Group}
    (hentry : entry ∈ t.entries) {c : Contribution} (hc : c ∈ rowContributions entry.2) :
    c.field = entry.1 := by
  obtain ⟨g, hg, rfl⟩ := List.mem_map.1 hc
  obtain ⟨place, hplace, rfl⟩ := List.mem_map.1 hg
  exact (place_of_mem_entries ht hentry (List.mem_filter.1 hplace).1).1

lemma filter_contributionsOf_groups (ht : IsKeyed t) {row : OrderedMap Comparator Group}
    (hrow : t.get? field = some row) :
    (contributionsOf id t.groups).filter (fun c => c.field = field) = rowContributions row := by
  rw [contributionsOf_groups]
  exact filter_flatMap_of_mem t.nodup (fun _ => field_of_mem_rowContributions ht)
    (OrderedMap.get?_eq_some_iff.1 hrow)

/-- No two groups of a keyed table stand in the same place. -/
lemma pairwise_groups (ht : IsKeyed t) :
    t.groups.Pairwise fun g h => ¬(g.field = h.field ∧ g.comparator = h.comparator) := by
  have hkeys : ∀ {κ α : Type} (m : OrderedMap κ α),
      m.entries.Pairwise fun entry entry' => entry.1 ≠ entry'.1 :=
    fun m => List.pairwise_map.1 m.nodup
  rw [Table.groups, OrderedMap.values, List.flatMap_map, List.pairwise_flatMap]
  constructor
  · intro entry hentry
    rw [OrderedMap.values, List.pairwise_map]
    apply (hkeys entry.2).imp_of_mem
    rintro place place' hmem hmem' hne ⟨-, heq⟩
    rw [(place_of_mem_entries ht hentry hmem).2, (place_of_mem_entries ht hentry hmem').2] at heq
    exact hne heq
  · apply (hkeys t).imp_of_mem
    rintro entry entry' hentry hentry' hne g hg g' hg' ⟨heq, -⟩
    obtain ⟨place, hmem, rfl⟩ := List.mem_map.1 hg
    obtain ⟨place', hmem', rfl⟩ := List.mem_map.1 hg'
    rw [(place_of_mem_entries ht hentry hmem).1, (place_of_mem_entries ht hentry' hmem').1] at heq
    exact hne heq

lemma mem_contributionsOf {groups : List Group} {c : Contribution} :
    c ∈ contributionsOf id groups ↔ ∃ g ∈ groups, hasValues g = true ∧ wholeContribution g = c := by
  simp only [contributionsOf, List.mem_map, List.mem_filter, List.map_id, and_assoc]
  rfl

/-- What groups in different places contribute to the place of one of them is what this one holds. -/
lemma valuesOf_contributionsOf {groups : List Group}
    (hplaces : groups.Pairwise fun g h => ¬(g.field = h.field ∧ g.comparator = h.comparator))
    {g : Group} (hg : g ∈ groups) (hvalues : hasValues g = true) :
    valuesOf (contributionsOf id groups) g.field g.comparator = g.values.toList := by
  have hmem : wholeContribution g ∈ contributionsOf id groups :=
    mem_contributionsOf.2 ⟨g, hg, hvalues, rfl⟩
  have hcontributions : (contributionsOf id groups).Pairwise fun c d =>
      ¬(c.field = d.field ∧ c.comparator = d.comparator) := by
    rw [contributionsOf, List.pairwise_map]
    exact hplaces.filter _
  exact valuesOf_of_pairwise hcontributions hmem

/-- The table without what is empty is the merge of the contributions of its groups. -/
theorem isMerge_withoutEmpty (ht : IsKeyed t) :
    IsMerge (contributionsOf id t.groups) (withoutEmpty t) := by
  constructor
  · rw [contributionsOf_groups,
      eraseDups_map_flatMap t.nodup fun _ => field_of_mem_rowContributions ht]
    rw [OrderedMap.keys, withoutEmpty, OrderedMap.entries_filter, OrderedMap.entries_map,
      List.filter_map, List.map_map]
    simp only [rowContributions, OrderedMap.values, List.isEmpty_map]
    rfl
  · intro field byComparator hfield
    obtain ⟨row, hrow, rfl⟩ := get?_withoutEmpty hfield
    have hcomparators : (rowContributions row).map Contribution.comparator =
        (row.filter hasValues).keys := by
      rw [rowContributions, OrderedMap.values, List.map_map, List.map_map, OrderedMap.keys]
      apply List.map_congr_left
      intro place hplace
      exact (place_of_mem_entries ht (OrderedMap.get?_eq_some_iff.1 hrow)
        (List.mem_filter.1 hplace).1).2
    rw [filter_contributionsOf_groups ht hrow, hcomparators]
    exact (eraseDups_of_nodup (row.filter hasValues).nodup).symm
  · intro field comparator g hg
    exact ht field comparator g (group?_withoutEmpty hg).1
  · intro field comparator g hg
    obtain ⟨hg, hvalues⟩ := group?_withoutEmpty hg
    obtain ⟨hfield, hcomparator⟩ := ht field comparator g hg
    have hall := valuesOf_contributionsOf (pairwise_groups ht)
      (mem_groups_iff.2 ⟨field, comparator, hg⟩) hvalues
    rw [← hfield, ← hcomparator, hall, eraseDupsBy_toList]

end Rebuild

/-! ### Groups as filters -/

section Filters

variable {connective : Connective} {g : Group} {q : Filter}

lemma leaves_of_chain_leaves (hconnective : connective ≠ .not)
    (h : chain connective g.leaves = .ok q) : q.leaves connective = g.leaves := by
  obtain ⟨v, vs, hvalues, rfl⟩ := exists_chainFrom_of_chain hconnective h
  have hleaf : ∀ value, (g.leaf value).leaves connective = [g.leaf value] := fun _ => rfl
  rw [leaves_chainFrom, Group.leaves, hvalues, ← List.map_cons, List.flatMap_map]
  simp only [hleaf, ← List.map_eq_flatMap]

/-- The filter of a group contributes the group. -/
lemma contribution_of_chain_leaves (hconnective : connective ≠ .not)
    (h : chain connective g.leaves = .ok q) : q.contribution = .ok (wholeContribution g) := by
  have hleaves := leaves_of_chain_leaves hconnective h
  have hcompare : AllCompare g.field g.comparator (q.leaves connective) := by
    rw [hleaves]
    exact allCompare_map_leaf g g.values.toList
  rw [contribution_of_allCompare hconnective hcompare, hleaves, Group.leaves,
    flatMap_comparedValues_map_leaf, wholeContribution]

/-- Groups written as filters are collected to the table of their contributions. -/
lemma collect_of_filtersOfGroups (hconnective : connective ≠ .not) {groups : List Group}
    {filters : List Filter} (h : filtersOfGroups connective groups = .ok filters) :
    Table.collect none filters = .ok (tableOf (contributionsOf id groups)) := by
  apply collect_of_contributions
  rw [contributionsOf, List.forall₂_map_right_iff]
  apply (filtersOfGroups_eq_ok_iff.1 h).flip.imp
  intro q g hg
  rw [contribution_of_chain_leaves hconnective hg, wholeContribution, List.map_id]

end Filters

/-- A table whose groups stand under their own field and comparator, as in every table that was
collected, is rebuilt from its groups: written as filters, whose values are joined by `and` or `or`,
and collected again, they give the table without what is empty in it, with the same fields,
comparators and values in the same order. -/
theorem collect_filtersOfGroups {connective : Connective} (hconnective : connective ≠ .not) :
    (∀ allowed filters t, Table.collect allowed filters = .ok t → IsKeyed t) ∧
      ∀ t, IsKeyed t → ∃ filters, filtersOfGroups connective t.groups = .ok filters ∧
        Table.collect none filters = .ok (withoutEmpty t) := by
  constructor
  · intro allowed filters t ht
    obtain ⟨cs, -, rfl⟩ := collect_eq_ok_iff.1 ht
    exact (isMerge_tableOf cs).keyed
  · intro t ht
    obtain ⟨filters, hfilters⟩ := exists_filtersOfGroups hconnective t.groups
    refine ⟨filters, hfilters, ?_⟩
    rw [collect_of_filtersOfGroups hconnective hfilters, isMerge_iff.1 (isMerge_withoutEmpty ht)]

/-- A group of several values with a date, an empty list under a text that is no name, and one field
with two comparators of which one has no values. -/
def emptyListTable : Table :=
  tableOf [⟨"Since", .equal, [.date mixedDate, .null]⟩,
    ⟨"no name", .oneOf, []⟩, ⟨"Age", .anyRelated, []⟩,
    ⟨"Age", .greater, [.decimal decimalAge]⟩]

theorem collect_filtersOfGroups_emptyListTable :
    Connective.or ≠ .not ∧ IsKeyed emptyListTable ∧
      ∃ filters, filtersOfGroups .or emptyListTable.groups = .ok filters ∧
        Table.collect none filters = .ok (withoutEmpty emptyListTable) ∧
        (withoutEmpty emptyListTable).keys = ["Since", "Age"] := by
  have hkeyed : IsKeyed emptyListTable := (isMerge_tableOf _).keyed
  obtain ⟨filters, hfilters, hcollect⟩ :=
    (@collect_filtersOfGroups .or (by decide)).2 emptyListTable hkeyed
  exact ⟨by decide, hkeyed, filters, hfilters, hcollect, by decide +kernel⟩

end RecordFilter.Proofs
