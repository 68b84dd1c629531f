import Mathlib.Data.List.Perm.Subperm
import Mathlib.Tactic.Common
import RecordFilter.Proofs.OrderedMerge

/-!
# What a collection does not depend on

A table depends on its contributions only: in another order they make a table that is alike, with
the same groups of alike values, and what is contributed a second time changes nothing. It does not
matter either whether a cluster is collected as a whole or leaf by leaf, since its values end up in
one group in both cases.
-/

namespace RecordFilter.Proofs
open RecordFilter.Filter

lemma length_eq_and_subset_iff {α : Type} {xs ys : List α} (hxs : xs.Nodup) (hys : ys.Nodup) :
    xs.length = ys.length ∧ xs ⊆ ys ↔ ∀ x, x ∈ xs ↔ x ∈ ys := by
  constructor
  · rintro ⟨hlength, hsubset⟩ x
    have hperm : xs.Perm ys :=
      (List.subperm_of_subset hxs hsubset).perm_of_length_le (Nat.le_of_eq hlength.symm)
    exact hperm.mem_iff
  · intro h
    have hperm : xs.Perm ys := (List.perm_ext_iff_of_nodup hxs hys).2 h
    exact ⟨hperm.length_eq, hperm.subset⟩

lemma sameEntries_iff {κ α : Type} [DecidableEq κ] {m m' : OrderedMap κ α}
    {same : α → α → Bool} :
    m.sameEntries m' same = true ↔ (∀ key, key ∈ m.keys ↔ key ∈ m'.keys) ∧
      ∀ key a a', m.get? key = some a → m'.get? key = some a' → same a a' = true := by
  have hlength : m.entries.length = m'.entries.length ↔ m.keys.length = m'.keys.length := by
    rw [OrderedMap.keys, OrderedMap.keys, List.length_map, List.length_map]
  have hentries : (m.entries.all fun entry => (m'.get? entry.1).any (same entry.2)) = true ↔
      ∀ key a, m.get? key = some a → ∃ a', m'.get? key = some a' ∧ same a a' = true := by
    simp only [List.all_eq_true, Prod.forall, OrderedMap.get?_eq_some_iff, Option.any_eq_true]
  have hkeys : m.keys.length = m'.keys.length ∧ m.keys ⊆ m'.keys ↔
      ∀ key, key ∈ m.keys ↔ key ∈ m'.keys := length_eq_and_subset_iff m.nodup m'.nodup
  rw [OrderedMap.sameEntries, Bool.and_eq_true, beq_iff_eq, hlength, hentries, ← hkeys]
  constructor
  · rintro ⟨hlength, hentries⟩
    refine ⟨⟨hlength, fun key hkey => ?_⟩, fun key a a' ha ha' => ?_⟩
    · obtain ⟨a, ha⟩ := OrderedMap.mem_keys_iff.1 hkey
      obtain ⟨a', ha', -⟩ := hentries key a ha
      exact OrderedMap.mem_keys_iff.2 ⟨a', ha'⟩
    · obtain ⟨b, hb, hsame⟩ := hentries key a ha
      rw [ha'] at hb
      rw [Option.some.inj hb]
      exact hsame
  · rintro ⟨⟨hlength, hsubset⟩, hvalues⟩
    refine ⟨hlength, fun key a ha => ?_⟩
    obtain ⟨a', ha'⟩ := OrderedMap.mem_keys_iff.1 (hsubset (OrderedMap.mem_keys_iff.2 ⟨a, ha⟩))
    exact ⟨a', ha', hvalues key a a' ha ha'⟩

lemma contains_iff_worth_mem {s : ValueSet} {value : Scalar} :
    s.contains value = true ↔ value.worth ∈ s.toList.map Scalar.worth := by
  rw [ValueSet.contains_iff, List.mem_map]
  exact exists_congr fun a => and_congr_right fun _ => eq_comm

lemma sameMembers_iff {s t : ValueSet} :
    s.sameMembers t = true ↔ ∀ value, s.contains value = true ↔ t.contains value = true := by
  have hnodup : ∀ u : ValueSet, (u.toList.map Scalar.worth).Nodup :=
    fun u => List.pairwise_map.2 u.distinct
  have hsubset : s.toList.all t.contains = true ↔
      s.toList.map Scalar.worth ⊆ t.toList.map Scalar.worth := by
    simp [contains_iff_worth_mem, List.subset_def]
  have hworths : (∀ value, s.contains value = true ↔ t.contains value = true) ↔
      ∀ w, w ∈ s.toList.map Scalar.worth ↔ w ∈ t.toList.map Scalar.worth := by
    simp only [contains_iff_worth_mem]
    constructor
    · -- only the worth of a scalar is in the set, so `w` may be taken to be one
      intro h w
      constructor
      · intro hw
        obtain ⟨a, -, rfl⟩ := List.mem_map.1 hw
        exact (h a).1 hw
      · intro hw
        obtain ⟨a, -, rfl⟩ := List.mem_map.1 hw
        exact (h a).2 hw
    · exact fun h value => h value.worth
  rw [hworths, ← length_eq_and_subset_iff (hnodup s) (hnodup t), ValueSet.sameMembers,
    Bool.and_eq_true, beq_iff_eq, hsubset, List.length_map, List.length_map]

section Merges

variable {cs ds : List Contribution} {t t' : Table} {field : String} {comparator : Comparator}

lemma eraseDups_append_of_subset {α : Type} [BEq α] [LawfulBEq α] {xs ys : List α} (h : ys ⊆ xs) :
    (xs ++ ys).eraseDups = xs.eraseDups := by
  have hnone : ys.removeAll xs = [] := by
    rw [List.removeAll, List.filter_eq_nil_iff]
    intro y hy
    simp [h hy]
  rw [List.eraseDups_append, hnone, List.eraseDups_nil, List.append_nil]

lemma eraseDupsBy_append_of_subset {xs ys : List Scalar} (h : ys ⊆ xs) :
    (xs ++ ys).eraseDupsBy Scalar.isAlike = xs.eraseDupsBy Scalar.isAlike := by
  have hnone : (ys.filter fun v => !(ValueSet.ofList xs).contains v) = [] := by
    rw [List.filter_eq_nil_iff]
    intro v hv
    simp [contains_ofList_iff.2 ⟨v, h hv, rfl⟩]
  rw [← toList_ofList, ValueSet.ofList, insertAll_append, ← ValueSet.ofList, toList_insertAll,
    hnone, toList_ofList, List.eraseDupsBy_nil, List.append_nil]

namespace IsMerge

lemma mem_keys_iff (h : IsMerge cs t) : field ∈ t.keys ↔ ∃ c ∈ cs, c.field = field := by
  rw [h.keys, List.mem_eraseDups, List.mem_map]

lemma mem_comparators_iff (h : IsMerge cs t) {row : OrderedMap Comparator Group}
    (hrow : t.get? field = some row) :
    comparator ∈ row.keys ↔ ∃ c ∈ cs, c.field = field ∧ c.comparator = comparator := by
  simp [h.comparators field row hrow, and_assoc]

lemma contains_iff (h : IsMerge cs t) {g : Group} (hg : group? t field comparator = some g)
    {value : Scalar} : g.values.contains value = true ↔
      ∃ v ∈ valuesOf cs field comparator, value.worth = v.worth := by
  have hvalues : g.values.toList = (ValueSet.ofList (valuesOf cs field comparator)).toList := by
    rw [h.values field comparator g hg, toList_ofList]
  rw [← contains_ofList_iff, ValueSet.contains, ValueSet.contains, hvalues]

/-- Neither the order nor the repetition of contributions counts for what is in their merge. -/
theorem isAlike (h : IsMerge cs t) (h' : IsMerge ds t') (hmem : ∀ c, c ∈ cs ↔ c ∈ ds) :
    t.isAlike t' = true := by
  refine sameEntries_iff.2 ⟨fun field => ?_, fun field row row' hrow hrow' => ?_⟩
  · simp only [h.mem_keys_iff, h'.mem_keys_iff, hmem]
  refine sameEntries_iff.2 ⟨fun comparator => ?_, fun comparator g g' hg hg' => ?_⟩
  · simp only [h.mem_comparators_iff hrow, h'.mem_comparators_iff hrow', hmem]
  have hgroup : group? t field comparator = some g := group?_eq_some_iff_get?.2 ⟨row, hrow, hg⟩
  have hgroup' : group? t' field comparator = some g' :=
    group?_eq_some_iff_get?.2 ⟨row', hrow', hg'⟩
  obtain ⟨hfield, hcomparator⟩ := h.keyed _ _ _ hgroup
  obtain ⟨hfield', hcomparator'⟩ := h'.keyed _ _ _ hgroup'
  have hvalues : g.values.sameMembers g'.values = true := by
    rw [sameMembers_iff]
    intro value
    simp only [h.contains_iff hgroup, h'.contains_iff hgroup', mem_valuesOf_iff, hmem]
  simp [Group.isAlike, hfield, hfield', hcomparator, hcomparator', hvalues]

/-- What has been contributed already changes nothing. -/
theorem append_of_subset (h : IsMerge cs t) (hsubset : ds ⊆ cs) : IsMerge (cs ++ ds) t := by
  constructor
  · rw [List.map_append, eraseDups_append_of_subset (List.map_subset _ hsubset)]
    exact h.keys
  · intro field row hrow
    rw [List.filter_append, List.map_append, eraseDups_append_of_subset]
    · exact h.comparators field row hrow
    · exact List.map_subset _ (List.filter_subset _ hsubset)
  · exact h.keyed
  · intro field comparator g hg
    rw [valuesOf, List.flatMap_append, ← valuesOf, ← valuesOf, eraseDupsBy_append_of_subset]
    · exact h.values field comparator g hg
    · intro value hvalue
      rw [mem_valuesOf_iff] at hvalue ⊢
      obtain ⟨c, hc, hkeys⟩ := hvalue
      exact ⟨c, hsubset hc, hkeys⟩

end IsMerge

end Merges

section Collecting

variable {allowed : Option (List String)} {filters others : List Filter} {t : Table}

lemma collect_of_perm (hperm : filters.Perm others) (ht : Table.collect allowed filters = .ok t) :
    ∃ t', Table.collect allowed others = .ok t' ∧ t.isAlike t' = true := by
  obtain ⟨cs, hcs, rfl⟩ := collect_eq_ok_iff.1 ht
  obtain ⟨ds, hds, hcontributions⟩ := List.perm_comp_forall₂ hperm.symm hcs
  refine ⟨tableOf ds, collect_of_isAccepted hds, ?_⟩
  exact (isMerge_tableOf cs).isAlike (isMerge_tableOf ds) fun c => hcontributions.symm.mem_iff

lemma collect_append_self (allowed : Option (List String)) (filters : List Filter) :
    Table.collect allowed (filters ++ filters) = Table.collect allowed filters := by
  cases hcollect : Table.collect allowed filters with
  | ok t =>
    obtain ⟨cs, hcs, rfl⟩ := collect_eq_ok_iff.1 hcollect
    rw [collect_of_isAccepted (List.rel_append hcs hcs)]
    have hmerge : IsMerge (cs ++ cs) (tableOf cs) :=
      (isMerge_tableOf cs).append_of_subset (List.Subset.refl cs)
    rw [isMerge_iff.1 hmerge]
  | error e =>
    -- the filter that offends first does so before the second copy is reached
    obtain ⟨before, p, after, hfilters, hbefore, hp⟩ := collect_eq_error_iff.1 hcollect
    refine collect_eq_error_iff.2 ⟨before, p, after ++ filters, ?_, hbefore, hp⟩
    nth_rewrite 1 [hfilters]
    rw [List.append_assoc, List.cons_append]

end Collecting

/-- Filters are collected in any order or in none, and to tables that are alike, and collecting them
twice over comes to the same as collecting them once, down to the order in the table and the
spelling of its values. -/
theorem collect_reordered_repeated (allowed : Option (List String)) (filters : List Filter) :
    (∀ others, filters.Perm others →
      ((∃ t, Table.collect allowed others = .ok t) ↔ ∃ t, Table.collect allowed filters = .ok t) ∧
      ∀ t t', Table.collect allowed filters = .ok t → Table.collect allowed others = .ok t' →
        t.isAlike t' = true) ∧
    Table.collect allowed (filters ++ filters) = Table.collect allowed filters := by
  refine ⟨fun others hperm => ⟨⟨?_, ?_⟩, fun t t' ht ht' => ?_⟩, collect_append_self allowed filters⟩
  · rintro ⟨t', ht'⟩
    obtain ⟨t, ht, -⟩ := collect_of_perm hperm.symm ht'
    exact ⟨t, ht⟩
  · rintro ⟨t, ht⟩
    obtain ⟨t', ht', -⟩ := collect_of_perm hperm ht
    exact ⟨t', ht'⟩
  · obtain ⟨t'', ht'', halike⟩ := collect_of_perm hperm ht
    rw [ht'] at ht''
    rw [Except.ok.inj ht'']
    exact halike

/-- One age in two spellings, one of them in a cluster, and a name. -/
def agesThenName : List Filter :=
  [.comparison "Age" .equal (.single (.integer 30)),
    .joined .or (.comparison "Age" .equal (.single (.decimal ⟨30000, 3, by decide, by decide⟩)))
      (.comparison "Age" .equal (.single (.integer 41))),
    .comparison "Name" .equal (.single (.string "Ada"))]

theorem collect_reordered_repeated_agesThenName :
    agesThenName.Perm agesThenName.reverse ∧
    (∃ t t', Table.collect (some ["Name", "Age"]) agesThenName = .ok t ∧
      Table.collect (some ["Name", "Age"]) agesThenName.reverse = .ok t' ∧
      t ≠ t' ∧ t.isAlike t' = true) ∧
    Table.collect (some ["Name", "Age"]) (agesThenName ++ agesThenName) =
      Table.collect (some ["Name", "Age"]) agesThenName := by
  obtain ⟨horder, hrepeated⟩ := collect_reordered_repeated (some ["Name", "Age"]) agesThenName
  have hperm : agesThenName.Perm agesThenName.reverse := (List.reverse_perm _).symm
  refine ⟨hperm, ⟨_, _, rfl, rfl, ?_, (horder _ hperm).2 _ _ rfl rfl⟩, hrepeated⟩
  decide +kernel

/-! ### Clusters as a whole and leaf by leaf -/

/-- Of some of the filters that are joined by `and` or `or` the leaves stand in their place. -/
inductive IsUnfolding : List Filter → List Filter → Prop
  | nil : IsUnfolding [] []
  | keep {filters unfolded : List Filter} (p : Filter) (h : IsUnfolding filters unfolded) :
      IsUnfolding (p :: filters) (p :: unfolded)
  | unfold {connective : Connective} {filters unfolded : List Filter}
      (hconnective : connective ≠ .not) (left right : Filter) (h : IsUnfolding filters unfolded) :
      IsUnfolding (.joined connective left right :: filters)
        ((Predicate.joined connective left right).leaves connective ++ unfolded)

section Unfolding

variable {allowed : Option (List String)} {filters unfolded : List Filter}

/-- From every table on, unfolded filters add what the filters contribute. -/
lemma foldlM_of_isUnfolding (h : IsUnfolding filters unfolded) {cs : List Contribution}
    (hcs : List.Forall₂ (IsAccepted allowed) filters cs) (t : Table) :
    unfolded.foldlM (Table.collectOne allowed) t = .ok (cs.foldl Table.add t) := by
  induction h generalizing cs t with
  | nil =>
    cases hcs
    rfl
  | keep p _ ih =>
    obtain _ | ⟨hp, hrest⟩ := hcs
    rw [List.foldlM_cons, collectOne_of_isAccepted hp]
    exact ih hrest _
  | @unfold connective _ _ _ left right _ ih =>
    obtain _ | ⟨hp, hrest⟩ := hcs
    rw [List.foldlM_append, foldlM_leaves_of_isAccepted hp connective]
    exact ih hrest _

/-- Filters that are collected to a table are collected to the same table, with the same order and
the same spelling of values, after any of those that are joined by `and` or `or` have been replaced
by their leaves. -/
theorem collect_unfolded {t : Table} (hunfolding : IsUnfolding filters unfolded)
    (ht : Table.collect allowed filters = .ok t) : Table.collect allowed unfolded = .ok t := by
  obtain ⟨cs, hcs, rfl⟩ := collect_eq_ok_iff.1 ht
  exact foldlM_of_isUnfolding hunfolding hcs .empty

end Unfolding

/-- A cluster that leans both ways, with an empty list, a repeated value and a number in two
spellings among its leaves. -/
def agesCluster : Filter :=
  .joined .or
    (.joined .or (.comparison "Age" .oneOf (.list []))
      (.comparison "Age" .oneOf (.list [.decimal ⟨30000, 3, by decide, by decide⟩, .integer 30])))
    (.joined .or (.comparison "Age" .oneOf (.single (.integer 42)))
      (.comparison "Age" .oneOf (.list [.integer 42])))

/-- The filters with a comparison before them and one after them. -/
def amongComparisons (filters : List Filter) : List Filter :=
  .comparison "Name" .equal (.single (.string "Ada")) :: filters ++
    [.comparison "Age" .oneOf (.list [.integer 30, .integer 41])]

theorem collect_unfolded_agesCluster :
    IsUnfolding (amongComparisons [agesCluster]) (amongComparisons (agesCluster.leaves .or)) ∧
    ∃ t, Table.collect (some ["Age", "Name"]) (amongComparisons [agesCluster]) = .ok t ∧
      Table.collect (some ["Age", "Name"]) (amongComparisons (agesCluster.leaves .or)) = .ok t := by
  have hunfolding : IsUnfolding (amongComparisons [agesCluster])
      (amongComparisons (agesCluster.leaves .or)) :=
    .keep _ (.unfold (by decide) _ _ (.keep _ .nil))
  exact ⟨hunfolding, _, rfl, collect_unfolded hunfolding rfl⟩

end RecordFilter.Proofs
