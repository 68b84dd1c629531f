import Mathlib.Tactic.Common
import RecordFilter.Proofs.CanonicalText
import RecordFilter.Proofs.OrderedMerge

/-!
# Groups are read back from their text

Groups have a text exactly if the fields of those with values are names. Read and grouped again, the
text gives the merge of the groups (`IsMerge`): groups of one field and comparator are one, dates
have become strings, and of alike values the first is kept. At which connective the text is split
makes no difference, since a cluster contributes the same as a whole and leaf by leaf.
-/

namespace RecordFilter.Proofs
open RecordFilter.Text RecordFilter.Predicate

variable {outer inner connective : Connective}

/-- The filter is a chain of comparisons that contribute `c` together. -/
structure Compares (connective : Connective) (p : Filter) (c : Contribution) : Prop where
  allCompare : AllCompare c.field c.comparator (p.leaves connective)
  values : (p.leaves connective).flatMap comparedValues = c.values

lemma Compares.isAccepted {p : Filter} {c : Contribution} (h : Compares inner p c)
    (hinner : inner ≠ .not) : IsAccepted none p c := by
  have hgroupable := isGroupable_of_allCompare hinner h.allCompare
  rw [h.values] at hgroupable
  exact ⟨hgroupable, nofun⟩

/-- A chain of clusters is grouped as the table of their contributions. -/
lemma collect_chainFrom {p : Filter} {ps : List Filter} {cs : List Contribution}
    (houter : outer ≠ .not) (hinner : inner ≠ .not)
    (h : List.Forall₂ (Compares inner) (p :: ps) cs) :
    Table.collect none ((chainFrom outer p ps).leaves
      (Filter.rootConnective (chainFrom outer p ps))) = .ok (tableOf cs) := by
  have hleaves : (chainFrom outer p ps).leaves (Filter.rootConnective (chainFrom outer p ps)) =
      (p :: ps).flatMap fun q => q.leaves (Filter.rootConnective (chainFrom outer p ps)) := by
    cases ps with
    | nil => simp [chainFrom]
    | cons q ps =>
      have hroot : Filter.rootConnective (chainFrom outer p (q :: ps)) = outer := by
        cases outer with
        | not => exact absurd rfl houter
        | _ => rfl
      rw [hroot, leaves_chainFrom]
  have hfold : ∀ (connective : Connective) (filters : List Filter) (t : Table)
      (cs : List Contribution), List.Forall₂ (Compares inner) filters cs →
      (filters.flatMap fun q => q.leaves connective).foldlM (Table.collectOne none) t =
        .ok (cs.foldl Table.add t) := by
    intro connective filters t cs h
    induction h generalizing t with
    | nil => rfl
    | @cons q c filters cs hq _ ih =>
      rw [List.flatMap_cons, List.foldlM_append, foldlM_leaves_of_isAccepted (hq.isAccepted hinner)]
      exact ih (t.add c)
  rw [hleaves]
  exact hfold _ _ _ _ h

lemma reread_leaf (g : Group) (value : Scalar) :
    reread (g.leaf value) = g.leaf (rereadScalar value) := by
  rw [Group.leaf, Group.leaf, reread]
  split
  · rfl
  · next h => rw [rereadOperand, if_neg h]

lemma reread_chainFrom (p : Filter) (ps : List Filter) :
    reread (chainFrom connective p ps) = chainFrom connective (reread p) (ps.map reread) := by
  induction ps generalizing p with
  | nil => rfl
  | cons q ps ih => rw [chainFrom, reread, ih, List.map_cons, chainFrom]

lemma hasNested_chainFrom {p : Filter} {ps : List Filter}
    (h : ∀ q ∈ p :: ps, q.hasNested = false) :
    Filter.hasNested (chainFrom connective p ps) = false := by
  induction ps generalizing p with
  | nil => exact h p List.mem_cons_self
  | cons q ps ih =>
    obtain ⟨hp, hps⟩ := List.forall_mem_cons.1 h
    rw [chainFrom, Filter.hasNested, hp, ih hps, Bool.or_false]

lemma isPrintable_chainFrom (hconnective : connective ≠ .not) {p : Filter} {ps : List Filter} :
    isPrintable (chainFrom connective p ps) = true ↔ ∀ q ∈ p :: ps, isPrintable q = true := by
  induction ps generalizing p with
  | nil => simp [chainFrom]
  | cons q ps ih => simp [chainFrom, isPrintable, ih, hconnective]

lemma isPrintable_leaf (g : Group) (value : Scalar) :
    isPrintable (g.leaf value) = isFieldName g.field := by
  rw [Group.leaf, isPrintable]
  split
  · next h => simp [isPrintableOperand, h]
  · simp [isPrintableOperand]

section Cluster

variable {g : Group} {q : Filter}

lemma exists_chainFrom_of_chain (hinner : inner ≠ .not) (h : chain inner g.leaves = .ok q) :
    ∃ v vs, g.values.toList = v :: vs ∧ q = chainFrom inner (g.leaf v) (vs.map g.leaf) := by
  rw [Group.leaves] at h
  cases hvalues : g.values.toList with
  | nil =>
    rw [hvalues] at h
    cases h
  | cons v vs =>
    rw [hvalues, List.map_cons, chain_cons hinner] at h
    cases h
    exact ⟨v, vs, rfl, rfl⟩

lemma isPrintable_of_chain (hinner : inner ≠ .not) (h : chain inner g.leaves = .ok q) :
    isPrintable q = isFieldName g.field := by
  obtain ⟨v, vs, -, rfl⟩ := exists_chainFrom_of_chain hinner h
  rw [Bool.eq_iff_iff, isPrintable_chainFrom hinner, List.forall_mem_cons, isPrintable_leaf]
  refine and_iff_left_of_imp fun hfield leaf hleaf => ?_
  obtain ⟨value, -, rfl⟩ := List.mem_map.1 hleaf
  rw [isPrintable_leaf, hfield]

lemma hasNested_of_chain (hinner : inner ≠ .not) (h : chain inner g.leaves = .ok q) :
    q.hasNested = false := by
  obtain ⟨v, vs, -, rfl⟩ := exists_chainFrom_of_chain hinner h
  refine hasNested_chainFrom fun leaf hleaf => ?_
  rw [← List.map_cons, List.mem_map] at hleaf
  obtain ⟨value, -, rfl⟩ := hleaf
  rfl

/-- The filter of a group comes back as a cluster of its values. -/
lemma compares_reread (hinner : inner ≠ .not) (h : chain inner g.leaves = .ok q) :
    Compares inner (reread q) ⟨g.field, g.comparator, g.values.toList.map rereadScalar⟩ := by
  obtain ⟨v, vs, hvalues, rfl⟩ := exists_chainFrom_of_chain hinner h
  have hleaves : (reread (chainFrom inner (g.leaf v) (vs.map g.leaf))).leaves inner =
      (g.values.toList.map rereadScalar).map g.leaf := by
    rw [reread_chainFrom, leaves_chainFrom, ← List.map_cons, ← List.map_cons, ← hvalues,
      List.flatMap_map, List.flatMap_map, List.map_map, List.map_eq_flatMap]
    refine congrArg (List.flatMap · g.values.toList) (funext fun value => ?_)
    rw [reread_leaf]
    rfl
  constructor
  · rw [hleaves]
    exact allCompare_map_leaf g _
  · rw [hleaves]
    exact flatMap_comparedValues_map_leaf g _

end Cluster

/-- A scalar by its worth and its text, so that a number does not show of which kind it is. -/
abbrev ShownScalar := Worth × List Char

abbrev ShownGroup := String × Comparator × List ShownScalar

abbrev ShownTable := List (String × List (Comparator × ShownGroup))

def shownScalar (value : Scalar) : ShownScalar :=
  (value.worth, value.text)

def shownGroup (g : Group) : ShownGroup :=
  (g.field, g.comparator, g.values.toList.map shownScalar)

/-- The fields and comparators of a table in order, with what can be seen of the groups. -/
def shownTable (t : Table) : ShownTable :=
  t.entries.map fun (field, byComparator) =>
    (field, byComparator.entries.map fun (comparator, g) => (comparator, shownGroup g))

def insertShown (shown : List ShownScalar) (value : ShownScalar) : List ShownScalar :=
  if value.1 ∈ shown.map Prod.fst then shown else shown ++ [value]

lemma map_shownScalar_insertAll (s : ValueSet) (values : List Scalar) :
    (s.insertAll values).toList.map shownScalar =
      (values.map shownScalar).foldl insertShown (s.toList.map shownScalar) := by
  have hinsert : ∀ (s : ValueSet) (value : Scalar),
      insertShown (s.toList.map shownScalar) (shownScalar value) =
        (s.insert value).toList.map shownScalar := by
    intro s value
    have hcontains : s.contains value = true ↔
        (shownScalar value).1 ∈ (s.toList.map shownScalar).map Prod.fst := by
      rw [ValueSet.contains_iff]
      simp [shownScalar, eq_comm]
    rw [insertShown, toList_insert]
    simp only [← hcontains]
    split <;> simp
  rw [List.foldl_map]
  exact (List.foldl_hom (fun s : ValueSet => s.toList.map shownScalar) hinsert).symm

def shownContribution (c : Contribution) : ShownGroup :=
  (c.field, c.comparator, c.values.map shownScalar)

def addShown (shown : ShownTable) (c : ShownGroup) : ShownTable :=
  OrderedMap.updateEntries c.1 (fun byComparator =>
    OrderedMap.updateEntries c.2.1 (fun g =>
      let (field, comparator, values) := g.getD (c.1, c.2.1, [])
      (field, comparator, c.2.2.foldl insertShown values)) (byComparator.getD [])) shown

/-- What is seen of a table after a contribution depends on what was seen of both. -/
lemma shownTable_add (t : Table) (c : Contribution) :
    shownTable (t.add c) = addShown (shownTable t) (shownContribution c) := by
  rw [shownTable, Table.add, OrderedMap.update, addShown]
  refine OrderedMap.map_updateEntries c.field
    (h := fun m : OrderedMap Comparator Group => m.entries.map fun (k, g) => (k, shownGroup g))
    (fun byComparator => ?_) t.entries
  have hentries : ((byComparator.map fun m : OrderedMap Comparator Group =>
      m.entries.map fun (k, g) => (k, shownGroup g)).getD []) =
        (byComparator.getD .empty).entries.map fun (k, g) => (k, shownGroup g) := by
    cases byComparator <;> rfl
  rw [hentries]
  refine OrderedMap.map_updateEntries c.comparator (fun g => ?_) (byComparator.getD .empty).entries
  cases g with
  | none =>
    simp [shownGroup, Group.addAll, Group.empty, ValueSet.empty, shownContribution,
      map_shownScalar_insertAll]
  | some g => simp [shownGroup, Group.addAll, shownContribution, map_shownScalar_insertAll]

lemma shownTable_tableOf (cs : List Contribution) :
    shownTable (tableOf cs) = (cs.map shownContribution).foldl addShown [] := by
  rw [List.foldl_map]
  exact (List.foldl_hom shownTable fun t c => (shownTable_add t c).symm).symm

/-! ### Groups and their text -/

/-- What the groups with values contribute to a table, each value replaced by `f`. -/
def contributionsOf (f : Scalar → Scalar) (groups : List Group) : List Contribution :=
  (groups.filter fun g => !g.values.toList.isEmpty).map fun g =>
    ⟨g.field, g.comparator, g.values.toList.map f⟩

/-- What is read back looks the same as what was written, with dates as strings. -/
lemma shownTable_contributionsOf (groups : List Group) :
    shownTable (tableOf (contributionsOf rereadScalar groups)) =
      shownTable (tableOf (contributionsOf Scalar.asPrinted groups)) := by
  have hvalue : ∀ value, shownScalar (rereadScalar value) = shownScalar value.asPrinted := by
    intro value
    rw [shownScalar, shownScalar, worth_rereadScalar, text_rereadScalar, Scalar.text_asPrinted]
  rw [shownTable_tableOf, shownTable_tableOf, contributionsOf, contributionsOf]
  simp only [List.map_map, Function.comp_def, shownContribution, hvalue]

section Text

variable {groups : List Group}

lemma textOfGroups_of_filters {q : Filter} {qs : List Filter} (houter : outer ≠ .not)
    (h : filtersOfGroups inner groups = .ok (q :: qs)) :
    textOfGroups outer inner groups = Filter.text (chainFrom outer q qs) := by
  rw [textOfGroups, h]
  show ((chain outer (q :: qs)) >>= Filter.text) = _
  rw [chain_cons houter]
  rfl

lemma textOfGroups_of_nil (h : filtersOfGroups inner groups = .ok []) :
    textOfGroups outer inner groups = .ok "" := by
  rw [textOfGroups, h]
  rfl

/-- The chains of groups can be printed exactly if the fields of the groups are names. -/
lemma forall_isPrintable_iff (hinner : inner ≠ .not) {filters : List Filter}
    (h : List.Forall₂ (fun g q => chain inner (Group.leaves g) = .ok q) groups filters) :
    (∀ q ∈ filters, isPrintable q = true) ↔ ∀ g ∈ groups, isFieldName g.field = true := by
  induction h with
  | nil => simp
  | cons hchain _ ih =>
    rw [List.forall_mem_cons, List.forall_mem_cons, ih, isPrintable_of_chain hinner hchain]

/-- The text of groups is read as the table of the groups, with the values that their texts
denote. -/
lemma ofText_of_textOfGroups (houter : outer ≠ .not) (hinner : inner ≠ .not) {s : String}
    (h : textOfGroups outer inner groups = .ok s) (policy : Policy) :
    Table.ofText policy none s = .ok (tableOf (contributionsOf rereadScalar groups)) := by
  obtain ⟨filters, hfilters⟩ := exists_filtersOfGroups hinner groups
  have hchains := filtersOfGroups_eq_ok_iff.1 hfilters
  cases filters with
  | nil =>
    rw [textOfGroups_of_nil hfilters] at h
    cases h
    rw [contributionsOf, List.forall₂_nil_right_iff.1 hchains]
    rfl
  | cons q qs =>
    rw [textOfGroups_of_filters houter hfilters] at h
    obtain ⟨chars, hrender, rfl⟩ := map_eq_ok_iff.1 h
    have hnested : Filter.hasNested (chainFrom outer q qs) = false := by
      refine hasNested_chainFrom fun filter hfilter => ?_
      obtain ⟨g, -, hg⟩ := exists_of_forall₂_of_mem hchains hfilter
      exact hasNested_of_chain hinner hg
    have hread := ofText_of_render hrender hnested policy
    rw [reread_chainFrom] at hread
    have hclusters : List.Forall₂ (Compares inner) (reread q :: qs.map reread)
        (contributionsOf rereadScalar groups) := by
      rw [← List.map_cons, contributionsOf, List.forall₂_map_left_iff, List.forall₂_map_right_iff]
      exact (hchains.imp fun _ _ hg => compares_reread hinner hg).flip
    have hblank := (ofText_eq_ok_iff.1 hread).1
    rw [Table.ofText, if_neg hblank, hread]
    exact collect_chainFrom houter hinner hclusters

/-- Groups whose fields are names have a text. -/
lemma exists_textOfGroups (houter : outer ≠ .not) (hinner : inner ≠ .not)
    (h : ∀ g ∈ groups, isFieldName g.field = true) :
    ∃ s, textOfGroups outer inner groups = .ok s := by
  obtain ⟨filters, hfilters⟩ := exists_filtersOfGroups hinner groups
  cases filters with
  | nil => exact ⟨"", textOfGroups_of_nil hfilters⟩
  | cons q qs =>
    have hprintable : ∀ p ∈ q :: qs, isPrintable p = true := by
      apply (forall_isPrintable_iff hinner (filtersOfGroups_eq_ok_iff.1 hfilters)).2
      intro g hg
      exact h g (List.mem_filter.1 hg).1
    obtain ⟨chars, hchars⟩ := exists_render_iff.2 ((isPrintable_chainFrom houter).2 hprintable)
    refine ⟨String.ofList chars, ?_⟩
    rw [textOfGroups_of_filters houter hfilters, Filter.text, hchars]
    rfl

end Text

/-- Groups survive the trip through filter text. They have a text exactly if the fields of those
with values are names; and grouping the text again, under either policy, gives the merge of the
groups with values, with the values that their texts denote: fields and comparators stand in the
order in which they first occur, and a group holds the values of all groups of its field and
comparator in order, each without those that are alike to an earlier one. This is the merge of the
groups with each date as the string of its instant: fields, comparators and values stand in the same
order, and each value is alike and spelled alike. -/
theorem ofText_textOfGroups (houter : outer ≠ .not) (hinner : inner ≠ .not)
    (groups : List Group) :
    ((∃ s, textOfGroups outer inner groups = .ok s) ↔
      ∀ g ∈ groups, g.values.toList ≠ [] → isFieldName g.field = true) ∧
    ∀ s, textOfGroups outer inner groups = .ok s → ∀ policy, ∃ t,
      Table.ofText policy none s = .ok t ∧ IsMerge (contributionsOf rereadScalar groups) t ∧
        ∃ t', IsMerge (contributionsOf Scalar.asPrinted groups) t' ∧
          shownTable t = shownTable t' := by
  constructor
  · obtain ⟨filters, hfilters⟩ := exists_filtersOfGroups hinner groups
    have hchains := filtersOfGroups_eq_ok_iff.1 hfilters
    have hgroups : (∀ g ∈ groups, g.values.toList ≠ [] → isFieldName g.field = true) ↔
        ∀ q ∈ filters, isPrintable q = true := by
      rw [forall_isPrintable_iff hinner hchains]
      simp [and_imp]
    rw [hgroups]
    cases filters with
    | nil => simp [textOfGroups_of_nil hfilters]
    | cons q qs =>
      rw [textOfGroups_of_filters houter hfilters, ← isPrintable_chainFrom houter,
        ← exists_render_iff]
      simp [Filter.text, map_eq_ok_iff]
  · intro s h policy
    exact ⟨_, ofText_of_textOfGroups houter hinner h policy, isMerge_tableOf _, _,
      isMerge_tableOf _, shownTable_contributionsOf groups⟩

/-- Two groups of one field and comparator with alike values, one with a date, and one that has no
values and no name for a field. -/
def mixedGroups : List Group :=
  [⟨"Age", .equal, .ofList [.integer 30, .integer 40]⟩,
    ⟨"Since", .oneOf, .ofList [.date ⟨2021, 3, 4, by decide, by decide⟩]⟩,
    ⟨"no name", .equal, .empty⟩,
    ⟨"Age", .equal, .ofList [.decimal ⟨3000, 2, by decide, by decide⟩, .null]⟩]

/-- The date among these groups. -/
def mixedDate : Calendar.Date :=
  ⟨2021, 3, 4, by decide, by decide⟩

/-- The values of the second group of `Age` come after those of the first, without the one that is
spelled differently there. -/
theorem ofText_textOfGroups_mixedGroups :
    (∀ g ∈ mixedGroups, g.values.toList ≠ [] → isFieldName g.field = true) ∧
      ∃ s t, textOfGroups .and .or mixedGroups = .ok s ∧ Table.ofText .strict none s = .ok t ∧
        t.groups.map (fun g => (g.field, g.comparator, g.values.toList)) =
          [("Age", .equal, [.integer 30, .integer 40, .null]),
            ("Since", .oneOf, [.string "2021-03-04T00:00:00.000Z"])] := by
  have hfields : ∀ g ∈ mixedGroups, g.values.toList ≠ [] → isFieldName g.field = true := by
    decide +kernel
  obtain ⟨hiff, hread⟩ := @ofText_textOfGroups .and .or (by decide) (by decide) mixedGroups
  obtain ⟨s, hs⟩ := hiff.2 hfields
  obtain ⟨t, ht, hmerge, -⟩ := hread s hs .strict
  refine ⟨hfields, s, t, hs, ht, ?_⟩
  rw [← isMerge_iff.1 hmerge]
  decide +kernel

end RecordFilter.Proofs
