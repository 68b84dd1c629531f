import Mathlib.Tactic.Common
import RecordFilter.Proofs.OrderedMerge

/-!
# Grouping keeps the meaning

A filter whose leaves are clusters is collected into a table and written back as one filter for each
group. The order of the leaves, how the chains lean and which of several alike values is kept are
lost on the way, but none of them bears on the truth of a chain. Clusters of one field and
comparator end up in one group, which is sound if no two clusters share both, or if clusters and
filter are joined by the same connective.
-/

namespace RecordFilter.Proofs

/-- The truth of comparisons, given for each field, comparator and value. -/
def holdsByValue (holds : String → Comparator → Scalar → Bool) : Filter → Bool
  | .comparison field comparator operand =>
    match operand.values with
    | [value] => holds field comparator value
    | _ => false
  | _ => false

/-- Split at the connective, all parts of the filter compare the field by the comparator with one
value. A comparison with one value is a cluster whatever the connective, since it is its only
part. -/
def IsCluster (connective : Connective) (field : String) (comparator : Comparator) (p : Filter) :
    Prop :=
  ∀ part ∈ p.leaves connective, ∃ operand value,
    part = .comparison field comparator operand ∧ operand.values = [value]

variable {outer inner connective : Connective} {holds : String → Comparator → Scalar → Bool}

namespace IsCluster

variable {field : String} {comparator : Comparator} {p : Filter}

lemma allCompare (h : IsCluster connective field comparator p) :
    AllCompare field comparator (p.leaves connective) := by
  intro part hpart
  obtain ⟨operand, value, rfl, -⟩ := h part hpart
  exact ⟨operand, rfl⟩

/-- The parts of a cluster settle its field and comparator. -/
lemma eq_of_mem (h : IsCluster connective field comparator p) {field' : String}
    {comparator' : Comparator} {operand : Operand Scalar}
    (hmem : .comparison field' comparator' operand ∈ p.leaves connective) :
    field' = field ∧ comparator' = comparator := by
  obtain ⟨_, _, heq, -⟩ := h _ hmem
  cases heq
  exact ⟨rfl, rfl⟩

lemma comparedValues_ne_nil (h : IsCluster connective field comparator p) :
    (p.leaves connective).flatMap comparedValues ≠ [] := by
  obtain ⟨part, hpart⟩ := List.exists_mem_of_ne_nil _ (p.leaves_ne_nil connective)
  obtain ⟨operand, value, rfl, hvalue⟩ := h part hpart
  have hmem : value ∈ (p.leaves connective).flatMap comparedValues :=
    List.mem_flatMap.2 ⟨_, hpart, by simp [comparedValues, hvalue]⟩
  exact List.ne_nil_of_mem hmem

/-- A cluster is as true as its values together. -/
lemma truth? (hconnective : connective ≠ .not) (h : IsCluster connective field comparator p) :
    p.truth? (holdsByValue holds) = some (joins connective
      (((p.leaves connective).flatMap comparedValues).map (holds field comparator))) := by
  have hparts : ∀ parts : List Filter,
      (∀ part ∈ parts, ∃ operand value,
        part = .comparison field comparator operand ∧ operand.values = [value]) →
      List.Forall₂ (fun part b => part.truth? (holdsByValue holds) = some b) parts
        ((parts.flatMap comparedValues).map (holds field comparator)) := by
    intro parts hparts
    induction parts with
    | nil => exact .nil
    | cons part parts ih =>
      obtain ⟨operand, value, rfl, hvalue⟩ := hparts part List.mem_cons_self
      have hrest := ih fun part hpart => hparts part (List.mem_cons_of_mem _ hpart)
      have htruth : (Predicate.comparison field comparator operand).truth? (holdsByValue holds) =
          some (holds field comparator value) := by
        simp only [Predicate.truth?, holdsByValue, hvalue]
      rw [List.flatMap_cons, comparedValues, hvalue]
      exact .cons htruth hrest
  exact truth?_of_leaves hconnective (hparts _ h)

end IsCluster

/-- What a contribution says of a record: its values, joined. -/
def contributionTruth (holds : String → Comparator → Scalar → Bool) (connective : Connective)
    (c : Contribution) : Bool :=
  joins connective (c.values.map (holds c.field c.comparator))

/-- What a group says of a record: its values, joined. -/
def groupTruth (holds : String → Comparator → Scalar → Bool) (connective : Connective)
    (g : Group) : Bool :=
  joins connective (g.values.toList.map (holds g.field g.comparator))

/-- The filter of a group is as true as its values together. -/
lemma truth?_of_chain_leaves (hconnective : connective ≠ .not) {g : Group} {q : Filter}
    (h : Predicate.chain connective g.leaves = .ok q) :
    q.truth? (holdsByValue holds) = some (groupTruth holds connective g) := by
  have hleaf : ∀ value, (g.leaf value).truth? (holdsByValue holds) =
      some (holds g.field g.comparator value) := by
    intro value
    obtain ⟨operand, hleaf, hvalue⟩ := exists_leaf_eq g value
    simp only [hleaf, Predicate.truth?, holdsByValue, hvalue]
  have hleaves : List.Forall₂ (fun leaf b => leaf.truth? (holdsByValue holds) = some b) g.leaves
      (g.values.toList.map (holds g.field g.comparator)) := by
    rw [Group.leaves, List.forall₂_map_left_iff, List.forall₂_map_right_iff, List.forall₂_same]
    exact fun value _ => hleaf value
  cases hcases : g.leaves with
  | nil =>
    rw [hcases] at h
    cases h
  | cons leaf leaves =>
    rw [hcases, chain_cons hconnective] at h
    cases h
    rw [hcases] at hleaves
    exact truth?_chainFrom hconnective hleaves

section Alike

variable (halike : ∀ field comparator a b, Scalar.isAlike a b = true →
  holds field comparator a = holds field comparator b)

include halike

/-- The set of values holds as much as the values that were put into it. -/
lemma mem_map_ofList {field : String} {comparator : Comparator} {values : List Scalar} {b : Bool} :
    b ∈ (ValueSet.ofList values).toList.map (holds field comparator) ↔
      b ∈ values.map (holds field comparator) := by
  rw [List.mem_map, List.mem_map]
  constructor
  · rintro ⟨v, hv, rfl⟩
    exact ⟨v, mem_of_mem_ofList hv, rfl⟩
  · rintro ⟨v, hv, rfl⟩
    have hcontains := contains_ofList_iff.2 ⟨v, hv, rfl⟩
    obtain ⟨a, ha, hworth⟩ := ValueSet.contains_iff.1 hcontains
    exact ⟨a, ha, halike _ _ _ _ (Scalar.isAlike_iff.2 hworth.symm)⟩

/-- If all is joined by one connective, a table says what its contributions say. -/
lemma joins_groups_of_eq (cs : List Contribution) :
    joins connective ((tableOf cs).groups.map (groupTruth holds connective)) =
      joins connective (cs.map (contributionTruth holds connective)) := by
  have hgroups := joins_flatMap connective
    (fun g : Group => g.values.toList.map (holds g.field g.comparator)) (tableOf cs).groups
  have hcs := joins_flatMap connective
    (fun c : Contribution => c.values.map (holds c.field c.comparator)) cs
  refine (hgroups.symm.trans (joins_congr connective fun b => ?_)).trans hcs
  rw [List.mem_flatMap, List.mem_flatMap]
  constructor
  · rintro ⟨g, hg, hb⟩
    obtain ⟨c, -, rfl⟩ := mem_groups_tableOf.1 hg
    obtain ⟨v, hv, rfl⟩ := List.mem_map.1 ((mem_map_ofList halike).1 hb)
    obtain ⟨d, hd, ⟨hfield, hcomparator⟩, hvalue⟩ := mem_valuesOf_iff.1 hv
    exact ⟨d, hd, List.mem_map.2 ⟨v, hvalue, by rw [hfield, hcomparator]⟩⟩
  · rintro ⟨c, hc, hb⟩
    obtain ⟨v, hv, rfl⟩ := List.mem_map.1 hb
    refine ⟨_, mem_groups_tableOf.2 ⟨c, hc, rfl⟩, (mem_map_ofList halike).2 ?_⟩
    exact List.mem_map_of_mem (mem_valuesOf hc hv)

omit halike in
lemma valuesOf_of_pairwise {cs : List Contribution}
    (hkeys : cs.Pairwise fun c d => ¬(c.field = d.field ∧ c.comparator = d.comparator))
    {c : Contribution} (hc : c ∈ cs) : valuesOf cs c.field c.comparator = c.values := by
  induction cs with
  | nil => cases hc
  | cons d cs ih =>
    obtain ⟨hd, hcs⟩ := List.pairwise_cons.1 hkeys
    rw [valuesOf, List.flatMap_cons, ← valuesOf]
    rcases List.mem_cons.1 hc with rfl | hc
    · rw [if_pos ⟨rfl, rfl⟩, valuesOf_eq_nil, List.append_nil]
      exact fun e he heq => hd e he ⟨heq.1.symm, heq.2.symm⟩
    · rw [if_neg (hd c hc), ih hcs hc, List.nil_append]

/-- If no two contributions share field and comparator, a table says what they say, in whatever way
the values of each are joined. -/
lemma joins_groups_of_pairwise {cs : List Contribution}
    (hkeys : cs.Pairwise fun c d => ¬(c.field = d.field ∧ c.comparator = d.comparator)) :
    joins outer ((tableOf cs).groups.map (groupTruth holds inner)) =
      joins outer (cs.map (contributionTruth holds inner)) := by
  have hgroup : ∀ c ∈ cs, groupTruth holds inner
      ⟨c.field, c.comparator, .ofList (valuesOf cs c.field c.comparator)⟩ =
        contributionTruth holds inner c := by
    intro c hc
    rw [valuesOf_of_pairwise hkeys hc]
    exact joins_congr inner fun b => mem_map_ofList halike
  refine joins_congr outer fun b => ?_
  rw [List.mem_map, List.mem_map]
  constructor
  · rintro ⟨g, hg, rfl⟩
    obtain ⟨c, hc, rfl⟩ := mem_groups_tableOf.1 hg
    exact ⟨c, hc, (hgroup c hc).symm⟩
  · rintro ⟨c, hc, rfl⟩
    exact ⟨_, mem_groups_tableOf.2 ⟨c, hc, rfl⟩, hgroup c hc⟩

end Alike

/-! ### Collecting and writing back -/

/-- The contribution of a cluster says what the cluster says. -/
structure Contributes (connective : Connective) (p : Filter) (c : Contribution) : Prop where
  cluster : IsCluster connective c.field c.comparator p
  contribution : p.contribution = .ok c
  values_ne_nil : c.values ≠ []
  truth (holds : String → Comparator → Scalar → Bool) :
    p.truth? (holdsByValue holds) = some (contributionTruth holds connective c)

lemma contributes_of_isCluster (hconnective : connective ≠ .not) {field : String}
    {comparator : Comparator} {p : Filter} (h : IsCluster connective field comparator p) :
    Contributes connective p
      ⟨field, comparator, (p.leaves connective).flatMap comparedValues⟩ where
  cluster := h
  contribution := contribution_of_allCompare hconnective h.allCompare
  values_ne_nil := h.comparedValues_ne_nil
  truth _ := h.truth? hconnective

/-- Clusters that share no field and comparator make contributions that share none. -/
lemma pairwise_of_contributes {leaves : List Filter} {cs : List Contribution}
    (h : List.Forall₂ (Contributes connective) leaves cs)
    (hkeys : leaves.Pairwise fun a b => ∀ field comparator,
      IsCluster connective field comparator a → ¬IsCluster connective field comparator b) :
    cs.Pairwise fun c d => ¬(c.field = d.field ∧ c.comparator = d.comparator) := by
  induction h with
  | nil => exact .nil
  | @cons leaf c leaves cs hc hrest ih =>
    obtain ⟨hleaf, hleaves⟩ := List.pairwise_cons.1 hkeys
    refine List.pairwise_cons.2 ⟨?_, ih hleaves⟩
    rintro d hd ⟨hfield, hcomparator⟩
    obtain ⟨leaf', hleaf', hd'⟩ := exists_of_forall₂_of_mem hrest hd
    refine hleaf leaf' hleaf' c.field c.comparator hc.cluster ?_
    rw [hfield, hcomparator]
    exact hd'.cluster

/-- Grouping and ungrouping keep the meaning of a filter whose leaves are clusters, if its chain and
the clusters have one connective or if no two leaves share field and comparator: the leaves are
collected into a table, the groups of the table are written back as filters that can be joined, and
the result is true of the same records, whatever holds of them, as long as alike values are not told
apart. -/
theorem truth?_regroup {p : Filter} (houter : outer ≠ .not) (hinner : inner ≠ .not)
    (hclusters : ∀ leaf ∈ p.leaves outer, ∃ field comparator,
      IsCluster inner field comparator leaf)
    (hkeys : outer = inner ∨ (p.leaves outer).Pairwise fun a b => ∀ field comparator,
      IsCluster inner field comparator a → ¬IsCluster inner field comparator b) :
    ∃ t filters q, Table.collect none (p.leaves outer) = .ok t ∧
      filtersOfGroups inner t.groups = .ok filters ∧ Predicate.chain outer filters = .ok q ∧
      ∀ holds : String → Comparator → Scalar → Bool,
        (∀ field comparator a b, Scalar.isAlike a b = true →
          holds field comparator a = holds field comparator b) →
        ∃ b, p.truth? (holdsByValue holds) = some b ∧ q.truth? (holdsByValue holds) = some b := by
  obtain ⟨cs, hcs⟩ := exists_forall₂ (R := Contributes inner) fun leaf hleaf => by
    obtain ⟨field, comparator, hcluster⟩ := hclusters leaf hleaf
    exact ⟨_, contributes_of_isCluster hinner hcluster⟩
  have hgroups : ∀ g ∈ (tableOf cs).groups, g.values.toList ≠ [] := by
    intro g hg
    obtain ⟨c, hc, rfl⟩ := mem_groups_tableOf.1 hg
    obtain ⟨leaf, -, hleaf⟩ := exists_of_forall₂_of_mem hcs hc
    obtain ⟨v, hv⟩ := List.exists_mem_of_ne_nil _ hleaf.values_ne_nil
    exact toList_ofList_ne_nil (List.ne_nil_of_mem (mem_valuesOf hc hv))
  obtain ⟨filters, hfilters⟩ := exists_filtersOfGroups hinner (tableOf cs).groups
  have hchains := filtersOfGroups_eq_ok_iff.1 hfilters
  rw [List.filter_eq_self.2 fun g hg => by simpa using hgroups g hg] at hchains
  have hne : filters ≠ [] := by
    rintro rfl
    obtain ⟨c, cs, rfl⟩ : ∃ c cs', cs = c :: cs' := by
      refine List.exists_cons_of_ne_nil ?_
      rintro rfl
      exact p.leaves_ne_nil outer (List.forall₂_nil_right_iff.1 hcs)
    have hnone := List.forall₂_nil_right_iff.1 hchains
    exact List.ne_nil_of_mem (mem_groups_tableOf.2 ⟨c, List.mem_cons_self, rfl⟩) hnone
  obtain ⟨q, qs, rfl⟩ := List.exists_cons_of_ne_nil hne
  refine ⟨tableOf cs, q :: qs, _, collect_of_contributions (hcs.imp fun _ _ h => h.contribution),
    hfilters, chain_cons houter q qs, fun holds halike => ?_⟩
  have hp : p.truth? (holdsByValue holds) =
      some (joins outer (cs.map (contributionTruth holds inner))) := by
    refine truth?_of_leaves houter ?_
    rw [List.forall₂_map_right_iff]
    exact hcs.imp fun _ _ h => h.truth holds
  have hq : (Predicate.chainFrom outer q qs).truth? (holdsByValue holds) =
      some (joins outer ((tableOf cs).groups.map (groupTruth holds inner))) := by
    refine truth?_chainFrom houter ?_
    rw [List.forall₂_map_right_iff]
    exact (hchains.imp fun _ _ h => truth?_of_chain_leaves hinner h).flip
  refine ⟨_, hp, hq.trans (congrArg some ?_)⟩
  rcases hkeys with rfl | hkeys
  · exact joins_groups_of_eq halike cs
  · exact joins_groups_of_pairwise halike (pairwise_of_contributes hcs hkeys)

/-- Several ages, of which two are alike, and a name. -/
def agesAndName : Filter :=
  .joined .and
    (.joined .or (.comparison "Age" .equal (.single (.integer 30)))
      (.joined .or (.comparison "Age" .equal (.single (.decimal ⟨300, 1, by decide, by decide⟩)))
        (.comparison "Age" .equal (.single (.integer 40)))))
    (.comparison "Name" .equal (.single (.string "Jacob")))

/-- The age among these that is written as a decimal. -/
def decimalAge : Number.Decimal :=
  ⟨300, 1, by decide, by decide⟩

theorem truth?_regroup_agesAndName :
    ((∀ leaf ∈ agesAndName.leaves .and, ∃ field comparator,
        IsCluster .or field comparator leaf) ∧
      (agesAndName.leaves .and).Pairwise fun a b => ∀ field comparator,
        IsCluster .or field comparator a → ¬IsCluster .or field comparator b) ∧
    ∃ t filters q, Table.collect none (agesAndName.leaves .and) = .ok t ∧
      filtersOfGroups .or t.groups = .ok filters ∧ Predicate.chain .and filters = .ok q ∧
      ∀ holds : String → Comparator → Scalar → Bool,
        (∀ field comparator a b, Scalar.isAlike a b = true →
          holds field comparator a = holds field comparator b) →
        ∃ b, agesAndName.truth? (holdsByValue holds) = some b ∧
          q.truth? (holdsByValue holds) = some b := by
  have hclusters : ∀ leaf ∈ agesAndName.leaves .and, ∃ field comparator,
      IsCluster .or field comparator leaf := by
    simp [agesAndName, Predicate.leaves, IsCluster, Operand.values]
  have hkeys : (agesAndName.leaves .and).Pairwise fun a b => ∀ field comparator,
      IsCluster .or field comparator a → ¬IsCluster .or field comparator b := by
    simp only [agesAndName, Predicate.leaves, if_pos, List.singleton_append,
      List.pairwise_pair, if_false, reduceCtorEq]
    intro field comparator hages hname
    obtain ⟨hage, -⟩ := hages.eq_of_mem List.mem_cons_self
    obtain ⟨hfield, -⟩ := hname.eq_of_mem List.mem_cons_self
    exact absurd (hage.trans hfield.symm) (by decide)
  exact ⟨⟨hclusters, hkeys⟩,
    truth?_regroup (by decide) (by decide) hclusters (.inr hkeys)⟩

end RecordFilter.Proofs
