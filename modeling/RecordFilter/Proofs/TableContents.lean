import Mathlib.Data.List.Forall2
import Mathlib.Data.List.Induction
import Mathlib.Tactic.Common
import RecordFilter.Group.Text
import RecordFilter.Proofs.Chains

/-!
# What a table holds

Collecting filters adds their contributions to the empty table one after the other, so a table is
known from its contributions alone. Under each field and comparator that some contribution has, it
holds one group, whose values are all values contributed there, in order and without repetition
(`mem_groups_tableOf`).
-/

namespace RecordFilter.Proofs
open RecordFilter.Filter

lemma mapM_eq_ok_iff {ε α β : Type} {f : α → Except ε β} {xs : List α} {ys : List β} :
    xs.mapM f = .ok ys ↔ List.Forall₂ (fun x y => f x = .ok y) xs ys := by
  induction xs generalizing ys with
  | nil => cases ys <;> simp [pure, Except.pure]
  | cons x xs ih =>
    rw [List.mapM_cons]
    cases hx : f x with
    | error e => cases ys <;> simp [bind, Except.bind, hx]
    | ok y =>
      cases hxs : xs.mapM f with
      | error e => cases ys <;> simp [bind, Except.bind, hx, ← ih, hxs]
      | ok zs => cases ys <;> simp [bind, Except.bind, pure, Except.pure, hx, ← ih, hxs]

lemma exists_forall₂ {α β : Type} {R : α → β → Prop} {xs : List α} (h : ∀ x ∈ xs, ∃ y, R x y) :
    ∃ ys, List.Forall₂ R xs ys := by
  induction xs with
  | nil => exact ⟨[], .nil⟩
  | cons x xs ih =>
    obtain ⟨y, hy⟩ := h x List.mem_cons_self
    obtain ⟨ys, hys⟩ := ih fun x' hx' => h x' (List.mem_cons_of_mem _ hx')
    exact ⟨y :: ys, .cons hy hys⟩

lemma exists_of_forall₂_of_mem {α β : Type} {R : α → β → Prop} {xs : List α} {ys : List β}
    (h : List.Forall₂ R xs ys) {y : β} (hy : y ∈ ys) : ∃ x ∈ xs, R x y := by
  induction h with
  | nil => cases hy
  | @cons x' y' xs ys hR _ ih =>
    rcases List.mem_cons.1 hy with rfl | hy
    · exact ⟨x', List.mem_cons_self, hR⟩
    · obtain ⟨x, hx, hR⟩ := ih hy
      exact ⟨x, List.mem_cons_of_mem _ hx, hR⟩

lemma insertAll_append (s : ValueSet) (xs ys : List Scalar) :
    s.insertAll (xs ++ ys) = (s.insertAll xs).insertAll ys :=
  List.foldl_append

lemma toList_insert (s : ValueSet) (value : Scalar) :
    (s.insert value).toList =
      if s.contains value then s.toList else s.toList ++ [value] := by
  rw [ValueSet.insert]
  split <;> rfl

lemma mem_insertAll {s : ValueSet} {values : List Scalar} {a : Scalar}
    (h : a ∈ (s.insertAll values).toList) : a ∈ s.toList ∨ a ∈ values := by
  induction values generalizing s with
  | nil => exact .inl h
  | cons value values ih =>
    rcases ih h with hmem | hmem
    · rw [toList_insert] at hmem
      split at hmem
      · exact .inl hmem
      · rcases List.mem_append.1 hmem with hmem | hmem
        · exact .inl hmem
        · exact .inr (List.mem_singleton.1 hmem ▸ List.mem_cons_self)
    · exact .inr (List.mem_cons_of_mem _ hmem)

/-- A set has an alike member for every value that was inserted. -/
lemma contains_insertAll_iff {s : ValueSet} {values : List Scalar} {value : Scalar} :
    (s.insertAll values).contains value = true ↔
      s.contains value = true ∨ ∃ v ∈ values, value.worth = v.worth := by
  have hinsert : ∀ {s : ValueSet} {v : Scalar},
      (s.insert v).contains value = true ↔ s.contains value = true ∨ value.worth = v.worth := by
    intro s v
    rw [ValueSet.contains_iff, ValueSet.contains_iff, toList_insert]
    split
    · next hv =>
      obtain ⟨a, ha, heq⟩ := ValueSet.contains_iff.1 hv
      refine ⟨.inl, fun h => h.elim id fun hworth => ⟨a, ha, hworth.trans heq⟩⟩
    · simp [or_and_right, exists_or]
  induction values generalizing s with
  | nil => simp [ValueSet.insertAll]
  | cons v values ih =>
    have hrest := @ih (s.insert v)
    rw [hinsert, or_assoc] at hrest
    refine hrest.trans ?_
    simp

lemma contains_ofList_iff {values : List Scalar} {value : Scalar} :
    (ValueSet.ofList values).contains value = true ↔ ∃ v ∈ values, value.worth = v.worth := by
  rw [ValueSet.ofList, contains_insertAll_iff]
  simp [ValueSet.contains, ValueSet.empty]

lemma mem_of_mem_ofList {values : List Scalar} {a : Scalar}
    (h : a ∈ (ValueSet.ofList values).toList) : a ∈ values :=
  (mem_insertAll h).resolve_left List.not_mem_nil

lemma toList_ofList_ne_nil {values : List Scalar} (h : values ≠ []) :
    (ValueSet.ofList values).toList ≠ [] := by
  obtain ⟨v, values, rfl⟩ := List.exists_cons_of_ne_nil h
  have hv : (ValueSet.ofList (v :: values)).contains v = true :=
    contains_ofList_iff.2 ⟨v, List.mem_cons_self, rfl⟩
  obtain ⟨a, ha, -⟩ := ValueSet.contains_iff.1 hv
  exact List.ne_nil_of_mem ha

/-- The table that contributions make one after the other. -/
def tableOf (contributions : List Contribution) : Table :=
  contributions.foldl Table.add .empty

/-- The group under a field and a comparator. -/
def group? (t : Table) (field : String) (comparator : Comparator) : Option Group :=
  (t.get? field).bind fun byComparator => byComparator.get? comparator

/-- All values contributed to a field and a comparator. -/
def valuesOf (contributions : List Contribution) (field : String) (comparator : Comparator) :
    List Scalar :=
  contributions.flatMap fun c =>
    if c.field = field ∧ c.comparator = comparator then c.values else []

lemma group?_eq_some_iff_get? {t : Table} {field : String} {comparator : Comparator} {g : Group} :
    group? t field comparator = some g ↔
      ∃ byComparator, t.get? field = some byComparator ∧
        byComparator.get? comparator = some g :=
  Option.bind_eq_some_iff

lemma mem_valuesOf_iff {cs : List Contribution} {field : String} {comparator : Comparator}
    {value : Scalar} :
    value ∈ valuesOf cs field comparator ↔
      ∃ c ∈ cs, (c.field = field ∧ c.comparator = comparator) ∧ value ∈ c.values := by
  rw [valuesOf, List.mem_flatMap]
  refine exists_congr fun c => and_congr_right fun _ => ?_
  split
  · next h => simp [h]
  · next h => simp [h]

lemma mem_valuesOf {cs : List Contribution} {c : Contribution} (hc : c ∈ cs) {v : Scalar}
    (hv : v ∈ c.values) : v ∈ valuesOf cs c.field c.comparator :=
  mem_valuesOf_iff.2 ⟨c, hc, ⟨rfl, rfl⟩, hv⟩

lemma valuesOf_eq_nil {cs : List Contribution} {field : String} {comparator : Comparator}
    (h : ∀ c ∈ cs, ¬(c.field = field ∧ c.comparator = comparator)) :
    valuesOf cs field comparator = [] := by
  rw [valuesOf, List.flatMap_eq_nil_iff]
  intro c hc
  rw [if_neg (h c hc)]

/-- Adding changes the group of its field and comparator and no other. -/
lemma group?_add (t : Table) (c : Contribution) (field : String) (comparator : Comparator) :
    group? (t.add c) field comparator =
      if c.field = field ∧ c.comparator = comparator then
        some (((group? t field comparator).getD (.empty field comparator)).addAll c.values)
      else group? t field comparator := by
  rw [group?, Table.add, OrderedMap.get?_update]
  by_cases hfield : field = c.field
  · subst hfield
    rw [if_pos rfl, Option.bind_some, OrderedMap.get?_update]
    by_cases hcomparator : comparator = c.comparator
    · subst hcomparator
      rw [if_pos rfl, if_pos ⟨rfl, rfl⟩, group?]
      cases t.get? c.field <;> rfl
    · rw [if_neg hcomparator, if_neg (fun h => hcomparator h.2.symm), group?]
      cases t.get? c.field <;> rfl
  · rw [if_neg hfield, if_neg (fun h => hfield h.1.symm), group?]

/-- Two contributions to one field and comparator may as well be made at once. -/
lemma add_add (t : Table) (field : String) (comparator : Comparator) (xs ys : List Scalar) :
    (t.add ⟨field, comparator, xs⟩).add ⟨field, comparator, ys⟩ =
      t.add ⟨field, comparator, xs ++ ys⟩ := by
  simp only [Table.add, OrderedMap.update_update, Option.getD_some, Group.addAll,
    insertAll_append]

/-- So may any number of contributions to one field and comparator, as long as there is one. -/
lemma foldl_add_of_ne_nil (t : Table) (field : String) (comparator : Comparator)
    {valueLists : List (List Scalar)} (h : valueLists ≠ []) :
    (valueLists.map fun values => (⟨field, comparator, values⟩ : Contribution)).foldl Table.add t =
      t.add ⟨field, comparator, valueLists.flatten⟩ := by
  induction valueLists generalizing t with
  | nil => exact absurd rfl h
  | cons values valueLists ih =>
    cases valueLists with
    | nil => simp
    | cons values' valueLists =>
      rw [List.map_cons, List.foldl_cons, ih _ (List.cons_ne_nil _ _), add_add,
        ← List.flatten_cons]

lemma mem_groups_iff {t : Table} {g : Group} :
    g ∈ t.groups ↔ ∃ field comparator, group? t field comparator = some g := by
  simp only [Table.groups, List.mem_flatMap, OrderedMap.mem_values_iff, group?,
    Option.bind_eq_some_iff]
  constructor
  · rintro ⟨m, ⟨field, hm⟩, comparator, hg⟩
    exact ⟨field, comparator, m, hm, hg⟩
  · rintro ⟨field, comparator, m, hm, hg⟩
    exact ⟨m, ⟨field, hm⟩, comparator, hg⟩

lemma group?_tableOf (cs : List Contribution) (field : String) (comparator : Comparator) :
    group? (tableOf cs) field comparator =
      if ∃ c ∈ cs, c.field = field ∧ c.comparator = comparator then
        some ⟨field, comparator, .ofList (valuesOf cs field comparator)⟩
      else none := by
  induction cs using List.reverseRecOn with
  | nil => simp [tableOf, group?, Table, OrderedMap.get?, OrderedMap.empty]
  | append_singleton cs c ih =>
    have hvalues : valuesOf (cs ++ [c]) field comparator = valuesOf cs field comparator ++
        if c.field = field ∧ c.comparator = comparator then c.values else [] := by
      simp [valuesOf]
    rw [tableOf, List.foldl_append, List.foldl_cons, List.foldl_nil, ← tableOf, group?_add, ih,
      hvalues]
    by_cases hc : c.field = field ∧ c.comparator = comparator
    · have hmem : ∃ d ∈ cs ++ [c], d.field = field ∧ d.comparator = comparator :=
        ⟨c, List.mem_append_right _ List.mem_cons_self, hc⟩
      rw [if_pos hc, if_pos hc, if_pos hmem, ValueSet.ofList, ValueSet.ofList, insertAll_append]
      split
      · rfl
      · next hnone =>
        rw [valuesOf_eq_nil fun d hd h => hnone ⟨d, hd, h⟩]
        rfl
    · rw [if_neg hc, if_neg hc, List.append_nil]
      refine if_congr ?_ rfl rfl
      simp [or_and_right, exists_or, hc]

/-- A table has exactly one group for each field and comparator that was contributed to, with all
values that were contributed there. -/
theorem mem_groups_tableOf {cs : List Contribution} {g : Group} :
    g ∈ (tableOf cs).groups ↔ ∃ c ∈ cs,
      g = ⟨c.field, c.comparator, .ofList (valuesOf cs c.field c.comparator)⟩ := by
  rw [mem_groups_iff]
  constructor
  · rintro ⟨field, comparator, hg⟩
    rw [group?_tableOf] at hg
    split at hg
    · next hc =>
      obtain ⟨c, hc, rfl, rfl⟩ := hc
      exact ⟨c, hc, (Option.some.inj hg).symm⟩
    · cases hg
  · rintro ⟨c, hc, rfl⟩
    exact ⟨c.field, c.comparator, by rw [group?_tableOf, if_pos ⟨c, hc, rfl, rfl⟩]⟩

/-! ### Contributions of filters -/

/-- The values that a comparison of a field compares with. -/
def comparedValues : Filter → List Scalar
  | .comparison _ _ operand => operand.values
  | _ => []

/-- Every predicate in the list compares the field by the comparator. -/
def AllCompare (field : String) (comparator : Comparator) (leaves : List Filter) : Prop :=
  ∀ leaf ∈ leaves, ∃ operand, leaf = .comparison field comparator operand

lemma cluster?_of_allCompare {field : String} {comparator : Comparator} {leaves : List Filter}
    (h : AllCompare field comparator leaves) (hne : leaves ≠ []) :
    cluster? leaves = some ⟨field, comparator, leaves.flatMap comparedValues⟩ := by
  have hmapM : leaves.mapM comparison? =
      some (leaves.map fun leaf => ⟨field, comparator, comparedValues leaf⟩) := by
    clear hne
    induction leaves with
    | nil => rfl
    | cons leaf leaves ih =>
      obtain ⟨operand, rfl⟩ := h leaf List.mem_cons_self
      rw [List.mapM_cons, ih fun leaf hleaf => h leaf (List.mem_cons_of_mem _ hleaf)]
      rfl
  obtain ⟨leaf, leaves, rfl⟩ := List.exists_cons_of_ne_nil hne
  simp [cluster?, hmapM, List.flatMap_map]

/-- The filter for a value of a group compares with that value alone. -/
lemma exists_leaf_eq (g : Group) (value : Scalar) :
    ∃ operand, g.leaf value = .comparison g.field g.comparator operand ∧
      operand.values = [value] := by
  refine ⟨_, rfl, ?_⟩
  split <;> rfl

lemma allCompare_map_leaf (g : Group) (values : List Scalar) :
    AllCompare g.field g.comparator (values.map g.leaf) := by
  intro leaf hleaf
  obtain ⟨value, -, rfl⟩ := List.mem_map.1 hleaf
  obtain ⟨operand, hleaf, -⟩ := exists_leaf_eq g value
  exact ⟨operand, hleaf⟩

lemma flatMap_comparedValues_map_leaf (g : Group) (values : List Scalar) :
    (values.map g.leaf).flatMap comparedValues = values := by
  have hvalue : ∀ value, comparedValues (g.leaf value) = [value] := by
    intro value
    obtain ⟨operand, hleaf, hoperand⟩ := exists_leaf_eq g value
    rw [hleaf, comparedValues, hoperand]
  simp only [List.flatMap_map, hvalue, ← List.map_eq_flatMap, List.map_id']

/-- Groups are written back as one filter for each that has values. -/
lemma filtersOfGroups_eq_ok_iff {connective : Connective} {groups : List Group}
    {filters : List Filter} :
    filtersOfGroups connective groups = .ok filters ↔
      List.Forall₂ (fun g q => Predicate.chain connective g.leaves = .ok q)
        (groups.filter fun g => !g.values.toList.isEmpty) filters :=
  mapM_eq_ok_iff

lemma exists_filtersOfGroups {connective : Connective} (h : connective ≠ .not)
    (groups : List Group) : ∃ filters, filtersOfGroups connective groups = .ok filters := by
  have hchain : ∀ g ∈ groups.filter fun g => !g.values.toList.isEmpty,
      ∃ q, Predicate.chain connective (Group.leaves g) = .ok q := by
    intro g hg
    have hne : g.leaves ≠ [] := by simpa [Group.leaves] using (List.mem_filter.1 hg).2
    obtain ⟨leaf, leaves, hleaves⟩ := List.exists_cons_of_ne_nil hne
    exact ⟨_, by rw [hleaves, chain_cons h]⟩
  obtain ⟨filters, hfilters⟩ := exists_forall₂ hchain
  exact ⟨filters, filtersOfGroups_eq_ok_iff.2 hfilters⟩

end RecordFilter.Proofs
