import Mathlib.Tactic.Common
import RecordFilter.Proofs.TableContents

/-!
# Collecting filters is an ordered merge

A list of filters is collected exactly if each of them contributes to an allowed field. The table is
then the merge of the contributions: fields and comparators stand in the order of their first
contribution, and a group holds the values contributed to it in order, each without those that are
alike to an earlier one. Otherwise the failure is that of the first filter that does not fit, and of
a filter that does not fit for two reasons it is the one that lies in the filter itself.
-/

namespace RecordFilter.Proofs
open RecordFilter.Filter

/-- The filter can be grouped and contributes `c`: it is a comparison of a field, or it is joined by
`and` or `or` and all its leaves compare one field by one comparator. -/
inductive IsGroupable : Filter → Contribution → Prop
  | comparison (field : String) (comparator : Comparator) (operand : Operand Scalar) :
      IsGroupable (.comparison field comparator operand) ⟨field, comparator, operand.values⟩
  | cluster {connective : Connective} {left right : Filter} {field : String}
      {comparator : Comparator} (hconnective : connective ≠ .not)
      (h : AllCompare field comparator
        ((Predicate.joined connective left right).leaves connective)) :
      IsGroupable (.joined connective left right) ⟨field, comparator,
        ((Predicate.joined connective left right).leaves connective).flatMap comparedValues⟩

/-- Why a filter contributes nothing. -/
inductive IsUngroupable : Filter → Failure → Prop
  | nested (subject : Filter) (comparator : Comparator) (operand : Operand Scalar) :
      IsUngroupable (.nested subject comparator operand)
        (.ungroupable (description (.nested subject comparator operand)))
  | negation (inner : Filter) :
      IsUngroupable (.negation inner) (.ungroupable (description (.negation inner)))
  | binaryNot (left right : Filter) :
      IsUngroupable (.joined .not left right) (.ungroupable (description (.joined .not left right)))
  | mixedCluster {connective : Connective} {left right : Filter} (hconnective : connective ≠ .not)
      (h : ∀ field comparator, ¬AllCompare field comparator
        ((Predicate.joined connective left right).leaves connective)) :
      IsUngroupable (.joined connective left right)
        (.mixedCluster (description (.joined connective left right)))

/-- The field is among the given ones, if any are given. -/
def IsAllowed (allowed : Option (List String)) (field : String) : Prop :=
  ∀ fields ∈ allowed, field ∈ fields

/-- The filter contributes `c`, and to an allowed field. -/
structure IsAccepted (allowed : Option (List String)) (p : Filter) (c : Contribution) : Prop where
  isGroupable : IsGroupable p c
  isAllowed : IsAllowed allowed c.field

/-- Why a filter is not accepted. Its field only counts if it contributes to one. -/
inductive Offends (allowed : Option (List String)) (p : Filter) : Failure → Prop
  | ungroupable {e : Failure} (h : IsUngroupable p e) : Offends allowed p e
  | unknownField {c : Contribution} {fields : List String} (hc : IsGroupable p c)
      (hallowed : allowed = some fields) (hfield : c.field ∉ fields) :
      Offends allowed p (.unknownField c.field fields)

lemma exists_of_mapM_eq_some {α β : Type} {f : α → Option β} {xs : List α} {ys : List β}
    (h : xs.mapM f = some ys) {x : α} (hx : x ∈ xs) : ∃ y ∈ ys, f x = some y := by
  induction xs generalizing ys with
  | nil => cases hx
  | cons x' xs ih =>
    rw [List.mapM_cons] at h
    obtain ⟨y', hy', h⟩ := Option.bind_eq_some_iff.1 h
    obtain ⟨zs, hzs, h⟩ := Option.bind_eq_some_iff.1 h
    cases h
    rcases List.mem_cons.1 hx with rfl | hx
    · exact ⟨y', List.mem_cons_self, hy'⟩
    · obtain ⟨y, hy, heq⟩ := ih hzs hx
      exact ⟨y, List.mem_cons_of_mem _ hy, heq⟩

/-- The leaves of a cluster compare one field by one comparator. -/
lemma allCompare_of_cluster? {leaves : List Filter} {c : Contribution}
    (h : cluster? leaves = some c) : AllCompare c.field c.comparator leaves := by
  obtain ⟨cs, hmapM, h⟩ := Option.bind_eq_some_iff.1 h
  have hcs : ∀ d ∈ cs, d.field = c.field ∧ d.comparator = c.comparator := by
    cases cs with
    | nil => cases h
    | cons first rest =>
      dsimp only at h
      split at h
      · next hall =>
        cases h
        simpa using hall
      · cases h
  intro leaf hleaf
  obtain ⟨d, hd, heq⟩ := exists_of_mapM_eq_some hmapM hleaf
  obtain ⟨hfield, hcomparator⟩ := hcs d hd
  cases leaf with
  | comparison field comparator operand =>
    cases heq
    exact ⟨operand, by rw [← hfield, ← hcomparator]⟩
  | _ => cases heq

/-- A filter whose leaves all compare one field by one comparator can be grouped, even if it is a
leaf itself. -/
lemma isGroupable_of_allCompare {connective : Connective} (hconnective : connective ≠ .not)
    {p : Filter} {field : String} {comparator : Comparator}
    (h : AllCompare field comparator (p.leaves connective)) :
    IsGroupable p ⟨field, comparator, (p.leaves connective).flatMap comparedValues⟩ := by
  by_cases hp : IsNode connective p
  · obtain ⟨left, right, rfl⟩ := hp
    exact .cluster hconnective h
  · rw [leaves_of_not_isNode hp] at h ⊢
    obtain ⟨operand, rfl⟩ := h p List.mem_cons_self
    rw [List.flatMap_singleton]
    exact .comparison field comparator operand

lemma contribution_of_isGroupable {p : Filter} {c : Contribution} (h : IsGroupable p c) :
    p.contribution = .ok c := by
  cases h with
  | comparison => rfl
  | cluster hconnective h =>
    rw [contribution, if_neg hconnective, cluster?_of_allCompare h (Predicate.leaves_ne_nil _ _)]

lemma contribution_of_isUngroupable {p : Filter} {e : Failure} (h : IsUngroupable p e) :
    p.contribution = .error e := by
  cases h with
  | nested => rfl
  | negation => rfl
  | binaryNot => rfl
  | @mixedCluster connective left right hconnective h =>
    rw [contribution, if_neg hconnective]
    cases hcluster : cluster? ((Predicate.joined connective left right).leaves connective) with
    | none => rfl
    | some c => exact absurd (allCompare_of_cluster? hcluster) (h c.field c.comparator)

/-- Every filter contributes something or has a reason not to. -/
lemma isGroupable_or_isUngroupable (p : Filter) :
    (∃ c, IsGroupable p c) ∨ ∃ e, IsUngroupable p e := by
  cases p with
  | comparison field comparator operand => exact .inl ⟨_, .comparison field comparator operand⟩
  | nested subject comparator operand => exact .inr ⟨_, .nested subject comparator operand⟩
  | negation inner => exact .inr ⟨_, .negation inner⟩
  | joined connective left right =>
    by_cases hconnective : connective = .not
    · subst hconnective
      exact .inr ⟨_, .binaryNot left right⟩
    · by_cases h : ∃ field comparator, AllCompare field comparator
          ((Predicate.joined connective left right).leaves connective)
      · obtain ⟨field, comparator, h⟩ := h
        exact .inl ⟨_, .cluster hconnective h⟩
      · exact .inr ⟨_, .mixedCluster hconnective fun field comparator hall =>
          h ⟨field, comparator, hall⟩⟩

lemma isGroupable_iff {p : Filter} {c : Contribution} :
    IsGroupable p c ↔ p.contribution = .ok c := by
  constructor
  · exact contribution_of_isGroupable
  · intro h
    rcases isGroupable_or_isUngroupable p with ⟨d, hd⟩ | ⟨e, he⟩
    · rw [contribution_of_isGroupable hd] at h
      exact Except.ok.inj h ▸ hd
    · rw [contribution_of_isUngroupable he] at h
      cases h

/-- A predicate whose leaves all compare one field by one comparator contributes the values of its
leaves. -/
theorem contribution_of_allCompare {connective : Connective} (hconnective : connective ≠ .not)
    {p : Filter} {field : String} {comparator : Comparator}
    (h : AllCompare field comparator (p.leaves connective)) :
    p.contribution =
      .ok ⟨field, comparator, (p.leaves connective).flatMap comparedValues⟩ :=
  contribution_of_isGroupable (isGroupable_of_allCompare hconnective h)

section Collecting

variable {allowed : Option (List String)}

lemma collectOne_of_isAccepted {p : Filter} {c : Contribution} (h : IsAccepted allowed p c)
    (t : Table) : Table.collectOne allowed t p = .ok (t.add c) := by
  have hallowed : Table.checkAllowed allowed c.field = .ok () := by
    unfold Table.checkAllowed
    cases allowed with
    | none => rfl
    | some fields => exact if_pos (h.isAllowed fields rfl)
  rw [Table.collectOne, contribution_of_isGroupable h.isGroupable]
  show (Table.checkAllowed allowed c.field >>= fun _ => pure (t.add c)) = _
  rw [hallowed]
  rfl

lemma collectOne_of_offends {p : Filter} {e : Failure} (h : Offends allowed p e) (t : Table) :
    Table.collectOne allowed t p = .error e := by
  cases h with
  | ungroupable h =>
    rw [Table.collectOne, contribution_of_isUngroupable h]
    rfl
  | @unknownField c fields hc hallowed hfield =>
    subst hallowed
    have hrefused : Table.checkAllowed (some fields) c.field =
        .error (.unknownField c.field fields) := if_neg hfield
    rw [Table.collectOne, contribution_of_isGroupable hc]
    show (Table.checkAllowed (some fields) c.field >>= fun _ => pure (t.add c)) = _
    rw [hrefused]
    rfl

lemma isAccepted_or_offends (allowed : Option (List String)) (p : Filter) :
    (∃ c, IsAccepted allowed p c) ∨ ∃ e, Offends allowed p e := by
  rcases isGroupable_or_isUngroupable p with ⟨c, hc⟩ | ⟨e, he⟩
  · by_cases hallowed : IsAllowed allowed c.field
    · exact .inl ⟨c, hc, hallowed⟩
    · unfold IsAllowed at hallowed
      push Not at hallowed
      obtain ⟨fields, hfields, hfield⟩ := hallowed
      exact .inr ⟨_, .unknownField hc hfields hfield⟩
  · exact .inr ⟨e, .ungroupable he⟩

/-- Accepted filters add their contributions one by one. -/
lemma foldlM_of_isAccepted {filters : List Filter} {cs : List Contribution}
    (h : List.Forall₂ (IsAccepted allowed) filters cs) (t : Table) :
    filters.foldlM (Table.collectOne allowed) t = .ok (cs.foldl Table.add t) := by
  induction h generalizing t with
  | nil => rfl
  | @cons p c filters cs hp _ ih =>
    rw [List.foldlM_cons, collectOne_of_isAccepted hp]
    exact ih (t.add c)

/-- Comparisons of one allowed field by one comparator add all their values to one group. -/
lemma foldlM_of_allCompare {field : String} {comparator : Comparator} {leaves : List Filter}
    (hallowed : IsAllowed allowed field) (h : AllCompare field comparator leaves)
    (hne : leaves ≠ []) (t : Table) : leaves.foldlM (Table.collectOne allowed) t =
      .ok (t.add ⟨field, comparator, leaves.flatMap comparedValues⟩) := by
  have hcs : List.Forall₂ (IsAccepted allowed) leaves
      ((leaves.map comparedValues).map fun values => ⟨field, comparator, values⟩) := by
    rw [List.map_map, List.forall₂_map_right_iff, List.forall₂_same]
    intro leaf hleaf
    obtain ⟨operand, rfl⟩ := h leaf hleaf
    exact ⟨.comparison field comparator operand, hallowed⟩
  rw [foldlM_of_isAccepted hcs, foldl_add_of_ne_nil _ _ _ (by simpa using hne), List.flatMap]

/-- At whatever connective it is split, the leaves of an accepted filter add together what the
filter adds as a whole. -/
lemma foldlM_leaves_of_isAccepted {p : Filter} {c : Contribution} (h : IsAccepted allowed p c)
    (connective : Connective) (t : Table) :
    (p.leaves connective).foldlM (Table.collectOne allowed) t = .ok (t.add c) := by
  by_cases hp : IsNode connective p
  · obtain ⟨left, right, rfl⟩ := hp
    obtain ⟨hgroupable, hallowed⟩ := h
    cases hgroupable with
    | cluster _ hall => exact foldlM_of_allCompare hallowed hall (Predicate.leaves_ne_nil _ _) t
  · rw [leaves_of_not_isNode hp, List.foldlM_cons, collectOne_of_isAccepted h]
    rfl

/-- A filter that offends ends the collection, whatever comes after it. -/
lemma foldlM_of_offends {before : List Filter} {cs : List Contribution}
    (hbefore : List.Forall₂ (IsAccepted allowed) before cs) {p : Filter} {e : Failure}
    (hp : Offends allowed p e) (after : List Filter) (t : Table) :
    (before ++ p :: after).foldlM (Table.collectOne allowed) t = .error e := by
  rw [List.foldlM_append, foldlM_of_isAccepted hbefore]
  show (p :: after).foldlM (Table.collectOne allowed) _ = _
  rw [List.foldlM_cons, collectOne_of_offends hp]
  rfl

/-- Either all filters are accepted, or there is a first one that offends. -/
lemma forall₂_isAccepted_or_exists_offends (allowed : Option (List String))
    (filters : List Filter) :
    (∃ cs, List.Forall₂ (IsAccepted allowed) filters cs) ∨
      ∃ before p after cs e, filters = before ++ p :: after ∧
        List.Forall₂ (IsAccepted allowed) before cs ∧ Offends allowed p e := by
  induction filters with
  | nil => exact .inl ⟨[], .nil⟩
  | cons p filters ih =>
    rcases isAccepted_or_offends allowed p with ⟨c, hc⟩ | ⟨e, he⟩
    · rcases ih with ⟨cs, hcs⟩ | ⟨before, q, after, cs, e, rfl, hbefore, hq⟩
      · exact .inl ⟨c :: cs, .cons hc hcs⟩
      · exact .inr ⟨p :: before, q, after, c :: cs, e, rfl, .cons hc hbefore, hq⟩
    · exact .inr ⟨[], p, filters, [], e, rfl, .nil, he⟩

lemma exists_forall₂_isAccepted_iff {filters : List Filter} :
    (∃ cs, List.Forall₂ (IsAccepted allowed) filters cs) ↔
      ∀ p ∈ filters, ∃ c, IsAccepted allowed p c := by
  constructor
  · rintro ⟨cs, hcs⟩ p hp
    obtain ⟨c, -, hc⟩ := exists_of_forall₂_of_mem hcs.flip hp
    exact ⟨c, hc⟩
  · exact exists_forall₂

end Collecting

/-- The table is the merge of the contributions. -/
structure IsMerge (cs : List Contribution) (t : Table) : Prop where
  /-- Fields stand in the order of their first contribution. -/
  keys : t.keys = (cs.map Contribution.field).eraseDups
  /-- So do the comparators of a field. -/
  comparators : ∀ field byComparator, t.get? field = some byComparator →
    byComparator.keys =
      ((cs.filter fun c => c.field = field).map Contribution.comparator).eraseDups
  /-- A group knows where it stands. -/
  keyed : ∀ field comparator g, group? t field comparator = some g →
    g.field = field ∧ g.comparator = comparator
  /-- Its values are all that were contributed there, without those that are alike to an earlier
  one. -/
  values : ∀ field comparator g, group? t field comparator = some g →
    g.values.toList = (valuesOf cs field comparator).eraseDupsBy Scalar.isAlike

section Merging

variable {cs : List Contribution}

lemma eraseDups_concat {α : Type} [BEq α] [LawfulBEq α] (xs : List α) (x : α) :
    (xs ++ [x]).eraseDups =
      if x ∈ xs.eraseDups then xs.eraseDups else xs.eraseDups ++ [x] := by
  rw [List.eraseDups_append]
  by_cases h : x ∈ xs
  · rw [if_pos (List.mem_eraseDups.2 h)]
    simp [List.removeAll, h]
  · rw [if_neg fun hx => h (List.mem_eraseDups.1 hx)]
    simp [List.removeAll, h, List.eraseDups_cons]

/-- Inserted values come after those of the set, each unless an alike one is there before it. -/
lemma toList_insertAll (s : ValueSet) (values : List Scalar) :
    (s.insertAll values).toList =
      s.toList ++ (values.filter fun v => !s.contains v).eraseDupsBy Scalar.isAlike := by
  induction values generalizing s with
  | nil => simp [ValueSet.insertAll]
  | cons v values ih =>
    show ((s.insert v).insertAll values).toList = _
    rw [ih (s.insert v), toList_insert]
    by_cases hv : s.contains v = true
    · have hinsert : s.insert v = s := by
        unfold ValueSet.insert
        rw [dif_pos hv]
      rw [if_pos hv, hinsert, List.filter_cons_of_neg (by simp [hv])]
    · have hrest : (values.filter fun w => !(s.insert v).contains w) =
          (values.filter fun w => !s.contains w).filter fun w => w.isAlike v = false := by
        rw [List.filter_filter]
        congr 1
        funext w
        have hw := @contains_insertAll_iff s [v] w
        rw [show s.insertAll [v] = s.insert v from rfl] at hw
        rw [Bool.eq_iff_iff]
        simp [← Bool.not_eq_true, hw, Scalar.isAlike_iff, and_comm]
      rw [if_neg hv, hrest, List.filter_cons_of_pos (by simp [hv]), List.eraseDupsBy_cons,
        List.append_assoc, List.singleton_append]

lemma toList_ofList (values : List Scalar) :
    (ValueSet.ofList values).toList = values.eraseDupsBy Scalar.isAlike := by
  rw [ValueSet.ofList, toList_insertAll]
  simp [ValueSet.empty, ValueSet.contains]

lemma tableOf_concat (cs : List Contribution) (c : Contribution) :
    tableOf (cs ++ [c]) = (tableOf cs).add c := by
  rw [tableOf, List.foldl_append]
  rfl

lemma keys_tableOf (cs : List Contribution) :
    (tableOf cs).keys = (cs.map Contribution.field).eraseDups := by
  induction cs using List.reverseRecOn with
  | nil => rfl
  | append_singleton cs c ih =>
    rw [tableOf_concat, Table.add, OrderedMap.keys_update, ih, List.map_append, List.map_singleton,
      eraseDups_concat]

/-- The comparators under a field, of which there are none if the field is not in the table. -/
lemma keys_row_tableOf (cs : List Contribution) (field : String) :
    (((tableOf cs).get? field).getD .empty).keys =
      ((cs.filter fun c => c.field = field).map Contribution.comparator).eraseDups := by
  induction cs using List.reverseRecOn with
  | nil => rfl
  | append_singleton cs c ih =>
    rw [tableOf_concat, Table.add, OrderedMap.get?_update, List.filter_append, List.map_append]
    by_cases hfield : field = c.field
    · subst hfield
      rw [if_pos rfl, Option.getD_some, OrderedMap.keys_update, ih,
        List.filter_cons_of_pos (by simp), List.filter_nil, List.map_singleton, eraseDups_concat]
    · rw [if_neg hfield, List.filter_cons_of_neg (by simp [Ne.symm hfield]), List.filter_nil,
        List.map_nil, List.append_nil, ih]

/-- Adding contributions one by one merges them. -/
theorem isMerge_tableOf (cs : List Contribution) : IsMerge cs (tableOf cs) := by
  have hgroup : ∀ {field comparator g}, group? (tableOf cs) field comparator = some g →
      g = ⟨field, comparator, .ofList (valuesOf cs field comparator)⟩ := by
    intro field comparator g hg
    rw [group?_tableOf] at hg
    split at hg
    · exact (Option.some.inj hg).symm
    · cases hg
  constructor
  · exact keys_tableOf cs
  · intro field byComparator hrow
    have hkeys := keys_row_tableOf cs field
    rw [hrow] at hkeys
    exact hkeys
  · intro field comparator g hg
    rw [hgroup hg]
    exact ⟨rfl, rfl⟩
  · intro field comparator g hg
    rw [hgroup hg, toList_ofList]

/-- Contributions have one merge. -/
theorem IsMerge.eq {t t' : Table} (h : IsMerge cs t) (h' : IsMerge cs t') : t = t' := by
  apply OrderedMap.ext_of_keys (h.keys.trans h'.keys.symm)
  intro field m m' hm hm'
  apply OrderedMap.ext_of_keys ((h.comparators field m hm).trans (h'.comparators field m' hm').symm)
  intro comparator g g' hg hg'
  have hgroup : group? t field comparator = some g := group?_eq_some_iff_get?.2 ⟨m, hm, hg⟩
  have hgroup' : group? t' field comparator = some g' := group?_eq_some_iff_get?.2 ⟨m', hm', hg'⟩
  obtain ⟨hfield, hcomparator⟩ := h.keyed _ _ _ hgroup
  obtain ⟨hfield', hcomparator'⟩ := h'.keyed _ _ _ hgroup'
  have hvalues := (h.values _ _ _ hgroup).trans (h'.values _ _ _ hgroup').symm
  obtain ⟨_, _, ⟨values, _⟩⟩ := g
  obtain ⟨_, _, ⟨values', _⟩⟩ := g'
  cases hfield
  cases hcomparator
  cases hfield'
  cases hcomparator'
  cases hvalues
  rfl

/-- So the merge of contributions is the table that they make one after the other. -/
lemma isMerge_iff {t : Table} : IsMerge cs t ↔ tableOf cs = t := by
  constructor
  · intro h
    exact (isMerge_tableOf cs).eq h
  · rintro rfl
    exact isMerge_tableOf cs

end Merging

/-! ### What a collection comes to -/

section Collection

variable {allowed : Option (List String)} {filters : List Filter}

lemma collect_of_isAccepted {cs : List Contribution}
    (h : List.Forall₂ (IsAccepted allowed) filters cs) :
    Table.collect allowed filters = .ok (tableOf cs) :=
  foldlM_of_isAccepted h .empty

/-- Collecting filters without restriction makes the table of their contributions. -/
lemma collect_of_contributions {cs : List Contribution}
    (h : List.Forall₂ (fun p c => p.contribution = .ok c) filters cs) :
    Table.collect none filters = .ok (tableOf cs) := by
  apply collect_of_isAccepted
  apply h.imp
  exact fun p c hp => ⟨isGroupable_iff.2 hp, nofun⟩

lemma collect_eq_ok_iff {t : Table} :
    Table.collect allowed filters = .ok t ↔
      ∃ cs, List.Forall₂ (IsAccepted allowed) filters cs ∧ tableOf cs = t := by
  constructor
  · intro ht
    rcases forall₂_isAccepted_or_exists_offends allowed filters with
      ⟨cs, hcs⟩ | ⟨before, p, after, cs, e, rfl, hbefore, hp⟩
    · rw [collect_of_isAccepted hcs] at ht
      exact ⟨cs, hcs, Except.ok.inj ht⟩
    · rw [Table.collect, foldlM_of_offends hbefore hp] at ht
      cases ht
  · rintro ⟨cs, hcs, rfl⟩
    exact collect_of_isAccepted hcs

lemma collect_eq_error_iff {e : Failure} :
    Table.collect allowed filters = .error e ↔
      ∃ before p after, filters = before ++ p :: after ∧
        (∀ q ∈ before, ∃ c, IsAccepted allowed q c) ∧ Offends allowed p e := by
  constructor
  · intro he
    rcases forall₂_isAccepted_or_exists_offends allowed filters with
      ⟨cs, hcs⟩ | ⟨before, p, after, cs, e', rfl, hbefore, hp⟩
    · rw [collect_of_isAccepted hcs] at he
      cases he
    · rw [Table.collect, foldlM_of_offends hbefore hp] at he
      cases he
      exact ⟨before, p, after, rfl, exists_forall₂_isAccepted_iff.1 ⟨cs, hbefore⟩, hp⟩
  · rintro ⟨before, p, after, rfl, hbefore, hp⟩
    obtain ⟨cs, hcs⟩ := exists_forall₂_isAccepted_iff.2 hbefore
    exact foldlM_of_offends hcs hp after .empty

end Collection

/-- Filters are collected exactly if each is accepted. The table is then the merge of what they
contribute, and otherwise the failure is that of the first one that is not accepted. -/
theorem collect_isMerge (allowed : Option (List String)) (filters : List Filter) :
    ((∃ t, Table.collect allowed filters = .ok t) ↔
      ∀ p ∈ filters, ∃ c, IsAccepted allowed p c) ∧
    (∀ t, Table.collect allowed filters = .ok t ↔
      ∃ cs, List.Forall₂ (IsAccepted allowed) filters cs ∧ IsMerge cs t) ∧
    ∀ e, Table.collect allowed filters = .error e ↔
      ∃ before p after, filters = before ++ p :: after ∧
        (∀ q ∈ before, ∃ c, IsAccepted allowed q c) ∧ Offends allowed p e := by
  refine ⟨?_, fun t => ?_, fun e => collect_eq_error_iff⟩
  · rw [← exists_forall₂_isAccepted_iff]
    constructor
    · rintro ⟨t, ht⟩
      obtain ⟨cs, hcs, -⟩ := collect_eq_ok_iff.1 ht
      exact ⟨cs, hcs⟩
    · rintro ⟨cs, hcs⟩
      exact ⟨_, collect_of_isAccepted hcs⟩
  · simp only [collect_eq_ok_iff, isMerge_iff]

/-- A cluster is merged into the group of its field, the first spelling of a number stays, and the
order is that of the first contributions. -/
example :
    (Table.collect none
      [.comparison "Age" .equal (.single (.integer 30)),
        .comparison "Name" .equal (.single (.string "Ada")),
        .joined .or (.comparison "Age" .equal (.single (.decimal ⟨300, 1, by decide, by decide⟩)))
          (.comparison "Age" .equal (.single (.integer 41)))]).map
      (fun t => t.groups.map fun g => (g.field, g.values.toList)) =
    .ok [("Age", [.integer 30, .integer 41]), ("Name", [.string "Ada"])] := by
  decide +kernel

end RecordFilter.Proofs
