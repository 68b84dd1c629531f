import Mathlib.Data.List.Forall2
import Mathlib.Tactic.Common
import RecordFilter.Proofs.JsonGroups
import RecordFilter.Proofs.ReadFilters
import RecordFilter.Request

/-!
# Grouping a filter that was written from groups

The JSON of the groups of a filter, written as a filter and grouped again, is the same JSON. The
objects of the JSON have put the groups in another order and dates have become strings, so the
filter is another one; but each field and comparator has one group before and after, and the two
groups have the same JSON.
-/

namespace RecordFilter.Proofs
open RecordFilter.Predicate

section Text

variable {policy : Policy} {allowed : Option (List String)} {s : String} {t : Table}

lemma IsReadFilter.leaf {p q : Filter} {connective : Connective} (h : IsReadFilter p)
    (hq : q ∈ p.leaves connective) : IsReadFilter q := by
  induction h with
  | comparison hfield hoperand =>
    rw [List.mem_singleton.1 hq]
    exact .comparison hfield hoperand
  | negation hinner =>
    rw [List.mem_singleton.1 hq]
    exact .negation hinner
  | @joined c left right hconnective hleft hright ihleft ihright =>
    rw [leaves] at hq
    split at hq
    · rcases List.mem_append.1 hq with hq | hq
      · exact ihleft hq
      · exact ihright hq
    · rw [List.mem_singleton.1 hq]
      exact .joined hconnective hleft hright

/-- What was read from text contributes to a field that has a name. -/
lemma isFieldName_of_isGroupable {p : Filter} {c : Contribution} (h : IsReadFilter p)
    (hc : IsGroupable p c) : isFieldName c.field = true := by
  cases hc with
  | comparison =>
    cases h with
    | comparison hfield _ => exact hfield
  | @cluster connective left right _ _ _ hall =>
    obtain ⟨leaf, hleaf⟩ := List.exists_mem_of_ne_nil _
      ((Predicate.joined connective left right).leaves_ne_nil connective)
    have hread := h.leaf hleaf
    obtain ⟨operand, rfl⟩ := hall leaf hleaf
    cases hread with
    | comparison hfield _ => exact hfield

/-- A table of text is made of contributions to allowed fields that have names. -/
lemma exists_contributions_of_ofText (h : Table.ofText policy allowed s = .ok t) :
    ∃ cs, tableOf cs = t ∧ ∀ c ∈ cs, isFieldName c.field = true ∧ IsAllowed allowed c.field := by
  rw [Table.ofText] at h
  split at h
  · cases h
    exact ⟨[], rfl, List.forall_mem_nil _⟩
  · obtain ⟨p, hp, hcollect⟩ := bind_eq_ok_iff.1 h
    obtain ⟨cs, hcs, rfl⟩ := collect_eq_ok_iff.1 hcollect
    refine ⟨cs, rfl, ?_⟩
    intro c hc
    obtain ⟨leaf, hleaf, haccepted⟩ := exists_of_forall₂_of_mem hcs hc
    have hread := (isReadFilter_of_ofText hp).leaf hleaf
    exact ⟨isFieldName_of_isGroupable hread haccepted.isGroupable, haccepted.isAllowed⟩

/-- Fields that happen to be allowed need not be left free. -/
lemma ofText_of_isAllowed (h : Table.ofText policy none s = .ok t)
    (hallowed : ∀ g ∈ t.groups, IsAllowed allowed g.field) :
    Table.ofText policy allowed s = .ok t := by
  rw [Table.ofText] at h ⊢
  split at h
  · next hblank =>
    rw [if_pos hblank]
    exact h
  · next hblank =>
    rw [if_neg hblank]
    obtain ⟨p, hp, hcollect⟩ := bind_eq_ok_iff.1 h
    obtain ⟨cs, hcs, rfl⟩ := collect_eq_ok_iff.1 hcollect
    have hfields : ∀ c ∈ cs, IsAllowed allowed c.field := by
      intro c hc
      exact hallowed _ (mem_groups_tableOf.2 ⟨c, hc, rfl⟩)
    have haccepted := ((List.forall₂_and_left _ _).2 ⟨hfields, hcs.flip⟩).flip
    refine bind_eq_ok_iff.2 ⟨p, hp, collect_eq_ok_iff.2 ⟨cs, ?_, rfl⟩⟩
    exact haccepted.imp fun _ _ h => ⟨h.2.isGroupable, h.1⟩

end Text

section Places

variable {t : Table} {groups : List Group} {field : String} {comparator : Comparator} {g : Group}

lemma ofList_toList (s : ValueSet) : ValueSet.ofList s.toList = s := by
  have hlist : (ValueSet.ofList s.toList).toList = s.toList := by
    rw [toList_ofList, eraseDupsBy_toList]
  cases s
  cases hofList : ValueSet.ofList _
  rw [hofList] at hlist
  cases hlist
  rfl

lemma values_ne_nil_of_tableOf (cs : List Contribution) :
    ∀ row ∈ (tableOf cs).values, row.values ≠ [] := by
  intro row hrow
  obtain ⟨field, hfield⟩ := OrderedMap.mem_values_iff.1 hrow
  have hkey := OrderedMap.mem_keys_of_get? hfield
  rw [keys_tableOf, List.mem_eraseDups, List.mem_map] at hkey
  obtain ⟨c, hc, rfl⟩ := hkey
  have hgroup := group?_tableOf cs c.field c.comparator
  rw [if_pos ⟨c, hc, rfl, rfl⟩, group?, hfield, Option.bind_some] at hgroup
  exact List.ne_nil_of_mem (OrderedMap.mem_values_iff.2 ⟨c.comparator, hgroup⟩)

/-- In a keyed table a group stands in its own place and nowhere else. -/
lemma group?_eq_some_iff_mem (ht : IsKeyed t) :
    group? t field comparator = some g ↔
      g ∈ t.groups ∧ g.field = field ∧ g.comparator = comparator := by
  constructor
  · intro hg
    exact ⟨mem_groups_iff.2 ⟨field, comparator, hg⟩, ht field comparator g hg⟩
  · rintro ⟨hmem, rfl, rfl⟩
    obtain ⟨field, comparator, hg⟩ := mem_groups_iff.1 hmem
    obtain ⟨hfield, hcomparator⟩ := ht field comparator g hg
    rw [hfield, hcomparator]
    exact hg

/-- Groups with values that stand in different places are the groups of the table that they make. -/
lemma group?_tableOf_contributionsOf
    (hplaces : groups.Pairwise fun g h => ¬(g.field = h.field ∧ g.comparator = h.comparator))
    (hvalues : ∀ g ∈ groups, hasValues g = true) :
    group? (tableOf (contributionsOf id groups)) field comparator = some g ↔
      g ∈ groups ∧ g.field = field ∧ g.comparator = comparator := by
  have hgroup : ∀ g ∈ groups, group? (tableOf (contributionsOf id groups)) g.field g.comparator =
      some g := by
    intro g hg
    have hmem : wholeContribution g ∈ contributionsOf id groups :=
      mem_contributionsOf.2 ⟨g, hg, hvalues g hg, rfl⟩
    rw [group?_tableOf, if_pos ⟨_, hmem, rfl, rfl⟩,
      valuesOf_contributionsOf hplaces hg (hvalues g hg), ofList_toList]
  constructor
  · intro hg
    obtain ⟨hfield, hcomparator⟩ := (isMerge_tableOf _).keyed field comparator g hg
    obtain ⟨c, hc, hgc⟩ := mem_groups_tableOf.1 (mem_groups_iff.2 ⟨field, comparator, hg⟩)
    obtain ⟨g', hg', -, rfl⟩ := mem_contributionsOf.1 hc
    have hplace : group? (tableOf (contributionsOf id groups)) g.field g.comparator = some g' := by
      rw [hgc]
      exact hgroup g' hg'
    rw [hfield, hcomparator, hg] at hplace
    cases hplace
    exact ⟨hg', hfield, hcomparator⟩
  · rintro ⟨hg, rfl, rfl⟩
    exact hgroup g hg

end Places

/-! ### Tables that were exchanged -/

lemma rereadScalar_exchangedScalar {value : Scalar} (h : ∀ d, value ≠ .decimal d) :
    rereadScalar (exchangedScalar value) = exchangedScalar value := by
  cases value with
  | decimal d => exact absurd rfl (h d)
  | _ => rfl

section Exchange

variable {t : Table} {groups : List Group}

/-- Exchanged groups have neither dates nor decimals, so text keeps their values. -/
lemma contributionsOf_rereadScalar (h : ∀ g ∈ t.groups, IsExchangeable g)
    (hgroups : groups.Perm (t.groups.map (mapGroup exchangedScalar))) :
    contributionsOf rereadScalar groups = contributionsOf id groups := by
  apply List.map_congr_left
  intro g' hg'
  obtain ⟨g, hg, rfl⟩ := List.mem_map.1 (hgroups.subset (List.mem_filter.1 hg').1)
  have hvalues : (mapGroup exchangedScalar g).values.toList.map rereadScalar =
      (mapGroup exchangedScalar g).values.toList.map id := by
    rw [(h g hg).toList_mapGroup, List.map_map, List.map_map]
    apply List.map_congr_left
    intro value hvalue
    apply rereadScalar_exchangedScalar
    rintro d rfl
    exact (h g hg).no_decimal d hvalue
  rw [hvalues]

/-- Exchanged groups make a table of the same JSON, whatever their order. -/
theorem toJson_tableOf_exchanged (ht : IsKeyed t) (hrows : ∀ row ∈ t.values, row.values ≠ [])
    (hvalues : ∀ g ∈ t.groups, g.values.toList ≠ []) (h : ∀ g ∈ t.groups, IsExchangeable g)
    (hgroups : groups.Perm (t.groups.map (mapGroup exchangedScalar))) :
    (tableOf (contributionsOf id groups)).toJson = t.toJson := by
  have hplaces : groups.Pairwise fun g h => ¬(g.field = h.field ∧ g.comparator = h.comparator) := by
    rw [hgroups.pairwise_iff, List.pairwise_map]
    · exact pairwise_groups ht
    · rintro g g' hne ⟨hfield, hcomparator⟩
      exact hne ⟨hfield.symm, hcomparator.symm⟩
  have hfull : ∀ g ∈ groups, hasValues g = true := by
    intro g' hg'
    obtain ⟨g, hg, rfl⟩ := List.mem_map.1 (hgroups.subset hg')
    rw [hasValues, (h g hg).toList_mapGroup]
    simpa using hvalues g hg
  have hgroup : ∀ field comparator, group? (tableOf (contributionsOf id groups)) field comparator =
      (group? t field comparator).map (mapGroup exchangedScalar) := by
    intro field comparator
    apply Option.ext
    intro g'
    rw [group?_tableOf_contributionsOf hplaces hfull, hgroups.mem_iff, List.mem_map,
      Option.map_eq_some_iff]
    simp only [group?_eq_some_iff_mem ht]
    constructor
    · rintro ⟨⟨g, hg, rfl⟩, hplace⟩
      exact ⟨g, ⟨hg, hplace⟩, rfl⟩
    · rintro ⟨g, ⟨hg, hplace⟩, rfl⟩
      exact ⟨⟨g, hg, rfl⟩, hplace⟩
  apply toJson_congr (values_ne_nil_of_tableOf _) hrows
  intro field comparator
  rw [hgroup, Option.map_map]
  apply Option.map_congr
  intro g hg
  exact (h g (mem_groups_iff.2 ⟨field, comparator, hg⟩)).toJson_mapGroup

end Exchange

/-- Grouping, writing and grouping again is a fixed point. If a filter is grouped to a table that
holds no decimal, no group without values and no date next to the string of its text, then its JSON,
in compact or in indented text, is written as a filter, and that filter is grouped to the same JSON,
strictly and with the same fields allowed. -/
theorem groupFilter_filterOfGroups {outer inner : Connective} (houter : outer ≠ .not)
    (hinner : inner ≠ .not) {policy : Policy} {allowed : List String} {text : String} {t : Table}
    (ht : Table.ofText policy (if allowed.isEmpty then none else some allowed) text = .ok t)
    (hvalues : ∀ g ∈ t.groups, g.values.toList ≠ []) (h : ∀ g ∈ t.groups, IsExchangeable g) :
    groupFilter policy allowed text = .ok t.toJson ∧
      ∀ written ∈ [t.toJson.text, t.toJson.prettyText],
        ∃ s, filterOfGroups outer inner (some written) = .ok s ∧
          groupFilter .strict allowed s = .ok t.toJson := by
  have hgroup : ∀ {policy : Policy} {s : String} {t : Table},
      Table.ofText policy (if allowed.isEmpty then none else some allowed) s = .ok t →
      groupFilter policy allowed s = .ok t.toJson := by
    intro policy s t ht
    rw [groupFilter, ht]
    rfl
  refine ⟨hgroup ht, ?_⟩
  intro written hwritten
  obtain ⟨cs, rfl, hcs⟩ := exists_contributions_of_ofText ht
  have hfields : ∀ g ∈ (tableOf cs).groups, isFieldName g.field = true ∧
      IsAllowed (if allowed.isEmpty then none else some allowed) g.field := by
    intro g hg
    obtain ⟨c, hc, rfl⟩ := mem_groups_tableOf.1 hg
    exact hcs c hc
  -- The JSON is read back, and the groups in it are the groups of the table, exchanged.
  have hjson : readJson written = .ok (tableOf cs).toJson := by
    have hread := ofText?_text_of_isExact
      (isExact_toJson fun g hg => (h g hg).no_decimal) (by decide : 4 ≤ Json.maxDepth)
    rw [List.mem_pair] at hwritten
    unfold readJson
    rcases hwritten with rfl | rfl
    · rw [hread.1]
    · rw [hread.2]
  obtain ⟨groups, hgroups, hperm⟩ := groupsOfJson_toJson fun g hg value hvalue =>
    scalar_ofJson_toJson fun d heq => (h g hg).no_decimal d (heq ▸ hvalue)
  have hmem : ∀ g ∈ groups, isFieldName g.field = true ∧
      IsAllowed (if allowed.isEmpty then none else some allowed) g.field := by
    intro g' hg'
    obtain ⟨g, hg, rfl⟩ := List.mem_map.1 (hperm.subset hg')
    exact hfields g hg
  -- They have a text, which is grouped as the table that they make.
  obtain ⟨s, hs⟩ := exists_textOfGroups houter hinner fun g hg => (hmem g hg).1
  refine ⟨s, ?_, ?_⟩
  · rw [filterOfGroups, hjson]
    show (groupsOfJson (tableOf cs).toJson >>= fun groups =>
      RequestFailure.ofFilter (textOfGroups outer inner groups)) = _
    rw [hgroups]
    show RequestFailure.ofFilter (textOfGroups outer inner groups) = _
    rw [hs]
    rfl
  · have hread := ofText_of_textOfGroups houter hinner hs .strict
    rw [contributionsOf_rereadScalar h hperm] at hread
    rw [hgroup (ofText_of_isAllowed hread ?_), toJson_tableOf_exchanged (isMerge_tableOf cs).keyed
      (values_ne_nil_of_tableOf cs) hvalues h hperm]
    intro g hg
    obtain ⟨c, hc, rfl⟩ := mem_groups_tableOf.1 hg
    obtain ⟨g', hg', -, rfl⟩ := mem_contributionsOf.1 hc
    exact (hmem g' hg').2

/-- A bare word, a date, a cluster and a list. -/
def datedText : String :=
  "Zone eq north and Since eq 2021-03-04 and (Name ne 'x' or Name ne null) and Age in [7, 2]"

def datedFields : List String :=
  ["Name", "Since", "Zone", "Age"]

/-- What the text is grouped to. -/
def datedTable : Table :=
  tableOf [⟨"Zone", .equal, [.string "north"]⟩,
    ⟨"Since", .equal, [.date mixedDate]⟩,
    ⟨"Name", .notEqual, [.string "x", .null]⟩, ⟨"Age", .oneOf, [.integer 7, .integer 2]⟩]

theorem groupFilter_filterOfGroups_datedText :
    (Connective.and ≠ .not ∧ Connective.or ≠ .not ∧
      Table.ofText .lenient (some datedFields) datedText = .ok datedTable ∧
      (∀ g ∈ datedTable.groups, g.values.toList ≠ []) ∧
      ∀ g ∈ datedTable.groups, IsExchangeable g) ∧
    groupFilter .lenient datedFields datedText = .ok datedTable.toJson ∧
      ∀ written ∈ [datedTable.toJson.text, datedTable.toJson.prettyText],
        ∃ s, filterOfGroups .and .or (some written) = .ok s ∧
          groupFilter .strict datedFields s = .ok datedTable.toJson := by
  have htable : Table.ofText .lenient (some datedFields) datedText = .ok datedTable := by
    decide +kernel
  have hvalues : ∀ g ∈ datedTable.groups, g.values.toList ≠ [] := by decide +kernel
  have hall : ∀ g ∈ datedTable.groups, ∀ value ∈ g.values.toList, value ∈ [.string "north",
      .date mixedDate, .string "x", .null, .integer 7, .integer 2] := by
    decide +kernel
  have hexchangeable : ∀ g ∈ datedTable.groups, IsExchangeable g := by
    intro g hg
    constructor
    · intro d hd
      simpa using hall g hg _ hd
    · intro d hd hs
      have hdate := hall g hg _ hd
      have hstring := hall g hg _ hs
      simp only [List.mem_cons, reduceCtorEq, Scalar.date.injEq, List.not_mem_nil, or_false,
        false_or] at hdate
      subst hdate
      revert hstring
      decide +kernel
  exact ⟨⟨by decide, by decide, htable, hvalues, hexchangeable⟩,
    groupFilter_filterOfGroups (by decide) (by decide) htable hvalues hexchangeable⟩

end RecordFilter.Proofs
