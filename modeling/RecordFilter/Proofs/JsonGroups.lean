import Mathlib.Data.List.Forall2
import Mathlib.Data.List.Perm.Basic
import Mathlib.Tactic.Common
import RecordFilter.Exchange
import RecordFilter.Proofs.JsonText
import RecordFilter.Proofs.ScalarRoundTrip
import RecordFilter.Proofs.TableRebuild

/-!
# Groups are read back from their JSON

A scalar that is no decimal comes back from JSON as it was, except that a date comes back as the
string of its text. A table without decimals is read back as its groups with their scalars so
changed, in some order, since the members of an object are in the order of their names. As long as
no group holds a date next to the string of its text, nothing is lost: the changed table is written
as the same JSON.
-/

namespace RecordFilter.Proofs
open RecordFilter.Calendar RecordFilter.Number

lemma daysInMonth_le (year : Int) (month : Nat) : daysInMonth year month ≤ 31 := by
  unfold daysInMonth
  split
  all_goals first | omega | (split <;> omega)

lemma month_lt (d : Date) : d.month < 13 := by
  by_contra hmonth
  have hdays : daysInMonth d.year d.month = 0 := by
    unfold daysInMonth
    split
    all_goals omega
  have hpos := d.day_pos
  have hle := d.day_le
  omega

lemma day_lt (d : Date) : d.day < 32 := by
  have hle := d.day_le
  have hdays := daysInMonth_le d.year d.month
  omega

lemma digitsValue_padDigits_digitsOf (width n : Nat) :
    digitsValue (padDigits width (digitsOf n)) = n := by
  rw [digitsValue_padDigits, digitsValue_digitsOf]

lemma length_twoDigits {n : Nat} (h : n < 32) : (padDigits 2 (digitsOf n)).length = 2 := by
  have hall : ∀ m < 32, (padDigits 2 (digitsOf m)).length = 2 := by decide
  exact hall n h

/-- A sign is no digit, so years with and without a sign have different texts. -/
lemma yearText_injective : Function.Injective Date.yearText := by
  have hplain : ∀ {year : Int}, 0 ≤ year ∧ year ≤ 9999 →
      Date.yearText year = padDigits 4 (digitsOf year.natAbs) := fun h => if_pos h
  have hsigned : ∀ {year : Int}, ¬(0 ≤ year ∧ year ≤ 9999) → Date.yearText year =
      (if year < 0 then '-' else '+') :: padDigits 4 (digitsOf year.natAbs) := fun h => if_neg h
  have hvalue := fun year : Int => digitsValue_padDigits_digitsOf 4 year.natAbs
  have hne : ∀ {year year' : Int}, (if year < 0 then '-' else '+') ∉
      padDigits 4 (digitsOf year'.natAbs) := by
    intro year year' hmem
    have hdigit := isDigit_padDigits (isDigit_digitsOf year'.natAbs) 4 _ hmem
    split at hdigit
    · cases hdigit
    · cases hdigit
  intro year year' h
  by_cases hyear : 0 ≤ year ∧ year ≤ 9999
  · by_cases hyear' : 0 ≤ year' ∧ year' ≤ 9999
    · rw [hplain hyear, hplain hyear'] at h
      have heq := congrArg digitsValue h
      rw [hvalue, hvalue] at heq
      omega
    · rw [hplain hyear, hsigned hyear'] at h
      exact absurd (h ▸ List.mem_cons_self) hne
  · by_cases hyear' : 0 ≤ year' ∧ year' ≤ 9999
    · rw [hsigned hyear, hplain hyear'] at h
      exact absurd (h ▸ List.mem_cons_self) hne
    · rw [hsigned hyear, hsigned hyear'] at h
      obtain ⟨hsign, hdigits⟩ := List.cons.inj h
      have heq := congrArg digitsValue hdigits
      rw [hvalue, hvalue] at heq
      have hneg : year < 0 ↔ year' < 0 := by
        constructor
        · intro hlt
          by_contra hlt'
          rw [if_pos hlt, if_neg hlt'] at hsign
          cases hsign
        · intro hlt'
          by_contra hlt
          rw [if_neg hlt, if_pos hlt'] at hsign
          cases hsign
      omega

/-- The month and the day have two digits each, so the parts of a date can be told from its end. -/
lemma dateText_injective : Function.Injective Date.text := by
  have hlength : ∀ {n n' : Nat}, n < 32 → n' < 32 →
      ('-' :: padDigits 2 (digitsOf n)).length = ('-' :: padDigits 2 (digitsOf n')).length := by
    intro n n' hn hn'
    rw [List.length_cons, List.length_cons, length_twoDigits hn, length_twoDigits hn']
  have hvalue : ∀ {n n' : Nat},
      '-' :: padDigits 2 (digitsOf n) = '-' :: padDigits 2 (digitsOf n') → n = n' := by
    intro n n' h
    have heq := congrArg digitsValue (List.cons.inj h).2
    rwa [digitsValue_padDigits_digitsOf, digitsValue_padDigits_digitsOf] at heq
  intro d d' h
  have hmonth := month_lt d
  have hmonth' := month_lt d'
  obtain ⟨h, hday⟩ := List.append_inj' h (hlength (day_lt d) (day_lt d'))
  obtain ⟨hyear, hmonth⟩ := List.append_inj' h (hlength (by omega) (by omega))
  obtain ⟨year, month, day, _, _⟩ := d
  obtain ⟨year', month', day', _, _⟩ := d'
  obtain rfl : year = year' := yearText_injective hyear
  obtain rfl : month = month' := hvalue hmonth
  obtain rfl : day = day' := hvalue hday
  rfl

/-- The scalar that comes back from JSON: a date has become the string of its text. -/
def exchangedScalar : Scalar → Scalar
  | .date d => .string (String.ofList d.text)
  | value => value

lemma toJson_exchangedScalar (value : Scalar) : (exchangedScalar value).toJson = value.toJson := by
  cases value with
  | _ => rfl

/-- A scalar that is no decimal is read back from JSON. -/
lemma scalar_ofJson_toJson {value : Scalar} (h : ∀ d, value ≠ .decimal d) :
    Scalar.ofJson value.toJson = .ok (exchangedScalar value) := by
  cases value with
  | decimal d => exact absurd rfl (h d)
  | integer n =>
    show Scalar.ofNumber (.whole n.toInt) = .ok (.integer n)
    rw [Scalar.ofNumber, if_pos ⟨n.minValue_le_toInt, n.toInt_le⟩, Int64.ofInt_toInt]
  | _ => rfl

/-- Nothing is lost in JSON of a group that holds no decimal and no date next to the string of its
text. -/
structure IsExchangeable (g : Group) : Prop where
  no_decimal : ∀ d, .decimal d ∉ g.values.toList
  no_dateText : ∀ d, .date d ∈ g.values.toList →
    .string (String.ofList d.text) ∉ g.values.toList

/-- The group with each value replaced; of alike values the first is kept. -/
def mapGroup (f : Scalar → Scalar) (g : Group) : Group :=
  { g with values := .ofList (g.values.toList.map f) }

/-- Scalars that come back alike were alike, but for a date and the string of its text. -/
lemma worth_eq_of_exchanged {a b : Scalar}
    (h : (exchangedScalar a).worth = (exchangedScalar b).worth)
    (hab : ∀ d, a = .date d → b ≠ .string (String.ofList d.text))
    (hba : ∀ d, b = .date d → a ≠ .string (String.ofList d.text)) : a.worth = b.worth := by
  have hstring : ∀ {value : Scalar} {s : String}, (∀ d, value ≠ .date d) →
      (exchangedScalar value).worth = .string s → value = .string s := by
    intro value s hvalue hs
    cases value with
    | date d => exact absurd rfl (hvalue d)
    | string s' => exact congrArg Scalar.string (Worth.string.inj hs)
    | _ => cases hs
  have hself : ∀ {value : Scalar}, (∀ d, value ≠ .date d) → exchangedScalar value = value := by
    intro value hvalue
    cases value with
    | date d => exact absurd rfl (hvalue d)
    | _ => rfl
  by_cases ha : ∃ d, a = .date d
  · obtain ⟨d, rfl⟩ := ha
    by_cases hb : ∃ d', b = .date d'
    · obtain ⟨d', rfl⟩ := hb
      have htext := String.ofList_injective (Worth.string.inj h)
      rw [dateText_injective htext]
    · push Not at hb
      exact absurd (hstring hb h.symm) (hab d rfl)
  · push Not at ha
    by_cases hb : ∃ d', b = .date d'
    · obtain ⟨d', rfl⟩ := hb
      exact absurd (hstring ha h) (hba d' rfl)
    · push Not at hb
      rwa [hself ha, hself hb] at h

section Groups

variable {f : Scalar → Scalar} {g : Group}

/-- The values of an exchangeable group stay different, so all of them come back. -/
lemma IsExchangeable.toList_mapGroup (h : IsExchangeable g) :
    (mapGroup exchangedScalar g).values.toList = g.values.toList.map exchangedScalar := by
  rw [mapGroup, toList_ofList, eraseDupsBy_of_pairwise]
  rw [List.pairwise_map]
  apply g.values.distinct.imp_of_mem
  intro a b ha hb hne
  rw [Bool.eq_false_iff, ne_eq, Scalar.isAlike_iff]
  intro heq
  apply hne
  apply worth_eq_of_exchanged heq.symm
  · rintro d rfl rfl
    exact h.no_dateText d ha hb
  · rintro d rfl rfl
    exact h.no_dateText d hb ha

lemma group_toJson (g : Group) : g.toJson = .object
    [("operator", .string g.comparator.word), ("subject", .string g.field),
      ("values", .array (g.values.toList.map Scalar.toJson))] := rfl

/-- An exchangeable group and what comes back of it have the same JSON. -/
lemma IsExchangeable.toJson_mapGroup (h : IsExchangeable g) :
    (mapGroup exchangedScalar g).toJson = g.toJson := by
  rw [group_toJson, group_toJson, h.toList_mapGroup, List.map_map]
  have hvalues : Scalar.toJson ∘ exchangedScalar = Scalar.toJson := funext toJson_exchangedScalar
  rw [hvalues]
  rfl

/-- A group is read back from its JSON if its values are. -/
lemma group_ofJson_of_forall₂ {values : List Scalar}
    (h : List.Forall₂ (fun v v' => Scalar.ofJson v.toJson = .ok v') g.values.toList values) :
    Group.ofJson g.toJson = .ok { g with values := .ofList values } := by
  have hvalues : (g.values.toList.map Scalar.toJson).mapM Scalar.ofJson = .ok values := by
    rw [mapM_eq_ok_iff, List.forall₂_map_left_iff]
    exact h
  have hfield : Group.stringMember "subject" g.toJson = .ok g.field := rfl
  have hword : Group.stringMember "operator" g.toJson = .ok g.comparator.word := rfl
  have hitems : Group.arrayMember "values" g.toJson =
      .ok (g.values.toList.map Scalar.toJson) := rfl
  simp only [Group.ofJson, hfield, hword, hitems, hvalues, Comparator.ofWord?_word, bind,
    Except.bind]
  rfl

lemma group_ofJson_toJson (h : ∀ v ∈ g.values.toList, Scalar.ofJson v.toJson = .ok (f v)) :
    Group.ofJson g.toJson = .ok (mapGroup f g) := by
  apply group_ofJson_of_forall₂
  rw [List.forall₂_map_right_iff, List.forall₂_same]
  exact h

end Groups

/-! ### Tables -/

lemma word_injective : Function.Injective Comparator.word := by
  intro c c' h
  have hword := Comparator.ofWord?_word c
  rw [h, Comparator.ofWord?_word] at hword
  exact (Option.some.inj hword).symm

/-- The JSON of one field of a table. -/
def rowJson (row : OrderedMap Comparator Group) : Json :=
  .ofMembers (row.entries.map fun (comparator, g) => (comparator.word, g.toJson))

section Entries

variable {κ α : Type} {name : κ → String} {f : α → Json} {m m' : OrderedMap κ α}

lemma nodup_names (hname : Function.Injective name) (f : α → Json) (m : OrderedMap κ α) :
    ((m.entries.map fun (key, a) => (name key, f a)).map Prod.fst).Nodup := by
  have hfst : (m.entries.map fun (key, a) => (name key, f a)).map Prod.fst = m.keys.map name := by
    rw [OrderedMap.keys, List.map_map, List.map_map]
    rfl
  rw [hfst]
  exact m.nodup.map hname

/-- The entries of a map in the order of the names of their keys. -/
def sortedEntries (name : κ → String) (m : OrderedMap κ α) : List (κ × α) :=
  m.entries.mergeSort fun a b => name a.1 ≤ name b.1

lemma perm_sortedEntries (name : κ → String) (m : OrderedMap κ α) :
    (sortedEntries name m).Perm m.entries :=
  List.mergeSort_perm _ _

/-- Different keys have different names, so the names increase. -/
lemma pairwise_sortedEntries (hname : Function.Injective name) (m : OrderedMap κ α) :
    (sortedEntries name m).Pairwise fun a b => name a.1 < name b.1 := by
  have hle : (sortedEntries name m).Pairwise fun a b => name a.1 ≤ name b.1 := by
    have hsorted := @List.pairwise_mergeSort (κ × α) (fun a b => decide (name a.1 ≤ name b.1))
      (fun a b c hab hbc => by simpa using le_trans (by simpa using hab) (by simpa using hbc))
      (fun a b => by simpa using le_total (name a.1) (name b.1)) m.entries
    exact hsorted.imp fun h => by simpa using h
  have hne : (sortedEntries name m).Pairwise fun a b => a.1 ≠ b.1 := by
    rw [(perm_sortedEntries name m).pairwise_iff fun h => h.symm]
    exact List.pairwise_map.1 m.nodup
  exact (hle.and hne).imp fun h => lt_of_le_of_ne h.1 fun heq => h.2 (hname heq)

/-- The object of a map has its entries as members, in the order of their names. -/
lemma ofMembers_entries (hname : Function.Injective name) (f : α → Json) (m : OrderedMap κ α) :
    Json.ofMembers (m.entries.map fun (key, a) => (name key, f a)) =
      .object ((sortedEntries name m).map fun (key, a) => (name key, f a)) := by
  rw [ofMembers_congr_of_perm ((perm_sortedEntries name m).symm.map _) (nodup_names hname f m)]
  apply ofMembers_of_pairwise
  rw [List.map_map, List.pairwise_map]
  exact pairwise_sortedEntries hname m

/-- An object is known from the JSON of each key of the map that it is made of. -/
lemma ofMembers_congr [DecidableEq κ] (hname : Function.Injective name)
    (h : ∀ key, (m.get? key).map f = (m'.get? key).map f) :
    Json.ofMembers (m.entries.map fun (key, a) => (name key, f a)) =
      Json.ofMembers (m'.entries.map fun (key, a) => (name key, f a)) := by
  have hmem : ∀ (m : OrderedMap κ α) (member : String × Json),
      member ∈ m.entries.map (fun (key, a) => (name key, f a)) ↔
        ∃ key, name key = member.1 ∧ (m.get? key).map f = some member.2 := by
    rintro m ⟨n, j⟩
    simp only [List.mem_map, Option.map_eq_some_iff, OrderedMap.get?_eq_some_iff, Prod.mk.injEq]
    constructor
    · rintro ⟨⟨key, a⟩, ha, hn, hj⟩
      exact ⟨key, hn, a, ha, hj⟩
    · rintro ⟨key, hn, a, ha, hj⟩
      exact ⟨(key, a), ha, hn, hj⟩
  apply ofMembers_congr_of_perm _ (nodup_names hname f m)
  apply (List.perm_ext_iff_of_nodup (nodup_names hname f m).of_map
    (nodup_names hname f m').of_map).2
  intro member
  rw [hmem, hmem]
  simp only [h]

end Entries

section Tables

variable {f : Scalar → Scalar} {t t' : Table}

lemma exists_mapM_of_forall {ε α β : Type} {read : α → Except ε β} {R : β → α → Prop} {xs : List α}
    (h : ∀ x ∈ xs, ∃ y, read x = .ok y ∧ R y x) :
    ∃ ys, xs.mapM read = .ok ys ∧ List.Forall₂ R ys xs := by
  obtain ⟨ys, hys⟩ := exists_forall₂ h
  exact ⟨ys, mapM_eq_ok_iff.2 (hys.imp fun _ _ hy => hy.1), (hys.imp fun _ _ hy => hy.2).flip⟩

/-- The groups of a table by field, and those of one field by the word of their comparator. -/
def sortedGroups (t : Table) : List Group :=
  (sortedEntries id t).flatMap fun (_, row) => (sortedEntries Comparator.word row).map Prod.snd

lemma perm_sortedGroups (t : Table) : (sortedGroups t).Perm t.groups := by
  rw [Table.groups, OrderedMap.values, List.flatMap_map]
  apply (perm_sortedEntries id t).flatMap
  intro entry _
  exact (perm_sortedEntries Comparator.word entry.2).map Prod.snd

lemma exists_groupsOfField_rowJson {R : Group → Group → Prop} {row : OrderedMap Comparator Group}
    (h : ∀ g ∈ row.values, ∃ g', Group.ofJson g.toJson = .ok g' ∧ R g' g) :
    ∃ gs, groupsOfField (rowJson row) = .ok gs ∧
      List.Forall₂ R gs ((sortedEntries Comparator.word row).map Prod.snd) := by
  have hentry : ∀ entry ∈ sortedEntries Comparator.word row,
      ∃ g', Group.ofJson entry.2.toJson = .ok g' ∧ R g' entry.2 := by
    intro entry hentry
    exact h entry.2 (List.mem_map_of_mem ((perm_sortedEntries _ row).subset hentry))
  obtain ⟨gs, hgs, hR⟩ := exists_mapM_of_forall hentry
  refine ⟨gs, ?_, List.forall₂_map_right_iff.2 hR⟩
  rw [rowJson, ofMembers_entries word_injective]
  show (((sortedEntries Comparator.word row).map _).map Prod.snd).mapM Group.ofJson = .ok gs
  rw [List.map_map, mapM_eq_ok_iff, List.forall₂_map_left_iff]
  exact mapM_eq_ok_iff.1 hgs

/-- A table is read back from its JSON group by group, in the order of the names. -/
theorem exists_groupsOfJson_toJson {R : Group → Group → Prop}
    (h : ∀ g ∈ t.groups, ∃ g', Group.ofJson g.toJson = .ok g' ∧ R g' g) :
    ∃ gs, groupsOfJson t.toJson = .ok gs ∧ List.Forall₂ R gs (sortedGroups t) := by
  have hrow : ∀ entry ∈ sortedEntries id t, ∃ gs, groupsOfField (rowJson entry.2) = .ok gs ∧
      List.Forall₂ R gs ((sortedEntries Comparator.word entry.2).map Prod.snd) := by
    intro entry hentry
    have hmem := (perm_sortedEntries id t).subset hentry
    apply exists_groupsOfField_rowJson
    intro g hg
    exact h g (List.mem_flatMap.2 ⟨entry.2, List.mem_map_of_mem hmem, hg⟩)
  obtain ⟨gss, hgss, hR⟩ := exists_mapM_of_forall
    (R := fun gs (entry : String × OrderedMap Comparator Group) =>
      List.Forall₂ R gs ((sortedEntries Comparator.word entry.2).map Prod.snd)) hrow
  refine ⟨gss.flatten, ?_, ?_⟩
  · have hobject : t.toJson =
        .object ((sortedEntries id t).map fun (field, row) => (field, rowJson row)) :=
      ofMembers_entries Function.injective_id rowJson t
    have hread : (((sortedEntries id t).map fun (field, row) => (field, rowJson row)).map
        Prod.snd).mapM groupsOfField = .ok gss := by
      rw [List.map_map, mapM_eq_ok_iff, List.forall₂_map_left_iff]
      exact mapM_eq_ok_iff.1 hgss
    rw [hobject, groupsOfJson, hread]
    rfl
  · rw [sortedGroups, List.flatMap_def]
    exact List.rel_flatten (List.forall₂_map_right_iff.2 hR)

/-- A table is read back from its JSON as its groups, if their values are read back. -/
theorem groupsOfJson_toJson
    (h : ∀ g ∈ t.groups, ∀ v ∈ g.values.toList, Scalar.ofJson v.toJson = .ok (f v)) :
    ∃ gs, groupsOfJson t.toJson = .ok gs ∧ gs.Perm (t.groups.map (mapGroup f)) := by
  obtain ⟨gs, hgs, heq⟩ := exists_groupsOfJson_toJson (R := fun g' g => g' = mapGroup f g)
    fun g hg => ⟨_, group_ofJson_toJson (h g hg), rfl⟩
  refine ⟨gs, hgs, ?_⟩
  rw [← List.forall₂_map_right_iff, List.forall₂_eq_eq_eq] at heq
  rw [heq]
  exact (perm_sortedGroups t).map _

/-- Tables in which each place has a group of the same JSON, or none, have the same JSON, if no
field is without groups. -/
lemma toJson_congr (hrows : ∀ row ∈ t.values, row.values ≠ [])
    (hrows' : ∀ row ∈ t'.values, row.values ≠ [])
    (h : ∀ field comparator, (group? t field comparator).map Group.toJson =
      (group? t' field comparator).map Group.toJson) : t.toJson = t'.toJson := by
  -- A field of one table is in the other, since it has a group.
  have hfield : ∀ {t t' : Table} {field : String} {row : OrderedMap Comparator Group},
      (∀ row ∈ t.values, row.values ≠ []) →
      (∀ field comparator, (group? t field comparator).map Group.toJson =
        (group? t' field comparator).map Group.toJson) →
      t.get? field = some row → ∃ row', t'.get? field = some row' := by
    intro t t' field row hrows h hrow
    obtain ⟨g, hg⟩ := List.exists_mem_of_ne_nil _
      (hrows row (OrderedMap.mem_values_iff.2 ⟨field, hrow⟩))
    obtain ⟨comparator, hg⟩ := OrderedMap.mem_values_iff.1 hg
    have hplace := h field comparator
    rw [group?_eq_some_iff_get?.2 ⟨row, hrow, hg⟩] at hplace
    obtain ⟨g', hg', -⟩ := Option.map_eq_some_iff.1 hplace.symm
    obtain ⟨row', hrow', -⟩ := group?_eq_some_iff_get?.1 hg'
    exact ⟨row', hrow'⟩
  have hrow : ∀ field, (t.get? field).map rowJson = (t'.get? field).map rowJson := by
    intro field
    cases hrow : t.get? field with
    | none =>
      cases hrow' : t'.get? field with
      | none => rfl
      | some row' =>
        obtain ⟨row, hsome⟩ :=
          hfield hrows' (fun field comparator => (h field comparator).symm) hrow'
        rw [hrow] at hsome
        cases hsome
    | some row =>
      obtain ⟨row', hrow'⟩ := hfield hrows h hrow
      rw [hrow', Option.map_some, Option.map_some, Option.some_inj]
      apply ofMembers_congr word_injective
      intro comparator
      have hplace := h field comparator
      rwa [group?, group?, hrow, hrow', Option.bind_some, Option.bind_some] at hplace
  exact ofMembers_congr Function.injective_id hrow

lemma isExact_scalar {value : Scalar} (h : ∀ d, value ≠ .decimal d) : IsExact 0 value.toJson := by
  cases value with
  | null => exact .null
  | boolean b => exact .boolean b
  | integer n =>
    have hmin := n.le_toInt
    have hmax := n.toInt_lt
    exact .number hmin (by omega)
  | decimal d => exact absurd rfl (h d)
  | string s => exact .string s
  | date d => exact .string _

/-- A table without decimals is written without loss. -/
lemma isExact_toJson (h : ∀ g ∈ t.groups, ∀ d, .decimal d ∉ g.values.toList) :
    IsExact 4 t.toJson := by
  have hgroup : ∀ g ∈ t.groups, IsExact 2 g.toJson := by
    intro g hg
    apply isExact_ofMembers
    have hvalues : IsExact 1 (.array (g.values.toList.map Scalar.toJson)) := by
      apply IsExact.array
      intro item hitem
      obtain ⟨value, hvalue, rfl⟩ := List.mem_map.1 hitem
      apply isExact_scalar
      rintro d rfl
      exact h g hg d hvalue
    simp only [List.forall_mem_cons]
    exact ⟨.string _, .string _, hvalues, List.forall_mem_nil _⟩
  apply isExact_ofMembers
  intro member hmember
  obtain ⟨entry, hentry, rfl⟩ := List.mem_map.1 hmember
  apply isExact_ofMembers
  intro member hmember
  obtain ⟨place, hplace, rfl⟩ := List.mem_map.1 hmember
  apply hgroup
  exact List.mem_flatMap.2 ⟨entry.2, List.mem_map.2 ⟨entry, hentry, rfl⟩,
    List.mem_map.2 ⟨place, hplace, rfl⟩⟩

end Tables

end RecordFilter.Proofs
