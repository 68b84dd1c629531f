/-!
# Maps that keep the order of insertion

A map is the list of its entries, each key once, in the order in which the keys were first
entered. Updating a key leaves it where it is and adds a new key at the end (`keys_update`),
changes the value of that key alone (`get?_update`), and twice in a row is updating once
(`update_update`). A map is known from its keys in order and the values that they have
(`ext_of_keys`).
-/

namespace RecordFilter

/-- A map from `κ` to `α` whose keys are in order of insertion. -/
structure OrderedMap (κ α : Type) where
  entries : List (κ × α)
  nodup : (entries.map Prod.fst).Nodup
  deriving DecidableEq

namespace OrderedMap

variable {κ α : Type}

/-- The map without entries. -/
def empty : OrderedMap κ α :=
  ⟨[], .nil⟩

/-- The keys in order of insertion. -/
def keys (m : OrderedMap κ α) : List κ :=
  m.entries.map Prod.fst

/-- The values in the order of their keys. -/
def values (m : OrderedMap κ α) : List α :=
  m.entries.map Prod.snd

@[simp] theorem keys_empty : (empty : OrderedMap κ α).keys = [] := rfl

/-- The map with each value replaced. -/
def map {β : Type} (f : α → β) (m : OrderedMap κ α) : OrderedMap κ β where
  entries := m.entries.map fun (key, a) => (key, f a)
  nodup := by
    rw [List.map_map]
    exact m.nodup

/-- The map with only the values that are kept. -/
def filter (keep : α → Bool) (m : OrderedMap κ α) : OrderedMap κ α where
  entries := m.entries.filter fun entry => keep entry.2
  nodup := m.nodup.sublist (List.filter_sublist.map Prod.fst)

@[simp] theorem entries_map {β : Type} (f : α → β) (m : OrderedMap κ α) :
    (m.map f).entries = m.entries.map fun (key, a) => (key, f a) := rfl

@[simp] theorem entries_filter (keep : α → Bool) (m : OrderedMap κ α) :
    (m.filter keep).entries = m.entries.filter fun entry => keep entry.2 := rfl

@[simp] theorem values_filter (keep : α → Bool) (m : OrderedMap κ α) :
    (m.filter keep).values = m.values.filter keep := by
  rw [values, values, List.filter_map]
  rfl

variable [DecidableEq κ]

/-- The value of a key. -/
def get? (m : OrderedMap κ α) (key : κ) : Option α :=
  m.entries.lookup key

/-- The maps have the same keys, in any order, with values that `same` takes for the same. -/
def sameEntries (m m' : OrderedMap κ α) (same : α → α → Bool) : Bool :=
  m.entries.length == m'.entries.length &&
    m.entries.all fun entry => (m'.get? entry.1).any (same entry.2)

/-- The entries after giving `key` the value that `f` makes of its old one. -/
def updateEntries (key : κ) (f : Option α → α) : List (κ × α) → List (κ × α)
  | [] => [(key, f none)]
  | (k, a) :: rest =>
    if k = key then (k, f (some a)) :: rest else (k, a) :: updateEntries key f rest

theorem keys_updateEntries (key : κ) (f : Option α → α) (entries : List (κ × α)) :
    (updateEntries key f entries).map Prod.fst =
      if key ∈ entries.map Prod.fst then entries.map Prod.fst
      else entries.map Prod.fst ++ [key] := by
  induction entries with
  | nil => simp [updateEntries]
  | cons entry rest ih =>
    obtain ⟨k, a⟩ := entry
    by_cases hk : k = key
    · simp [updateEntries, hk]
    · have hk' : key ≠ k := fun h => hk h.symm
      simp only [updateEntries, hk, if_false, List.map_cons, ih, List.mem_cons, hk', false_or]
      split <;> rfl

theorem nodup_keys_updateEntries (key : κ) (f : Option α → α) {entries : List (κ × α)}
    (h : (entries.map Prod.fst).Nodup) : ((updateEntries key f entries).map Prod.fst).Nodup := by
  rw [keys_updateEntries]
  split
  · exact h
  · next hkey =>
    refine List.nodup_append.2 ⟨h, List.nodup_cons.2 ⟨List.not_mem_nil, .nil⟩, ?_⟩
    intro k hk k' hk' heq
    rw [List.mem_singleton] at hk'
    exact hkey (hk' ▸ heq ▸ hk)

/-- Gives `key` the value that `f` makes of its old one; a new key comes last. -/
def update (m : OrderedMap κ α) (key : κ) (f : Option α → α) : OrderedMap κ α :=
  ⟨updateEntries key f m.entries, nodup_keys_updateEntries key f m.nodup⟩

theorem lookup_updateEntries (key k : κ) (f : Option α → α) (entries : List (κ × α)) :
    (updateEntries key f entries).lookup k =
      if k = key then some (f (entries.lookup key)) else entries.lookup k := by
  have hne : ∀ {k k' : κ}, ¬k = k' → (k == k') = false := beq_eq_false_iff_ne.2
  induction entries with
  | nil => by_cases hk : k = key <;> simp [updateEntries, hk, hne, List.lookup_cons]
  | cons entry rest ih =>
    obtain ⟨k', a⟩ := entry
    by_cases hk' : k' = key
    · subst hk'
      by_cases hk : k = k' <;> simp [updateEntries, List.lookup_cons, hk, hne]
    · by_cases hk : k = k'
      · subst hk
        simp [updateEntries, hk']
      · simp only [updateEntries, hk', if_false, List.lookup_cons, hne hk, hne (Ne.symm hk'), ih]

theorem updateEntries_updateEntries (key : κ) (f g : Option α → α) (entries : List (κ × α)) :
    updateEntries key g (updateEntries key f entries) =
      updateEntries key (fun a => g (some (f a))) entries := by
  induction entries with
  | nil => simp [updateEntries]
  | cons entry rest ih =>
    obtain ⟨k, a⟩ := entry
    by_cases hk : k = key <;> simp [updateEntries, hk, ih]

/-- Replacing all values commutes with an update. -/
theorem map_updateEntries {β : Type} (key : κ) {f : Option α → α} {g : Option β → β} {h : α → β}
    (hfg : ∀ a, h (f a) = g (a.map h)) (entries : List (κ × α)) :
    (updateEntries key f entries).map (fun (k, a) => (k, h a)) =
      updateEntries key g (entries.map fun (k, a) => (k, h a)) := by
  induction entries with
  | nil => simp [updateEntries, hfg]
  | cons entry rest ih =>
    obtain ⟨k, a⟩ := entry
    by_cases hk : k = key <;> simp [updateEntries, hk, ih, hfg]

@[simp] theorem keys_update (m : OrderedMap κ α) (key : κ) (f : Option α → α) :
    (m.update key f).keys = if key ∈ m.keys then m.keys else m.keys ++ [key] :=
  keys_updateEntries key f m.entries

theorem get?_update (m : OrderedMap κ α) (key k : κ) (f : Option α → α) :
    (m.update key f).get? k = if k = key then some (f (m.get? key)) else m.get? k :=
  lookup_updateEntries key k f m.entries

theorem update_update (m : OrderedMap κ α) (key : κ) (f g : Option α → α) :
    (m.update key f).update key g = m.update key fun a => g (some (f a)) := by
  simp [update, updateEntries_updateEntries]

theorem get?_eq_some_iff {m : OrderedMap κ α} {key : κ} {a : α} :
    m.get? key = some a ↔ (key, a) ∈ m.entries := by
  obtain ⟨entries, hnodup⟩ := m
  show entries.lookup key = some a ↔ (key, a) ∈ entries
  induction entries with
  | nil => simp
  | cons entry rest ih =>
    obtain ⟨k, b⟩ := entry
    obtain ⟨hnew, hrest⟩ := List.nodup_cons.1 hnodup
    by_cases hk : key = k
    · subst hk
      have hmem : (key, a) ∉ rest := fun h => hnew (List.mem_map.2 ⟨(key, a), h, rfl⟩)
      simp [hmem, eq_comm]
    · have hne : (key == k) = false := beq_eq_false_iff_ne.2 hk
      simp [List.lookup_cons, hne, hk, ih hrest]

theorem mem_values_iff {m : OrderedMap κ α} {a : α} :
    a ∈ m.values ↔ ∃ key, m.get? key = some a := by
  simp [values, get?_eq_some_iff]

theorem get?_map_eq_some_iff {β : Type} {f : α → β} {m : OrderedMap κ α} {key : κ} {b : β} :
    (m.map f).get? key = some b ↔ ∃ a, m.get? key = some a ∧ f a = b := by
  simp only [get?_eq_some_iff, entries_map, List.mem_map]
  constructor
  · rintro ⟨⟨k, a⟩, ha, heq⟩
    cases heq
    exact ⟨a, ha, rfl⟩
  · rintro ⟨a, ha, rfl⟩
    exact ⟨(key, a), ha, rfl⟩

theorem get?_filter_eq_some_iff {keep : α → Bool} {m : OrderedMap κ α} {key : κ} {a : α} :
    (m.filter keep).get? key = some a ↔ m.get? key = some a ∧ keep a = true := by
  rw [get?_eq_some_iff, get?_eq_some_iff, entries_filter, List.mem_filter]

theorem mem_keys_iff {m : OrderedMap κ α} {key : κ} :
    key ∈ m.keys ↔ ∃ a, m.get? key = some a := by
  simp [keys, get?_eq_some_iff]

theorem mem_keys_of_get? {m : OrderedMap κ α} {key : κ} {a : α} (h : m.get? key = some a) :
    key ∈ m.keys :=
  mem_keys_iff.2 ⟨a, h⟩

/-- Maps with the same keys in the same order and the same value for each key are equal. -/
theorem ext_of_keys {m m' : OrderedMap κ α} (hkeys : m.keys = m'.keys)
    (hvalues : ∀ key a a', m.get? key = some a → m'.get? key = some a' → a = a') : m = m' := by
  have hentries : ∀ entries entries' : List (κ × α),
      entries.map Prod.fst = entries'.map Prod.fst →
      (∀ key a a', (key, a) ∈ entries → (key, a') ∈ entries' → a = a') → entries = entries' := by
    intro entries
    induction entries with
    | nil =>
      intro entries' hfst _
      exact (List.map_eq_nil_iff.1 hfst.symm).symm
    | cons entry entries ih =>
      intro entries' hfst hsnd
      obtain ⟨key, a⟩ := entry
      obtain ⟨⟨key', a'⟩, rest, rfl, hkey, hrest⟩ := List.map_eq_cons_iff.1 hfst.symm
      obtain rfl : key' = key := hkey
      have ha : a = a' := hsnd _ a a' List.mem_cons_self List.mem_cons_self
      have hrest' : entries = rest := by
        apply ih rest hrest.symm
        intro k b b' hb hb'
        exact hsnd k b b' (List.mem_cons_of_mem _ hb) (List.mem_cons_of_mem _ hb')
      rw [ha, hrest']
  have heq : m.entries = m'.entries := by
    apply hentries _ _ hkeys
    intro key a a' ha ha'
    exact hvalues key a a' (get?_eq_some_iff.2 ha) (get?_eq_some_iff.2 ha')
  cases m
  cases m'
  cases heq
  rfl

end OrderedMap

end RecordFilter
