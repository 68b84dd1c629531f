import Mathlib.Data.List.Induction
import Mathlib.Data.List.Perm.Basic
import Mathlib.Data.String.Basic
import Mathlib.Tactic.Common
import RecordFilter.Json.Reader
import RecordFilter.Proofs.JsonTokens

/-!
# JSON is read back from its text

The tokens of a value without loss are read back as the value, whatever containers are open around
it, as long as it fits under the greatest depth. Reading an object puts its members in order, so
what is written from members in order comes back as it was.
-/

namespace RecordFilter.Proofs
open RecordFilter.Json RecordFilter.JsonToken

section Members

variable {name : String} {value : Json} {members : List (String × Json)}

lemma mem_put {member : String × Json} (h : member ∈ put name value members) :
    member = (name, value) ∨ member ∈ members := by
  induction members with
  | nil => exact .inl (List.mem_singleton.1 h)
  | cons first members ih =>
    obtain ⟨n, v⟩ := first
    rw [put] at h
    split at h
    · rcases List.mem_cons.1 h with h | h
      · exact .inl h
      · exact .inr h
    · split at h
      · rcases List.mem_cons.1 h with h | h
        · exact .inl h
        · exact .inr (List.mem_cons_of_mem _ h)
      · rcases List.mem_cons.1 h with h | h
        · exact .inr (h ▸ List.mem_cons_self)
        · rcases ih h with h | h
          · exact .inl h
          · exact .inr (List.mem_cons_of_mem _ h)

/-- Putting a member keeps the names in order. -/
lemma pairwise_put (h : (members.map Prod.fst).Pairwise (· < ·)) :
    ((put name value members).map Prod.fst).Pairwise (· < ·) := by
  induction members with
  | nil => exact List.pairwise_singleton _ _
  | cons first members ih =>
    obtain ⟨n, v⟩ := first
    obtain ⟨hn, hmembers⟩ := List.pairwise_cons.1 h
    rw [put]
    by_cases hlt : name < n
    · rw [if_pos hlt]
      refine List.pairwise_cons.2 ⟨?_, h⟩
      intro n' hn'
      rcases List.mem_cons.1 hn' with rfl | hn'
      · exact hlt
      · exact hlt.trans (hn n' hn')
    · rw [if_neg hlt]
      by_cases heq : name = n
      · subst heq
        rw [if_pos rfl]
        exact h
      · rw [if_neg heq]
        refine List.pairwise_cons.2 ⟨?_, ih hmembers⟩
        intro n' hn'
        obtain ⟨member, hmember, rfl⟩ := List.mem_map.1 hn'
        rcases mem_put hmember with rfl | hmember
        · exact lt_of_le_of_ne (not_lt.1 hlt) (Ne.symm heq)
        · exact hn _ (List.mem_map.2 ⟨member, hmember, rfl⟩)

/-- A new member is put in, and the others stay. -/
lemma perm_put (h : name ∉ members.map Prod.fst) :
    (put name value members).Perm ((name, value) :: members) := by
  induction members with
  | nil => exact .refl _
  | cons first members ih =>
    obtain ⟨n, v⟩ := first
    rw [List.map_cons, List.mem_cons, not_or] at h
    rw [put]
    by_cases hlt : name < n
    · rw [if_pos hlt]
    · rw [if_neg hlt, if_neg h.1]
      exact ((ih h.2).cons _).trans (List.Perm.swap _ _ _)

/-- All members put into an object without members. -/
def putAll (members : List (String × Json)) : List (String × Json) :=
  members.foldl (fun acc (name, value) => put name value acc) []

lemma ofMembers_eq (members : List (String × Json)) :
    ofMembers members = .object (putAll members) := rfl

lemma putAll_concat (members : List (String × Json)) (member : String × Json) :
    putAll (members ++ [member]) = put member.1 member.2 (putAll members) := by
  rw [putAll, List.foldl_append]
  rfl

lemma pairwise_putAll (members : List (String × Json)) :
    ((putAll members).map Prod.fst).Pairwise (· < ·) := by
  induction members using List.reverseRecOn with
  | nil => exact .nil
  | append_singleton members member ih =>
    rw [putAll_concat]
    exact pairwise_put ih

lemma mem_of_mem_putAll {member : String × Json} (h : member ∈ putAll members) :
    member ∈ members := by
  induction members using List.reverseRecOn with
  | nil => exact h
  | append_singleton members last ih =>
    rw [putAll_concat] at h
    rcases mem_put h with rfl | h
    · exact List.mem_append_right _ List.mem_cons_self
    · exact List.mem_append_left _ (ih h)

/-- Members with different names are all kept. -/
lemma perm_putAll (h : (members.map Prod.fst).Nodup) : (putAll members).Perm members := by
  induction members using List.reverseRecOn with
  | nil => exact .refl _
  | append_singleton members member ih =>
    rw [List.map_append, List.map_singleton, List.nodup_append] at h
    obtain ⟨hmembers, -, hnew⟩ := h
    have hperm := ih hmembers
    have hname : member.1 ∉ (putAll members).map Prod.fst := by
      intro hmem
      exact hnew _ ((hperm.map Prod.fst).subset hmem) _ List.mem_cons_self rfl
    rw [putAll_concat]
    exact ((perm_put hname).trans (hperm.cons _)).trans (List.perm_append_singleton _ _).symm

lemma nodup_of_pairwise_lt (h : (members.map Prod.fst).Pairwise (· < ·)) :
    (members.map Prod.fst).Nodup := by
  apply h.imp
  intro a b hlt
  exact hlt.ne

/-- Two lists of members in order that differ in order at most are equal. -/
lemma eq_of_perm_of_pairwise {members' : List (String × Json)} (hperm : members.Perm members')
    (h : (members.map Prod.fst).Pairwise (· < ·)) (h' : (members'.map Prod.fst).Pairwise (· < ·)) :
    members = members' := by
  rw [List.pairwise_map] at h h'
  apply hperm.eq_of_pairwise _ h h'
  intro a b _ _ hab hba
  exact absurd hba hab.asymm

/-- Members that are in order stay as they are. -/
lemma ofMembers_of_pairwise (h : (members.map Prod.fst).Pairwise (· < ·)) :
    ofMembers members = .object members := by
  rw [ofMembers_eq,
    eq_of_perm_of_pairwise (perm_putAll (nodup_of_pairwise_lt h)) (pairwise_putAll members) h]

/-- The order in which members with different names are given makes no difference. -/
lemma ofMembers_congr_of_perm {members' : List (String × Json)} (hperm : members.Perm members')
    (h : (members.map Prod.fst).Nodup) : ofMembers members = ofMembers members' := by
  have h' : (members'.map Prod.fst).Nodup := (hperm.map Prod.fst).nodup_iff.1 h
  rw [ofMembers_eq, ofMembers_eq, eq_of_perm_of_pairwise
    (((perm_putAll h).trans hperm).trans (perm_putAll h').symm) (pairwise_putAll members)
    (pairwise_putAll members')]

lemma isExact_ofMembers {depth : Nat} (h : ∀ member ∈ members, IsExact depth member.2) :
    IsExact (depth + 1) (ofMembers members) := by
  rw [ofMembers_eq]
  exact .object (pairwise_putAll members) fun member hmember => h member (mem_of_mem_putAll hmember)

end Members

/-! ### Values -/

/-- A value starts with a token of its own: none that closes an array, and a string only if it is
that string. -/
lemma tokens_head (j : Json) (ts : List JsonToken) :
    (∀ rest, tokens j ++ ts ≠ .closeBracket :: rest) ∧
      ∀ name rest, tokens j ++ ts = .string name :: rest → rest = ts := by
  cases j with
  | array items =>
    cases items with
    | nil => simp [tokens]
    | cons item items => simp [tokens]
  | object members =>
    cases members with
    | nil => simp [tokens]
    | cons member members => simp [tokens]
  | string s => simp [tokens]
  | _ => simp [tokens]

section Values

variable {stack : List Frame} {ts : List JsonToken}

lemma readValue?_openBracket (hdepth : stack.length < maxDepth)
    (h : ∀ rest, ts ≠ .closeBracket :: rest) :
    readValue? stack (.openBracket :: ts) = readValue? (.array [] :: stack) ts := by
  rw [readValue?]
  · exact if_pos hdepth
  · exact h

lemma readAfter?_comma {value : Json} {items : List Json}
    (h : ∀ name rest, ts ≠ .string name :: .colon :: rest) :
    readAfter? value (.array items :: stack) (.comma :: ts) =
      readValue? (.array (value :: items) :: stack) ts := by
  rw [readAfter?]
  exact h

/-- The text of the value is read up to its end and then read on. -/
def ReadsValue (depth : Nat) (j : Json) : Prop :=
  ∀ stack : List Frame, stack.length + depth ≤ maxDepth → ∀ ts,
    readValue? stack (tokens j ++ ts) = readAfter? j stack ts

/-- Items are read up to the bracket that closes them. -/
lemma readAfter?_itemTokens {depth : Nat} {items : List Json}
    (h : ∀ item ∈ items, ReadsValue depth item) (hdepth : stack.length + 1 + depth ≤ maxDepth)
    (value : Json) (before : List Json) (ts : List JsonToken) :
    readAfter? value (.array before :: stack) (itemTokens items ++ .closeBracket :: ts) =
      readAfter? (.array (before.reverse ++ value :: items)) stack ts := by
  induction items generalizing value before with
  | nil =>
    rw [itemTokens, List.nil_append, readAfter?, List.reverse_cons]
  | cons item items ih =>
    rw [List.forall_mem_cons] at h
    obtain ⟨hitem, hitems⟩ := h
    have hcolon : ∀ name rest, tokens item ++ (itemTokens items ++ .closeBracket :: ts) ≠
        .string name :: .colon :: rest := by
      intro name rest heq
      have hrest := (tokens_head item _).2 name _ heq
      cases items with
      | nil => cases hrest
      | cons item' items => cases hrest
    rw [itemTokens, List.cons_append, List.cons_append, List.append_assoc, readAfter?_comma hcolon,
      hitem _ (by simpa using hdepth), ih hitems]
    simp

/-- Members are read up to the brace that closes them. -/
lemma readAfter?_memberTokens {depth : Nat} {members : List (String × Json)}
    (h : ∀ member ∈ members, ReadsValue depth member.2)
    (hdepth : stack.length + 1 + depth ≤ maxDepth) (name : String) (value : Json)
    (before : List (String × Json)) (ts : List JsonToken) :
    readAfter? value (.object before name :: stack) (memberTokens members ++ .closeBrace :: ts) =
      readAfter? (ofMembers (before.reverse ++ (name, value) :: members)) stack ts := by
  induction members generalizing name value before with
  | nil =>
    rw [memberTokens, List.nil_append, readAfter?, List.reverse_cons]
  | cons member members ih =>
    obtain ⟨name', value'⟩ := member
    rw [List.forall_mem_cons] at h
    obtain ⟨hmember, hmembers⟩ := h
    have hstep : readAfter? value (.object before name :: stack)
        (memberTokens ((name', value') :: members) ++ .closeBrace :: ts) =
      readValue? (.object ((name, value) :: before) name' :: stack)
        (tokens value' ++ (memberTokens members ++ .closeBrace :: ts)) := by
      simp only [memberTokens, List.cons_append, List.append_assoc, readAfter?]
    rw [hstep, hmember _ (by simpa using hdepth), ih hmembers]
    simp

/-- A value without loss is read from its tokens, with anything that comes after them. -/
theorem readsValue_of_isExact {depth : Nat} {j : Json} (h : IsExact depth j) :
    ReadsValue depth j := by
  induction h with
  | null => exact fun _ _ _ => rfl
  | boolean => exact fun _ _ _ => rfl
  | number => exact fun _ _ _ => rfl
  | string => exact fun _ _ _ => rfl
  | @array depth items _ ih =>
    intro stack hdepth ts
    have hopen : stack.length < maxDepth := by omega
    cases items with
    | nil =>
      show readValue? stack (.openBracket :: .closeBracket :: ts) = _
      rw [readValue?, if_pos hopen]
    | cons item items =>
      rw [List.forall_mem_cons] at ih
      obtain ⟨hitem, hitems⟩ := ih
      have htokens : tokens (.array (item :: items)) ++ ts =
          .openBracket :: (tokens item ++ (itemTokens items ++ .closeBracket :: ts)) := by
        simp [tokens]
      rw [htokens, readValue?_openBracket hopen (tokens_head item _).1,
        hitem _ (by simpa [Nat.add_right_comm, Nat.add_assoc] using hdepth),
        readAfter?_itemTokens hitems (by omega)]
      rfl
  | @object depth members hnames _ ih =>
    intro stack hdepth ts
    have hopen : stack.length < maxDepth := by omega
    cases members with
    | nil =>
      show readValue? stack (.openBrace :: .closeBrace :: ts) = _
      rw [readValue?, if_pos hopen]
    | cons member members =>
      obtain ⟨name, value⟩ := member
      rw [List.forall_mem_cons] at ih
      obtain ⟨hmember, hmembers⟩ := ih
      have htokens : tokens (.object ((name, value) :: members)) ++ ts =
          .openBrace :: .string name :: .colon ::
            (tokens value ++ (memberTokens members ++ .closeBrace :: ts)) := by
        simp [tokens]
      rw [htokens, readValue?, if_pos hopen,
        hmember _ (by simpa [Nat.add_right_comm, Nat.add_assoc] using hdepth),
        readAfter?_memberTokens hmembers (by omega), List.reverse_nil, List.nil_append,
        ofMembers_of_pairwise hnames]

end Values

/-- A text that is read as the tokens of a value is read as the value. -/
lemma ofText?_of_lexes {depth : Nat} {j : Json} (h : IsExact depth j) (hdepth : depth ≤ maxDepth)
    {s : List Char} (hs : Lexes s (tokens j)) : Json.ofText? (String.ofList s) = some j := by
  have htokens := hs [] isNumberEnd_nil
  rw [List.append_nil, readTokens?, Option.map_some, List.append_nil] at htokens
  have hread := readsValue_of_isExact h [] (by simpa using hdepth) []
  rw [List.append_nil] at hread
  rw [Json.ofText?, String.toList_ofList, htokens]
  exact hread

/-- A value without loss is read back from its compact and from its indented text. -/
theorem ofText?_text_of_isExact {depth : Nat} {j : Json} (h : IsExact depth j)
    (hdepth : depth ≤ maxDepth) :
    Json.ofText? j.text = some j ∧ Json.ofText? j.prettyText = some j :=
  ⟨ofText?_of_lexes h hdepth (lexes_compact h), ofText?_of_lexes h hdepth (lexes_indented h 0)⟩

end RecordFilter.Proofs
