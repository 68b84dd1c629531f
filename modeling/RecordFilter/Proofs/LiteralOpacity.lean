import Mathlib.Tactic.Common
import RecordFilter.Proofs.FragmentPieces
import RecordFilter.Proofs.OperandVariation

/-!
# The content of a literal does not influence structure

Two texts that are equal but for the content of one literal are read alike: both readings succeed,
with filters that are equal but for one string, or both fail for the same kind of reason. The two
readings are followed step by step. The literal is in one place at any time, in the text that is
still to be read or in a slot, and the number of places is kept as it moves from one to the other.
-/

namespace RecordFilter.Proofs
open RecordFilter.Text RecordFilter.Parser RecordFilter.Number

variable {v v' : List Char}

/-- The same groups are in the slots, equal but for as many strings as the number says. -/
inductive SlotsVary : Nat → Slots → Slots → Prop
  | nil : SlotsVary 0 [] []
  | taken {n : Nat} {slots slots' : Slots} (source source' : List Char)
      (h : SlotsVary n slots slots') :
      SlotsVary n (⟨source, none⟩ :: slots) (⟨source', none⟩ :: slots')
  | held {n m : Nat} {slots slots' : Slots} {content content' : Filter}
      (source source' : List Char) (hcontent : FilterVaries n content content')
      (h : SlotsVary m slots slots') :
      SlotsVary (n + m) (⟨source, some content⟩ :: slots) (⟨source', some content'⟩ :: slots')

lemma SlotsVary.length_eq {n : Nat} {slots slots' : Slots} (h : SlotsVary n slots slots') :
    slots.length = slots'.length := by
  induction h with
  | nil => rfl
  | taken _ _ _ ih => rw [List.length_cons, List.length_cons, ih]
  | held _ _ _ _ ih => rw [List.length_cons, List.length_cons, ih]

lemma SlotsVary.bind {n m : Nat} {slots slots' : Slots} {content content' : Filter}
    (h : SlotsVary n slots slots') (source source' : List Char)
    (hcontent : FilterVaries m content content') :
    SlotsVary (m + n) (slots.bind source content) (slots'.bind source' content') := by
  induction h with
  | nil => exact .held source source' hcontent .nil
  | taken src src' _ ih => exact .taken src src' ih
  | @held n₁ n₂ _ _ _ _ src src' hheld _ ih =>
    have hbind := SlotsVary.held src src' hheld ih
    rw [Nat.add_left_comm] at hbind
    exact hbind

lemma take?_cons_succ (slot : Slot) (slots : Slots) (number : Nat) :
    Slots.take? (slot :: slots) (number + 1) =
      (slots.take? number).map fun (content, slots) => (content, slot :: slots) := by
  unfold Slots.take?
  rw [List.getElem?_cons_succ]
  rcases slots[number]? with _ | ⟨source, _ | content⟩
  · rfl
  · rfl
  · rfl

/-- What is taken varies together with what is left. -/
lemma SlotsVary.take? {n : Nat} {slots slots' : Slots} (h : SlotsVary n slots slots')
    (number : Nat) :
    (slots.take? number = none ∧ slots'.take? number = none) ∨
      ∃ content content' rest rest' n₁ n₂, slots.take? number = some (content, rest) ∧
        slots'.take? number = some (content', rest') ∧ FilterVaries n₁ content content' ∧
        SlotsVary n₂ rest rest' ∧ n₁ + n₂ = n := by
  induction h generalizing number with
  | nil => exact .inl ⟨rfl, rfl⟩
  | @taken n slots slots' source source' h ih =>
    cases number with
    | zero => exact .inl ⟨rfl, rfl⟩
    | succ number =>
      rw [take?_cons_succ, take?_cons_succ]
      rcases ih number with ⟨hs, hs'⟩ |
        ⟨content, content', rest, rest', n₁, n₂, hs, hs', hcontent, hrest, hn⟩
      · rw [hs, hs']
        exact .inl ⟨rfl, rfl⟩
      · rw [hs, hs']
        exact .inr ⟨_, _, _, _, n₁, n₂, rfl, rfl, hcontent, hrest.taken source source', hn⟩
  | @held n m slots slots' held held' source source' hheld h ih =>
    cases number with
    | zero => exact .inr ⟨held, held', _, _, n, m, rfl, rfl, hheld, h.taken source source', rfl⟩
    | succ number =>
      rw [take?_cons_succ, take?_cons_succ]
      rcases ih number with ⟨hs, hs'⟩ |
        ⟨content, content', rest, rest', n₁, n₂, hs, hs', hcontent, hrest, hn⟩
      · rw [hs, hs']
        exact .inl ⟨rfl, rfl⟩
      · rw [hs, hs']
        exact .inr ⟨_, _, _, _, n₁, n + n₂, rfl, rfl, hcontent, hrest.held source source' hheld, by omega⟩

/-! ### The reading -/

/-- The results of two readings: the strings that vary are in the filter or in the slots. -/
def ReadVaries (n : Nat) (read read' : Filter × Slots) : Prop :=
  ∃ n₁ n₂, FilterVaries n₁ read.1 read'.1 ∧ SlotsVary n₂ read.2 read'.2 ∧ n₁ + n₂ = n

lemma placeholderNumber?_varies {q : QuoteState} {n : Nat} {s s' : List Char}
    (h : TextVaries v v' q n s s') :
    (placeholderNumber? s = none ∧ placeholderNumber? s' = none) ∨
      ∃ number, placeholderNumber? s = some number ∧ placeholderNumber? s' = some number ∧
        n = 0 := by
  cases h with
  | same =>
    cases hnumber : placeholderNumber? s with
    | none => exact .inl ⟨rfl, rfl⟩
    | some number => exact .inr ⟨number, rfl, rfl, rfl⟩
  | literal before after h =>
    exact .inl ⟨placeholderNumber?_of_quote (quote_mem_literal before after),
      placeholderNumber?_of_quote (quote_mem_literal before after)⟩

lemma readFlat_varies (policy : Policy) {n m : Nat} {s s' : List Char} {slots slots' : Slots}
    (hs : TextVaries v v' .outside n s s') (hslots : SlotsVary m slots slots') :
    Similar (ReadVaries (n + m)) (readFlat policy s slots) (readFlat policy s' slots') := by
  induction hlen : s.length using Nat.strongRecOn generalizing n m s s' slots slots' with
  | ind k ih =>
    have htrim := hs.trim
    have hle := length_trim_le s
    rcases placeholderNumber?_varies htrim with ⟨hnone, hnone'⟩ | ⟨number, hnumber, hnumber', rfl⟩
    · rcases afterNegation?_varies htrim with ⟨hnot, hnot'⟩ | ⟨rest, rest', hrest, hrest', hvaries⟩
      · rcases splitAtConnective?_varies htrim with ⟨hsplit, hsplit'⟩ |
          ⟨connective, left, right, left', right', n₁, n₂, hsplit, hsplit', hleft, hright, rfl⟩
        · rw [readFlat_comparison hnone hnot hsplit, readFlat_comparison hnone' hnot' hsplit']
          refine (readComparison_varies policy slots slots' htrim).bind fun p p' hp => ?_
          exact .ok ⟨n, m, hp, hslots, rfl⟩
        · have hlt : left.length < _ ∧ right.length < _ := length_lt_of_splitAtConnective? hsplit
          rw [readFlat_joined hnone hnot hsplit, readFlat_joined hnone' hnot' hsplit']
          refine (ih _ (by omega) hleft hslots rfl).bind ?_
          rintro ⟨p, slots₁⟩ ⟨p', slots₁'⟩ ⟨a, b, hp, hslots₁, hab⟩
          refine (ih _ (by omega) hright hslots₁ rfl).bind ?_
          rintro ⟨r, slots₂⟩ ⟨r', slots₂'⟩ ⟨c, d, hr, hslots₂, hcd⟩
          exact .ok ⟨a + c, d, .joined connective hp hr, hslots₂, by omega⟩
      · have hlt := length_lt_of_afterNegation? hrest
        rw [readFlat_negation hnone hrest, readFlat_negation hnone' hrest']
        refine (ih _ (by omega) hvaries hslots rfl).bind ?_
        rintro ⟨p, slots₁⟩ ⟨p', slots₁'⟩ ⟨a, b, hp, hslots₁, hab⟩
        exact .ok ⟨a, b, .negation hp, hslots₁, hab⟩
    · rw [readFlat_placeholder hnumber, readFlat_placeholder hnumber']
      rcases hslots.take? number with ⟨hnone, hnone'⟩ |
        ⟨content, content', rest, rest', n₁, n₂, htake, htake', hcontent, hrest, hn⟩
      · rw [hnone, hnone']
        exact .error rfl
      · rw [htake, htake']
        exact .ok ⟨n₁, n₂, hcontent, hrest, by rw [hn, Nat.zero_add]⟩

/-- The results of two replacements: a literal that varies is still in the text or has gone to a
slot with its group. -/
def ResolveVaries (v v' : List Char) (q : QuoteState) (n m : Nat)
    (resolved resolved' : List Char × Slots) : Prop :=
  ∃ n₁ n₂, TextVaries v v' q n₁ resolved.1 resolved'.1 ∧ SlotsVary n₂ resolved.2 resolved'.2 ∧
    n₁ + n₂ = n + m ∧ n₁ ≤ n

/-- Fragments shorter than a bound are read alike. -/
def ReadAlikeBelow (policy : Policy) (v v' : List Char) (bound : Nat) : Prop :=
  ∀ {n m : Nat} {s s' : List Char} {slots slots' : Slots}, s.length < bound →
    TextVaries v v' .outside n s s' → SlotsVary m slots slots' →
    Similar (ReadVaries (n + m)) (readFragment policy s slots) (readFragment policy s' slots')

lemma resolveFrom_opaque_append {policy : Policy} {whole : List Char} {q : QuoteState}
    {m : List Char} (hm : isOpaque q m = true) (s : List Char) (slots : Slots) :
    resolveFrom policy whole q (m ++ s) slots =
      (resolveFrom policy whole (q.after m) s slots).map
        fun (flat, slots) => (m ++ flat, slots) := by
  induction m generalizing q with
  | nil =>
    rw [List.nil_append, QuoteState.after_nil]
    cases resolveFrom policy whole q s slots <;> rfl
  | cons c m ih =>
    simp only [isOpaque, Bool.and_eq_true, Bool.not_eq_true'] at hm
    have hc : ∀ d, ¬(q.isStructural c = true ∧ c = d) := by simp [hm.1]
    rw [List.cons_append, resolveFrom_char (hc _) (hc _), ih hm.2, QuoteState.after_cons]
    cases resolveFrom policy whole ((q.next c).after m) s slots <;> rfl

/-- Texts that vary begin alike unless the literal is what they begin with. -/
lemma TextVaries.exists_head {q : QuoteState} {n : Nat} {s s' : List Char}
    (h : TextVaries v v' q n s s') :
    (s = [] ∧ s' = [] ∧ n = 0) ∨
      (∃ after, s = Literal.encode v ++ after ∧ s' = Literal.encode v' ++ after ∧ q = .outside ∧
        n = 1) ∨
      ∃ c t t', s = c :: t ∧ s' = c :: t' ∧ TextVaries v v' (q.next c) n t t' := by
  cases h with
  | same =>
    cases s with
    | nil => exact .inl ⟨rfl, rfl, rfl⟩
    | cons c t => exact .inr (.inr ⟨c, t, t, rfl, rfl, .same t⟩)
  | literal before after h =>
    cases before with
    | nil => exact .inr (.inl ⟨after, rfl, rfl, h, rfl⟩)
    | cons c before => exact .inr (.inr ⟨c, _, _, rfl, rfl, .literal before after h⟩)

lemma TextVaries.eq_of_zero {q : QuoteState} {s s' : List Char} (h : TextVaries v v' q 0 s s') :
    s = s' := by
  cases h
  rfl

lemma resolveFrom_varies {policy : Policy} (whole whole' : List Char) {bound : Nat}
    (hgroups : ReadAlikeBelow policy v v' bound) {q : QuoteState} {n m : Nat} {s s' : List Char}
    {slots slots' : Slots} (hbound : s.length ≤ bound) (hs : TextVaries v v' q n s s')
    (hslots : SlotsVary m slots slots') :
    Similar (ResolveVaries v v' q n m) (resolveFrom policy whole q s slots)
      (resolveFrom policy whole' q s' slots') := by
  induction hlen : s.length using Nat.strongRecOn generalizing q n m s s' slots slots' with
  | ind k ih =>
    rcases hs.exists_head with ⟨rfl, rfl, rfl⟩ | ⟨after, rfl, rfl, rfl, rfl⟩ |
      ⟨c, t, t', rfl, rfl, ht⟩
    · rw [resolveFrom, resolveFrom]
      exact .ok ⟨0, m, .same [], hslots, rfl, Nat.le_refl 0⟩
    · rw [resolveFrom_opaque_append (isOpaque_encode v), after_encode,
        resolveFrom_opaque_append (isOpaque_encode v'), after_encode]
      have hlt : after.length < k := by
        rw [← hlen, List.length_append]
        simp [Literal.encode]
      refine (ih _ hlt (by omega) (.same after) hslots rfl).map ?_
      rintro ⟨flat, slots₁⟩ ⟨flat', slots₁'⟩ ⟨n₁, n₂, hflat, hslots₁, hn, hle⟩
      obtain rfl := Nat.le_zero.1 hle
      obtain rfl : flat = flat' := hflat.eq_of_zero
      exact ⟨1, n₂, .literal [] flat rfl, hslots₁, by omega, Nat.le_refl 1⟩
    · rw [List.length_cons] at hlen hbound
      by_cases hopen : q.isStructural c = true ∧ c = '('
      · obtain ⟨hq, rfl⟩ := hopen
        obtain ⟨rfl, -⟩ := QuoteState.isStructural_iff.1 hq
        rw [next_outside_of_ne (by decide)] at ht
        rcases takeGroup?_varies ht with ⟨htake, htake'⟩ |
          ⟨group, rest, group', rest', n₁, n₂, htake, htake', hgroup, hrest, rfl⟩
        · rw [resolveFrom_unclosed htake, resolveFrom_unclosed htake']
          exact .error rfl
        · have hlt := length_lt_of_takeGroup? htake
          obtain ⟨hclosed, rfl⟩ := isClosed_of_takeGroup? htake
          obtain ⟨hclosed', rfl⟩ := isClosed_of_takeGroup? htake'
          rw [resolveFrom_group hclosed, resolveFrom_group hclosed']
          refine (hgroups (by omega) hgroup hslots).bind ?_
          rintro ⟨content, slots₁⟩ ⟨content', slots₁'⟩ ⟨a, b, hcontent, hslots₁, hab⟩
          have hbound' := hslots₁.bind group group' hcontent
          refine (ih _ (by omega) (by omega) hrest hbound' rfl).bind ?_
          rintro ⟨flat, slots₂⟩ ⟨flat', slots₂'⟩ ⟨n₃, n₄, hflat, hslots₂, hn, hle⟩
          have hnumber : slots₁.length = slots₁'.length := hslots₁.length_eq
          simp only [hnumber]
          exact .ok ⟨n₃, n₄, hflat.append (after_placeholder _), hslots₂, by omega, by omega⟩
      · by_cases hclose : q.isStructural c = true ∧ c = ')'
        · obtain ⟨hq, rfl⟩ := hclose
          obtain ⟨rfl, -⟩ := QuoteState.isStructural_iff.1 hq
          rw [resolveFrom_closing, resolveFrom_closing]
          exact .error rfl
        · rw [resolveFrom_char hopen hclose, resolveFrom_char hopen hclose]
          refine (ih _ (by omega) (by omega) ht hslots rfl).bind ?_
          rintro ⟨flat, slots₁⟩ ⟨flat', slots₁'⟩ ⟨n₁, n₂, hflat, hslots₁, hn, hle⟩
          exact .ok ⟨n₁, n₂, hflat.cons c, hslots₁, hn, hle⟩

lemma readFragment_varies (policy : Policy) {n m : Nat} {s s' : List Char} {slots slots' : Slots}
    (hs : TextVaries v v' .outside n s s') (hslots : SlotsVary m slots slots') :
    Similar (ReadVaries (n + m)) (readFragment policy s slots) (readFragment policy s' slots') := by
  induction hlen : s.length using Nat.strongRecOn generalizing n m s s' slots slots' with
  | ind k ih =>
    have hgroups : ReadAlikeBelow policy v v' k := by
      intro n m t t' slots slots' hlt ht hslots
      exact ih _ hlt ht hslots rfl
    have hle := length_trim_le s
    rw [readFragment, readFragment]
    refine (resolveFrom_varies _ _ hgroups (by omega) hs.trim hslots).bind ?_
    rintro ⟨flat, slots₁⟩ ⟨flat', slots₁'⟩ ⟨n₁, n₂, hflat, hslots₁, hn, -⟩
    rw [← hn]
    exact readFlat_varies policy hflat hslots₁

/-- What is in a literal is only seen in the filter: whatever surrounds the literal, the text with
another string in it is read to a filter that is equal but for at most one string, or fails for
the same kind of reason. -/
theorem ofText_literal (policy : Policy) {before : String}
    (h : QuoteState.outside.after before.toList = .outside) (after v v' : String) :
    Similar (fun p p' => ∃ n ≤ 1, FilterVaries n p p')
      (Filter.ofText policy (before ++ String.ofList (Literal.encode v.toList) ++ after))
      (Filter.ofText policy (before ++ String.ofList (Literal.encode v'.toList) ++ after)) := by
  have hlist : ∀ v : String,
      (before ++ String.ofList (Literal.encode v.toList) ++ after).toList =
        before.toList ++ (Literal.encode v.toList ++ after.toList) := by
    intro v
    rw [String.toList_append, String.toList_append, String.toList_ofList, List.append_assoc]
  unfold Filter.ofText readWithSlots
  rw [hlist, hlist, if_neg (trim_literal_ne_nil _ _ _), if_neg (trim_literal_ne_nil _ _ _)]
  refine (readFragment_varies policy (.literal _ _ h) .nil).map ?_
  rintro ⟨p, slots⟩ ⟨p', slots'⟩ ⟨n₁, n₂, hp, -, hn⟩
  exact ⟨n₁, by omega, hp⟩

/-- A literal with parentheses, quotes and connectives in it. -/
theorem ofText_literal_lookalike :
    QuoteState.outside.after "not (a eq ".toList = .outside ∧
      (Filter.ofText .strict ("not (a eq " ++ String.ofList (Literal.encode ") or ('@Sub_0'".toList)
        ++ ") and b in [1, 2]")).toOption.isSome = true ∧
      Similar (fun p p' => ∃ n ≤ 1, FilterVaries n p p')
        (Filter.ofText .strict ("not (a eq " ++ String.ofList (Literal.encode "plain".toList)
          ++ ") and b in [1, 2]"))
        (Filter.ofText .strict ("not (a eq " ++
          String.ofList (Literal.encode ") or ('@Sub_0'".toList) ++ ") and b in [1, 2]")) :=
  ⟨by decide, by decide +kernel, ofText_literal .strict (by decide) _ _ _⟩

end RecordFilter.Proofs
