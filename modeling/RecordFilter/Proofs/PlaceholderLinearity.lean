import Mathlib.Data.List.Nodup
import Mathlib.Data.List.Perm.Subperm
import RecordFilter.Proofs.FlatForms
import RecordFilter.Proofs.FragmentPieces

/-!
# Placeholders are used once

Reading a filter binds its groups to slots and takes them out again. A text can also hold
placeholders that its author typed, and these do take groups while the reading lasts. The count of
takings shows that no such reading succeeds: every mark outside literals of a fragment that is
read costs one taking, every group pays for one, and no slot gives twice.
-/

namespace RecordFilter.Proofs
open RecordFilter.Text RecordFilter.Parser RecordFilter.Number

/-- How often the beginning of a placeholder stands outside literals. -/
def countMarks (q : QuoteState) : List Char → Nat
  | [] => 0
  | c :: s =>
    (if q.isStructural c ∧ placeholderMark <+: c :: s then 1 else 0) + countMarks (q.next c) s

lemma countMarks_cons_of_ne {q : QuoteState} {c : Char} (hc : c ≠ '@') (s : List Char) :
    countMarks q (c :: s) = countMarks (q.next c) s := by
  have hmark : ¬placeholderMark <+: c :: s := fun h => hc (List.cons_prefix_cons.1 h).1.symm
  rw [countMarks, if_neg (fun h => hmark h.2), Nat.zero_add]

lemma countMarks_append_of_not_mem {q : QuoteState} {s : List Char} (hs : '@' ∉ s)
    (t : List Char) : countMarks q (s ++ t) = countMarks (q.after s) t := by
  induction s generalizing q with
  | nil => rfl
  | cons c s ih =>
    rw [List.mem_cons, not_or] at hs
    rw [List.cons_append, countMarks_cons_of_ne (Ne.symm hs.1)]
    exact ih hs.2

lemma countMarks_of_not_mem {q : QuoteState} {s : List Char} (hs : '@' ∉ s) :
    countMarks q s = 0 := by
  have h := countMarks_append_of_not_mem (q := q) hs []
  rwa [List.append_nil] at h

/-- No mark goes on past a character that only could begin one. -/
lemma countMarks_append_cons {q : QuoteState} {c : Char} (hc : c ∉ placeholderMark.tail)
    (s t : List Char) :
    countMarks q (s ++ c :: t) = countMarks q s + countMarks (q.after s) (c :: t) := by
  induction s generalizing q with
  | nil => simp [countMarks]
  | cons d s ih =>
    have hmark : placeholderMark <+: d :: (s ++ c :: t) ↔ placeholderMark <+: d :: s := by
      have hsplit : placeholderMark = '@' :: placeholderMark.tail := rfl
      rw [hsplit, List.cons_prefix_cons, List.cons_prefix_cons, prefix_append_cons_iff hc]
    rw [List.cons_append, countMarks, countMarks, ih, QuoteState.after_cons, Nat.add_assoc]
    simp only [hmark]

lemma countMarks_eq_zero_iff {q : QuoteState} {s : List Char} :
    countMarks q s = 0 ↔ cutFrom? [placeholderMark] q s = none := by
  induction s generalizing q with
  | nil => simp [countMarks, cutFrom?]
  | cons c s ih =>
    rw [countMarks, cutFrom?, separatorAt?]
    by_cases hq : q.isStructural c = true
    · by_cases hmark : placeholderMark <+: c :: s
      · simp [hq, hmark, List.isPrefixOf_iff_prefix.2 hmark]
      · have hmark' : placeholderMark.isPrefixOf (c :: s) = false := by
          rw [Bool.eq_false_iff]
          exact fun h => hmark (List.isPrefixOf_iff_prefix.1 h)
        simp [hq, hmark, hmark', ih]
    · simp [hq, ih]

lemma countMarks_trim (s : List Char) :
    countMarks .outside (trim s) = countMarks .outside s := by
  obtain ⟨x, y, hx, hy, hs⟩ := exists_eq_append_trim s
  have hat : ∀ {z : List Char}, Blanks z → '@' ∉ z := fun hz => not_mem_of_blanks hz (by decide)
  conv_rhs => rw [hs, List.append_assoc, countMarks_append_of_not_mem (hat hx), after_of_blanks hx]
  cases y with
  | nil => rw [List.append_nil]
  | cons c y =>
    have hc : c ∉ placeholderMark.tail := by
      intro hmem
      have hmark : ∀ c ∈ placeholderMark.tail, isBlank c = false := by decide
      exact Bool.eq_false_iff.1 (hmark c hmem) (hy c List.mem_cons_self)
    rw [countMarks_append_cons hc, countMarks_of_not_mem (hat hy), Nat.add_zero]

lemma countMarks_placeholder_append {digits : List Char} (hdigits : '@' ∉ digits)
    (s : List Char) :
    countMarks .outside (placeholderMark ++ digits ++ s) =
      1 + countMarks (QuoteState.outside.after digits) s := by
  have htail : '@' ∉ placeholderMark.tail ++ digits := by
    rw [List.mem_append, not_or]
    exact ⟨by decide, hdigits⟩
  have hsplit : placeholderMark ++ digits ++ s = '@' :: (placeholderMark.tail ++ digits ++ s) := rfl
  have hbegins : placeholderMark <+: placeholderMark ++ digits ++ s := by
    rw [List.append_assoc]
    exact List.prefix_append _ _
  have hnext : QuoteState.outside.next '@' = .outside := by decide
  have hafter : QuoteState.outside.after placeholderMark.tail = .outside := by decide
  rw [hsplit] at hbegins
  rw [hsplit, countMarks, if_pos ⟨by decide, hbegins⟩, hnext, countMarks_append_of_not_mem htail,
    QuoteState.after_append, hafter]

lemma at_not_mem_of_digits {digits : List Char} (h : digits.all Char.isDigit = true) :
    '@' ∉ digits := by
  intro hmem
  exact absurd (List.all_eq_true.1 h _ hmem) (by decide)

lemma countMarks_placeholder (number : Nat) (s : List Char) :
    countMarks .outside (placeholder number ++ s) = 1 + countMarks .outside s := by
  have hdigits : (digitsOf number).all Char.isDigit = true :=
    List.all_eq_true.2 fun _ => isDigit_of_mem_digitsOf
  have hquote : '\'' ∉ digitsOf number :=
    fun hmem => absurd (isDigit_of_mem_digitsOf hmem) (by decide)
  rw [placeholder, countMarks_placeholder_append (at_not_mem_of_digits hdigits),
    after_outside_of_no_quote hquote]

/-- A mark that begins at a character of the flat text begins there in the source. -/
lemma prefix_mark_flatText_iff (c : Char) (ps : List Piece) :
    placeholderMark <+: c :: flatText ps ↔ placeholderMark <+: c :: sourceText ps := by
  have hsplit : placeholderMark = '@' :: placeholderMark.tail := rfl
  rw [hsplit, List.cons_prefix_cons, List.cons_prefix_cons,
    prefix_flatText_iff (by decide) (by decide)]

lemma countStructural_of_not_mem {c : Char} {s : List Char} (h : c ∉ s) (q : QuoteState) :
    countStructural c q s = 0 := by
  induction s generalizing q with
  | nil => rfl
  | cons d s ih =>
    rw [List.mem_cons, not_or] at h
    rw [countStructural, if_neg (fun h' => h.1 h'.2.symm), ih h.2]

lemma countStructural_trim {c : Char} (hc : isBlank c = false) (s : List Char) :
    countStructural c .outside (trim s) = countStructural c .outside s := by
  obtain ⟨x, y, hx, hy, hs⟩ := exists_eq_append_trim s
  conv_rhs =>
    rw [hs, countStructural_append, countStructural_append,
      countStructural_of_not_mem (not_mem_of_blanks hx hc), after_of_blanks hx,
      countStructural_of_not_mem (not_mem_of_blanks hy hc), Nat.zero_add, Nat.add_zero]

lemma countMarks_group {source : List Char} (h : IsClosed source) (s : List Char) :
    countMarks .outside ('(' :: (source ++ ')' :: s)) =
      countMarks .outside source + countMarks .outside s := by
  rw [countMarks_cons_of_ne (by decide), next_opening, countMarks_append_cons (by decide), h.after,
    countMarks_cons_of_ne (by decide), next_closing]

lemma countStructural_group {source : List Char} (h : IsClosed source) (s : List Char) :
    countStructural '(' .outside ('(' :: (source ++ ')' :: s)) =
      1 + countStructural '(' .outside source + countStructural '(' .outside s := by
  rw [countStructural, if_pos (by decide), next_opening, countStructural_append, h.after,
    countStructural, if_neg (by decide), next_closing, Nat.zero_add, Nat.add_assoc]

lemma countMarks_negationMark_append (s : List Char) :
    countMarks .outside (negationMark ++ s) = countMarks .outside s := by
  rw [countMarks_append_of_not_mem (by decide), after_negationMark]

lemma countMarks_separator_append {connective : Connective} {separator : List Char}
    (h : (connective, separator) ∈ separators) (left right : List Char)
    (hafter : QuoteState.outside.after left = .outside) :
    countMarks .outside (left ++ (separator ++ right)) =
      countMarks .outside left + countMarks .outside right := by
  have hright : countMarks .outside (separator ++ right) = countMarks .outside right := by
    have hat : '@' ∉ separator := by rcases separator_eq_of_mem h with rfl | rfl <;> decide
    rw [countMarks_append_of_not_mem hat, after_separator h]
  have hblank : ∃ rest, separator = ' ' :: rest := by
    rcases separator_eq_of_mem h with rfl | rfl <;> exact ⟨_, rfl⟩
  obtain ⟨rest, rfl⟩ := hblank
  rw [← hright, List.cons_append, countMarks_append_cons (by decide), hafter]

/-- Some bindings and takings lead from the first slots to the second; the numbers are those that
were taken, in their order. -/
inductive Run : Slots → List Nat → Slots → Prop
  | refl (slots : Slots) : Run slots [] slots
  | bind {slots slots' : Slots} {taken : List Nat} (h : Run slots taken slots')
      (source : List Char) (content : Filter) : Run slots taken (slots'.bind source content)
  | take {slots slots' slots'' : Slots} {taken : List Nat} {number : Nat} {content : Filter}
      (h : Run slots taken slots') (htake : slots'.take? number = some (content, slots'')) :
      Run slots (taken ++ [number]) slots''

lemma Run.trans {slots slots' slots'' : Slots} {taken taken' : List Nat}
    (h : Run slots taken slots') (h' : Run slots' taken' slots'') :
    Run slots (taken ++ taken') slots'' := by
  induction h' with
  | refl =>
    rw [List.append_nil]
    exact h
  | bind _ source content ih => exact ih.bind source content
  | take _ htake ih =>
    rw [← List.append_assoc]
    exact ih.take htake

/-- The filter is built from comparisons and from groups. The content of a group is built first and
bound to a slot; it enters the filter where it is taken out again. The numbers are those that were
taken, in their order. -/
inductive Builds : Slots → List Nat → Filter → Slots → Prop
  | comparison (field : String) (comparator : Comparator) (operand : Operand Scalar)
      (slots : Slots) : Builds slots [] (.comparison field comparator operand) slots
  | negation {slots slots' : Slots} {taken : List Nat} {inner : Filter}
      (h : Builds slots taken inner slots') : Builds slots taken (.negation inner) slots'
  | joined {slots slots₁ slots' : Slots} {taken taken' : List Nat} {left right : Filter}
      (connective : Connective) (hleft : Builds slots taken left slots₁)
      (hright : Builds slots₁ taken' right slots') :
      Builds slots (taken ++ taken') (.joined connective left right) slots'
  | take {slots slots' : Slots} {number : Nat} {content : Filter}
      (htake : slots.take? number = some (content, slots')) : Builds slots [number] content slots'
  | bind {slots slots₁ slots' : Slots} {taken taken' : List Nat} {content p : Filter}
      (source : List Char) (hcontent : Builds slots taken content slots₁)
      (hp : Builds (slots₁.bind source content) taken' p slots') :
      Builds slots (taken ++ taken') p slots'

lemma Builds.run {slots slots' : Slots} {taken : List Nat} {p : Filter}
    (h : Builds slots taken p slots') : Run slots taken slots' := by
  induction h with
  | comparison _ _ _ slots => exact .refl slots
  | negation _ ih => exact ih
  | joined _ _ _ ihl ihr => exact ihl.trans ihr
  | take htake => exact .take (.refl _) htake
  | bind source _ _ ihcontent ihp => exact (ihcontent.bind source _).trans ihp

lemma take?_eq_some_iff {slots slots' : Slots} {number : Nat} {content : Filter} :
    slots.take? number = some (content, slots') ↔
      ∃ source, slots[number]? = some ⟨source, some content⟩ ∧
        slots' = slots.set number ⟨source, none⟩ := by
  rw [Slots.take?]
  split
  · next source content' hslot =>
    simp only [Option.some.injEq, Prod.mk.injEq, hslot, Slot.mk.injEq]
    constructor
    · rintro ⟨rfl, rfl⟩
      exact ⟨source, ⟨rfl, rfl⟩, rfl⟩
    · rintro ⟨source', ⟨rfl, rfl⟩, rfl⟩
      exact ⟨rfl, rfl⟩
  · next hslot =>
    constructor
    · intro h
      cases h
    · rintro ⟨source, hsome, -⟩
      exact absurd hsome (hslot source content)

lemma length_of_take? {slots slots' : Slots} {number : Nat} {content : Filter}
    (h : slots.take? number = some (content, slots')) : slots'.length = slots.length := by
  obtain ⟨source, -, rfl⟩ := take?_eq_some_iff.1 h
  exact List.length_set

/-- In a run from no slots, the numbers taken are those of the empty slots, each taken once. -/
lemma Run.nodup_and_mem_iff {slots : Slots} {taken : List Nat} (h : Run [] taken slots) :
    taken.Nodup ∧ ∀ number,
      number ∈ taken ↔ ∃ source, slots[number]? = some ⟨source, none⟩ := by
  induction h with
  | refl => simp
  | @bind slots' taken _ source content ih =>
    obtain ⟨hnodup, hmem⟩ := ih
    refine ⟨hnodup, fun number => ?_⟩
    rw [hmem, Slots.bind]
    by_cases hlt : number < slots'.length
    · rw [List.getElem?_append_left hlt]
    · rw [List.getElem?_append_right (by omega), List.getElem?_eq_none (by omega)]
      constructor
      · rintro ⟨_, h⟩
        cases h
      · rintro ⟨_, h⟩
        cases hsub : number - slots'.length with
        | zero => simp [hsub] at h
        | succ k => simp [hsub] at h
  | @take slots' slots'' taken number content _ htake ih =>
    obtain ⟨hnodup, hmem⟩ := ih
    obtain ⟨source, hslot, rfl⟩ := take?_eq_some_iff.1 htake
    have hlt : number < slots'.length := (List.getElem?_eq_some_iff.1 hslot).1
    have hnew : number ∉ taken := by
      rw [hmem, hslot]
      rintro ⟨_, h⟩
      cases h
    refine ⟨?_, fun number' => ?_⟩
    · rw [List.nodup_append]
      refine ⟨hnodup, List.nodup_singleton _, ?_⟩
      intro a ha b hb
      rw [List.mem_singleton] at hb
      rintro rfl
      exact hnew (hb ▸ ha)
    · rw [List.mem_append, List.mem_singleton, hmem]
      by_cases heq : number' = number
      · subst heq
        rw [List.getElem?_set_self hlt]
        simp
      · rw [List.getElem?_set_ne (Ne.symm heq)]
        simp [heq]

/-! ### What a reading costs -/

section Reading

variable {policy : Policy}

/-- All marks of a written comparison are in its token. -/
lemma countMarks_eq_zero_iff_of_writtenAs {s field token : List Char} {comparator : Comparator}
    (h : WrittenAs s field comparator token) :
    countMarks .outside s = 0 ↔ (cut? [placeholderMark] token).isSome = false := by
  obtain ⟨before, rfl, hat, hquote, -⟩ := h.exists_before
  rw [countMarks_append_of_not_mem hat, after_outside_of_no_quote hquote, countMarks_eq_zero_iff,
    cut?, Option.isSome_eq_false_iff, Option.isNone_iff_eq_none]

/-- A comparison is read from what is written as one without marks, if its word is no keyword and
its token is an operand. -/
lemma readComparison_eq_ok_iff {slots : Slots} {s : List Char} {p : Filter} :
    readComparison policy slots s = .ok p ↔
      countMarks .outside s = 0 ∧ ∃ field comparator token operand,
        WrittenAs s field comparator token ∧ isKeyword (String.ofList field) = false ∧
        readOperand policy comparator token = .ok operand ∧
        p = .comparison (String.ofList field) comparator operand := by
  constructor
  · intro h
    unfold readComparison at h
    dsimp only at h
    split at h
    · cases h
    · next field comparator token hwritten =>
      have hwritten := writtenAs_of_ofText? hwritten
      split at h
      · cases h
      · next hkeyword =>
        split at h
        · cases h
        · next hcut =>
          obtain ⟨operand, hoperand, h⟩ := bind_eq_ok_iff.1 h
          cases h
          exact ⟨(countMarks_eq_zero_iff_of_writtenAs hwritten).2 (Bool.eq_false_iff.2 hcut), field,
            comparator, token, operand, hwritten, Bool.eq_false_iff.2 hkeyword, hoperand, rfl⟩
  · rintro ⟨hmarks, field, comparator, token, operand, hwritten, hkeyword, hoperand, rfl⟩
    have hcut := (countMarks_eq_zero_iff_of_writtenAs hwritten).1 hmarks
    simp only [readComparison, ofText?_of_writtenAs hwritten, hkeyword, hcut, hoperand,
      Bool.false_eq_true, if_false, bind, Except.bind, pure, Except.pure]

/-- What is not read is either not written as a comparison or has a token that is no operand. -/
lemma readComparison_eq_error {slots : Slots} {s : List Char} {failure : Failure}
    (h : readComparison policy slots s = .error failure) :
    failure = .unreadable (String.ofList (slots.restore s)) ∨
      countMarks .outside s = 0 ∧ ∃ field comparator token,
        WrittenAs s field comparator token ∧
        readOperand policy comparator token = .error failure := by
  unfold readComparison at h
  dsimp only at h
  split at h
  · cases h
    exact .inl rfl
  · next field comparator token hwritten =>
    have hwritten := writtenAs_of_ofText? hwritten
    split at h
    · cases h
      exact .inl rfl
    · split at h
      · cases h
        exact .inl rfl
      · next hcut =>
        have hmarks := (countMarks_eq_zero_iff_of_writtenAs hwritten).2 (Bool.eq_false_iff.2 hcut)
        rcases bind_eq_error_iff.1 h with hoperand | ⟨_, -, h⟩
        · exact .inr ⟨hmarks, field, comparator, token, hwritten, hoperand⟩
        · cases h

lemma builds_of_readComparison {slots : Slots} {s : List Char} {p : Filter}
    (h : readComparison policy slots s = .ok p) :
    Builds slots [] p slots ∧ countMarks .outside s = 0 := by
  obtain ⟨hmarks, field, comparator, token, operand, -, -, -, rfl⟩ := readComparison_eq_ok_iff.1 h
  exact ⟨.comparison _ comparator operand slots, hmarks⟩

/-- Reading a flat fragment takes one slot for each mark of its text. -/
lemma builds_of_readFlat {s : List Char} {slots slots' : Slots} {p : Filter}
    (h : readFlat policy s slots = .ok (p, slots')) :
    ∃ taken, Builds slots taken p slots' ∧ taken.length = countMarks .outside s ∧
      slots'.length = slots.length := by
  induction hlen : s.length using Nat.strongRecOn generalizing s slots slots' p with
  | ind n ih =>
    have htrim := length_trim_le s
    rw [← countMarks_trim]
    cases hnumber : placeholderNumber? (trim s) with
    | some number =>
      rw [readFlat_placeholder hnumber] at h
      cases htake : slots.take? number with
      | some taken =>
        rw [htake] at h
        cases h
        obtain ⟨digits, hs, -, hdigits, -⟩ := placeholderNumber?_eq_some_iff.1 hnumber
        refine ⟨[number], .take htake, ?_, length_of_take? htake⟩
        have hcount := countMarks_placeholder_append (at_not_mem_of_digits hdigits) []
        rw [List.append_nil] at hcount
        rw [hs, hcount]
        rfl
      | none =>
        rw [htake] at h
        cases h
    | none =>
      cases hnot : afterNegation? (trim s) with
      | some rest =>
        rw [readFlat_negation hnumber hnot] at h
        obtain ⟨⟨inner, slots₁⟩, hinner, h⟩ := bind_eq_ok_iff.1 h
        cases h
        have hlt := length_lt_of_afterNegation? hnot
        obtain ⟨taken, hbuilds, htaken, hlength⟩ := ih rest.length (by omega) hinner rfl
        refine ⟨taken, hbuilds.negation, ?_, hlength⟩
        rw [htaken, afterNegation?_eq_some_iff.1 hnot, countMarks_negationMark_append]
      | none =>
        cases hsplit : splitAtConnective? (trim s) with
        | some split =>
          obtain ⟨connective, left, right⟩ := split
          rw [readFlat_joined hnumber hnot hsplit] at h
          obtain ⟨⟨p₁, slots₁⟩, hleft, h⟩ := bind_eq_ok_iff.1 h
          obtain ⟨⟨p₂, slots₂⟩, hright, h⟩ := bind_eq_ok_iff.1 h
          cases h
          have hlt := length_lt_of_splitAtConnective? hsplit
          dsimp only at hlt
          obtain ⟨taken, hbuilds, htaken, hlength⟩ := ih left.length (by omega) hleft rfl
          obtain ⟨taken', hbuilds', htaken', hlength'⟩ := ih right.length (by omega) hright rfl
          refine ⟨taken ++ taken', .joined connective hbuilds hbuilds', ?_,
            hlength'.trans hlength⟩
          obtain ⟨separator, hmem, hs, hafter⟩ := splitAtConnective?_eq_some hsplit
          have hmarks := countMarks_separator_append hmem left right hafter
          rw [List.length_append, htaken, htaken', hs, List.append_assoc, hmarks]
        | none =>
          rw [readFlat_comparison hnumber hnot hsplit] at h
          obtain ⟨comparison, hcomparison, h⟩ := bind_eq_ok_iff.1 h
          cases h
          obtain ⟨hbuilds, hmarks⟩ := builds_of_readComparison hcomparison
          exact ⟨[], hbuilds, hmarks.symm, rfl⟩

/-- Binding the groups of a fragment takes all that they hold, and leaves as many slots to take as
there are marks left. Whatever is built from the slots then is built from the first ones. -/
lemma builds_of_binds {q : QuoteState} {ps : List Piece} {slots slots' : Slots}
    (hps : WellScanned q ps) (hbinds : Binds policy ps slots slots')
    (hread : ∀ number source, (number, source) ∈ groupsOf ps → ∀ slots slots' p,
      readFragment policy source slots = .ok (p, slots') →
      ∃ taken, Builds slots taken p slots' ∧
        taken.length = countStructural '(' .outside source + countMarks .outside source ∧
        slots'.length = slots.length + countStructural '(' .outside source) :
    ∃ taken, (∀ taken' p slots'', Builds slots' taken' p slots'' →
        Builds slots (taken ++ taken') p slots'') ∧
      taken.length + countMarks q (flatText ps) =
        countStructural '(' q (sourceText ps) + countMarks q (sourceText ps) ∧
      slots'.length = slots.length + countStructural '(' q (sourceText ps) := by
  induction hbinds generalizing q with
  | nil slots => exact ⟨[], fun _ _ _ h => h, rfl, rfl⟩
  | @char c ps slots slots' _ ih =>
    cases hps with
    | char hopen hclose hps =>
      obtain ⟨taken, hbuilds, htaken, hlength⟩ := ih hps hread
      refine ⟨taken, hbuilds, ?_, ?_⟩
      · -- The text after the character begins with the rest of a mark in both texts or in none.
        rw [flatText, sourceText, countMarks, countMarks, countStructural, if_neg hopen]
        simp only [prefix_mark_flatText_iff]
        omega
      · rw [sourceText, countStructural, if_neg hopen, Nat.zero_add]
        exact hlength
  | @group source content ps slots slots₁ slots' hsource _ ih =>
    cases hps with
    | group hclosed hps =>
      obtain ⟨taken, hcontent, htaken, hlength⟩ :=
        hread slots₁.length source List.mem_cons_self slots slots₁ content hsource
      obtain ⟨taken', hbuilds, htaken', hlength'⟩ :=
        ih hps fun number source hmem => hread number source (List.mem_cons_of_mem _ hmem)
      refine ⟨taken ++ taken', ?_, ?_, ?_⟩
      · intro taken'' p slots'' h
        rw [List.append_assoc]
        exact .bind source hcontent (hbuilds taken'' p slots'' h)
      · rw [flatText, sourceText, countMarks_placeholder, countMarks_group hclosed,
          countStructural_group hclosed, List.length_append]
        omega
      · have hbind : (slots₁.bind source content).length = slots₁.length + 1 := by
          simp [Slots.bind]
        rw [sourceText, countStructural_group hclosed]
        omega

lemma length_lt_of_mem_groupsOf {ps : List Piece} {number : Nat} {source : List Char}
    (h : (number, source) ∈ groupsOf ps) : source.length < (sourceText ps).length := by
  induction ps with
  | nil => cases h
  | cons p ps ih =>
    cases p with
    | char c =>
      have hlt := ih h
      rw [sourceText, List.length_cons]
      omega
    | group number' source' =>
      simp only [sourceText, List.length_cons, List.length_append]
      rcases List.mem_cons.1 h with heq | hmem
      · cases heq
        omega
      · have hlt := ih hmem
        omega

/-- Reading a fragment binds one slot for each of its groups, and takes one for each group and for
each mark of its text. -/
theorem builds_of_readFragment {s : List Char} {slots slots' : Slots} {p : Filter}
    (h : readFragment policy s slots = .ok (p, slots')) :
    ∃ taken, Builds slots taken p slots' ∧
      taken.length = countStructural '(' .outside s + countMarks .outside s ∧
      slots'.length = slots.length + countStructural '(' .outside s := by
  induction hlen : s.length using Nat.strongRecOn generalizing s slots slots' p with
  | ind n ih =>
    rw [readFragment] at h
    obtain ⟨⟨flat, slots₁⟩, hresolve, hflat⟩ := bind_eq_ok_iff.1 h
    obtain ⟨ps, hps, hsource, rfl, hbinds⟩ := resolveFrom_eq_ok_iff.1 hresolve
    have hread : ∀ number source, (number, source) ∈ groupsOf ps → ∀ slots slots' p,
        readFragment policy source slots = .ok (p, slots') →
        ∃ taken, Builds slots taken p slots' ∧
          taken.length = countStructural '(' .outside source + countMarks .outside source ∧
          slots'.length = slots.length + countStructural '(' .outside source := by
      intro number source hmem slots slots' p h
      have hlt := length_lt_of_mem_groupsOf hmem
      rw [hsource] at hlt
      have htrim := length_trim_le s
      exact ih source.length (by omega) h rfl
    obtain ⟨taken, hbuilds, htaken, hlength⟩ := builds_of_binds hps hbinds hread
    obtain ⟨taken', hbuilds', htaken', hlength'⟩ := builds_of_readFlat hflat
    rw [hsource, countStructural_trim (by decide)] at htaken hlength
    rw [countMarks_trim] at htaken
    refine ⟨taken ++ taken', hbuilds taken' p slots' hbuilds', ?_, ?_⟩
    · rw [List.length_append]
      omega
    · omega

end Reading

/-- A reading from no slots takes every slot that it binds, and its text holds no mark. -/
lemma perm_range_of_run {slots : Slots} {taken : List Nat} {marks : Nat} (h : Run [] taken slots)
    (hlength : taken.length = slots.length + marks) :
    taken.Perm (List.range slots.length) ∧ marks = 0 := by
  obtain ⟨hnodup, hmem⟩ := h.nodup_and_mem_iff
  have hsub : taken ⊆ List.range slots.length := by
    intro number hnumber
    obtain ⟨source, hslot⟩ := (hmem number).1 hnumber
    exact List.mem_range.2 (List.getElem?_eq_some_iff.1 hslot).1
  have hsubperm := hnodup.subperm hsub
  have hle := hsubperm.length_le
  rw [List.length_range] at hle
  exact ⟨hsubperm.perm_of_length_le (by rw [List.length_range]; omega), by omega⟩

lemma countMarks_of_readFragment {policy : Policy} {s : List Char} {p : Filter} {slots : Slots}
    (h : readFragment policy s [] = .ok (p, slots)) : countMarks .outside s = 0 := by
  obtain ⟨taken, hbuilds, htaken, hlength⟩ := builds_of_readFragment h
  rw [List.length_nil, Nat.zero_add] at hlength
  rw [← hlength] at htaken
  exact (perm_range_of_run hbuilds.run htaken).2

/-- Placeholders are linear and cannot be forged: a filter that is read has bound one slot for each
opening parenthesis outside literals, each of them is taken once as the filter is built, and nobody
typed a placeholder outside a literal. -/
theorem slots_of_readWithSlots {policy : Policy} {s : List Char} {p : Filter} {slots : Slots}
    (h : readWithSlots policy s = .ok (p, slots)) :
    slots.length = countStructural '(' .outside s ∧
      (∃ taken, Builds [] taken p slots ∧ taken.Perm (List.range slots.length)) ∧
      (∀ slot ∈ slots, slot.content = none) ∧ cut? [placeholderMark] s = none := by
  rw [readWithSlots] at h
  split at h
  · cases h
  · obtain ⟨taken, hbuilds, htaken, hlength⟩ := builds_of_readFragment h
    rw [List.length_nil, Nat.zero_add] at hlength
    rw [← hlength] at htaken
    obtain ⟨hperm, hmarks⟩ := perm_range_of_run hbuilds.run htaken
    refine ⟨hlength, ⟨taken, hbuilds, hperm⟩, ?_, countMarks_eq_zero_iff.1 hmarks⟩
    intro slot hslot
    obtain ⟨number, hlt, rfl⟩ := List.getElem_of_mem hslot
    have hnumber : number ∈ taken := hperm.mem_iff.2 (List.mem_range.2 hlt)
    obtain ⟨source, hempty⟩ := (hbuilds.run.nodup_and_mem_iff.2 number).1 hnumber
    rw [List.getElem?_eq_getElem hlt, Option.some.injEq] at hempty
    rw [hempty]

/-- Three groups, one of them around another; the quoted placeholder counts as text. -/
theorem slots_of_nested_groups :
    readWithSlots .strict "((A eq 1)) and not (B eq '@Sub_0')".toList =
        .ok (.joined .and (.comparison "A" .equal (.single (.integer 1)))
            (.negation (.comparison "B" .equal (.single (.string "@Sub_0")))),
          [⟨"A eq 1".toList, none⟩, ⟨"(A eq 1)".toList, none⟩, ⟨"B eq '@Sub_0'".toList, none⟩]) ∧
      3 = countStructural '(' .outside "((A eq 1)) and not (B eq '@Sub_0')".toList ∧
      cut? [placeholderMark] "((A eq 1)) and not (B eq '@Sub_0')".toList = none := by
  have h : readWithSlots .strict "((A eq 1)) and not (B eq '@Sub_0')".toList =
      .ok (.joined .and (.comparison "A" .equal (.single (.integer 1)))
          (.negation (.comparison "B" .equal (.single (.string "@Sub_0")))),
        [⟨"A eq 1".toList, none⟩, ⟨"(A eq 1)".toList, none⟩, ⟨"B eq '@Sub_0'".toList, none⟩]) := by
    decide +kernel
  have hslots := slots_of_readWithSlots h
  exact ⟨h, hslots.1, hslots.2.2.2⟩

end RecordFilter.Proofs
