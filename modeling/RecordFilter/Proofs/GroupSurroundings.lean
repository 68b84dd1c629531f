import Mathlib.Algebra.GroupWithZero.Nat
import Mathlib.Tactic.Common
import RecordFilter.Proofs.FlatReading
import RecordFilter.Proofs.GrammarAgreement
import RecordFilter.Proofs.ScalarRoundTrip
import RecordFilter.Proofs.Surroundings

/-!
# What stands next to a group

While a fragment is read, the characters next to a group stand next to its placeholder. All of them
make the fragment unreadable except for digits, which are read as part of the placeholder's number
and can only make it greater. Every group is taken once, so the numbers that are taken add up to
those that were given out, and no digit can have changed one. Only zeros after the number 0 pass:
they are ignored, and nothing else is.
-/

namespace RecordFilter.Proofs
open RecordFilter.Text RecordFilter.Parser RecordFilter.Number

lemma digitsValue_digitsOf_append (number : Nat) (digits : List Char) :
    digitsValue (digitsOf number ++ digits) = Nat.ofDigitChars 10 digits number := by
  rw [digitsValue, Nat.ofDigitChars_append, ← digitsValue, digitsValue_digitsOf]

/-- Digits leave a number as it is only if they are zeros after 0. -/
lemma zeros_of_ofDigitChars {digits : List Char} (hdigits : ∀ c ∈ digits, c.isDigit = true)
    {number : Nat} (h : Nat.ofDigitChars 10 digits number = number) :
    (∀ c ∈ digits, c = '0') ∧ (digits ≠ [] → number = 0) := by
  induction digits with
  | nil => simp
  | cons c digits ih =>
    have hc := (Char.isDigit_iff_toNat.1 (hdigits c List.mem_cons_self)).1
    rw [Nat.ofDigitChars_cons] at h
    have hle := le_ofDigitChars digits (10 * number + (c.toNat - '0'.toNat))
    have hnumber : number = 0 := by omega
    have hvalue : c.toNat - '0'.toNat = 0 := by omega
    have hzero : c = '0' := Char.toNat_inj.1 (by omega)
    rw [hvalue, hnumber] at h
    obtain ⟨hzeros, -⟩ := ih (fun d hd => hdigits d (List.mem_cons_of_mem _ hd)) (hnumber ▸ h)
    exact ⟨List.forall_mem_cons.2 ⟨hzero, hzeros⟩, fun _ => hnumber⟩

/-- Blanks cut the pieces into parts, of which each is either without groups or a group followed by
digits. The numbers are those that the groups with their digits stand for. -/
inductive Stands : List Piece → List Nat → Prop
  | plain (s : List Char) : Stands (charPieces s) []
  | group (number : Nat) (source : List Char) {digits : List Char}
      (hdigits : ∀ c ∈ digits, c.isDigit = true) :
      Stands (.group number source :: charPieces digits)
        [digitsValue (digitsOf number ++ digits)]
  | gap {ps qs : List Piece} {taken taken' : List Nat} {b : Char} (hb : isBlank b = true)
      (hps : Stands ps taken) (hqs : Stands qs taken') :
      Stands (ps ++ .char b :: qs) (taken ++ taken')

/-- The numbers of the groups are the numbers of groups closed before, `n` of them in front of the
pieces, and the groups are well surrounded inside. -/
inductive Numbered : Nat → List Piece → Prop
  | nil (n : Nat) : Numbered n []
  | char {n : Nat} {ps : List Piece} (c : Char) (hps : Numbered n ps) : Numbered n (.char c :: ps)
  | group {n number : Nat} {source : List Char} {ps : List Piece}
      (hnumber : number = n + countStructural ')' .outside source)
      (hsource : WellSurrounded n .outside source) (hps : Numbered (number + 1) ps) :
      Numbered n (.group number source :: ps)

lemma countStructural_closing_group {source : List Char} (h : IsClosed source) (s : List Char) :
    countStructural ')' .outside ('(' :: (source ++ ')' :: s)) =
      countStructural ')' .outside source + 1 + countStructural ')' .outside s := by
  rw [countStructural, if_neg (by decide), next_opening, countStructural_append, h.after,
    countStructural, if_pos (by decide), next_closing, Nat.zero_add, Nat.add_assoc]

lemma Numbered.of_append {n : Nat} {q : QuoteState} {ps qs : List Piece} (hps : WellScanned q ps)
    (h : Numbered n (ps ++ qs)) :
    Numbered n ps ∧ Numbered (n + countStructural ')' q (sourceText ps)) qs := by
  induction hps generalizing n with
  | nil => exact ⟨.nil n, h⟩
  | @char q c ps _ hclose _ ih =>
    cases h with
    | char _ h =>
      obtain ⟨hps, hqs⟩ := ih h
      rw [sourceText, countStructural, if_neg hclose, Nat.zero_add]
      exact ⟨.char c hps, hqs⟩
  | @group number source ps hsource _ ih =>
    cases h with
    | group hnumber hwell h =>
      obtain ⟨hps, hqs⟩ := ih h
      refine ⟨.group hnumber hwell hps, ?_⟩
      rw [sourceText, countStructural_closing_group hsource, ← Nat.add_assoc, ← Nat.add_assoc,
        ← hnumber]
      exact hqs

/-- The numbers of the groups among pieces. -/
def numbersOf (ps : List Piece) : List Nat :=
  (groupsOf ps).map Prod.fst

@[simp] lemma numbersOf_charPieces (s : List Char) : numbersOf (charPieces s) = [] := by
  simp [numbersOf]

@[simp] lemma numbersOf_group (number : Nat) (source : List Char) (ps : List Piece) :
    numbersOf (.group number source :: ps) = number :: numbersOf ps := rfl

@[simp] lemma numbersOf_append_char (ps qs : List Piece) (b : Char) :
    numbersOf (ps ++ .char b :: qs) = numbersOf ps ++ numbersOf qs := by
  simp [numbersOf, groupsOf]

namespace Stands

variable {ps : List Piece} {taken : List Nat}

lemma blanks_append {x : List Char} (hx : Blanks x) (h : Stands ps taken) :
    Stands (charPieces x ++ ps) taken := by
  induction x with
  | nil => exact h
  | cons b x ih =>
    obtain ⟨hb, hx⟩ := List.forall_mem_cons.1 hx
    exact .gap hb (.plain []) (ih hx)

lemma append_blanks {x : List Char} (hx : Blanks x) (h : Stands ps taken) :
    Stands (ps ++ charPieces x) taken := by
  cases x with
  | nil =>
    rw [charPieces, List.map_nil, List.append_nil]
    exact h
  | cons b x =>
    have hgap := h.gap (hx b List.mem_cons_self) (.plain x)
    rw [List.append_nil] at hgap
    exact hgap

lemma negation (h : Stands ps taken) : Stands (charPieces negationMark ++ ps) taken := by
  have hb : isBlank ' ' = true := by decide
  exact .gap hb (.plain "not".toList) h

lemma joined {qs : List Piece} {taken' : List Nat} {connective : Connective}
    {separator : List Char} (hmem : (connective, separator) ∈ separators) (h : Stands ps taken)
    (h' : Stands qs taken') : Stands (ps ++ (charPieces separator ++ qs)) (taken ++ taken') := by
  have hb : isBlank ' ' = true := by decide
  rcases separator_eq_of_mem hmem with rfl | rfl
  · exact h.gap hb (.gap hb (.plain "and".toList) h')
  · exact h.gap hb (.gap hb (.plain "or".toList) h')

lemma length_eq (h : Stands ps taken) : taken.length = (numbersOf ps).length := by
  induction h with
  | plain s => simp
  | group number source => simp
  | gap _ _ _ ihp ihq => simp [ihp, ihq]

/-- Digits only make numbers greater. -/
lemma sum_le (h : Stands ps taken) : (numbersOf ps).sum ≤ taken.sum := by
  induction h with
  | plain s => simp
  | @group number source digits =>
    have hle := le_ofDigitChars digits number
    simpa [digitsValue_digitsOf_append] using hle
  | gap _ _ _ ihp ihq =>
    rw [numbersOf_append_char, List.sum_append, List.sum_append]
    omega

/-- If the digits after groups leave their numbers as they are, groups are well surrounded. -/
lemma wellSurrounded {n : Nat} {q : QuoteState} (h : Stands ps taken) (hps : WellScanned q ps)
    (hnumbered : Numbered n ps) (hsum : taken.sum = (numbersOf ps).sum) :
    WellSurrounded n q (sourceText ps) := by
  induction h generalizing n q with
  | plain s =>
    rw [sourceText_charPieces]
    exact .of_charPieces hps
  | @group number source digits hdigits =>
    have hvalue : Nat.ofDigitChars 10 digits number = number := by
      simpa [digitsValue_digitsOf_append] using hsum
    obtain ⟨hzeros, hfirst⟩ := zeros_of_ofDigitChars hdigits hvalue
    cases hps with
    | group _ _ =>
      cases hnumbered with
      | group hnumber hsource _ =>
        rw [sourceText, sourceText_charPieces]
        exact hsource.group hzeros (hnumber ▸ hfirst)
  | @gap ps qs taken taken' b hb hp hq ihp ihq =>
    rw [numbersOf_append_char, List.sum_append, List.sum_append] at hsum
    have hlep := hp.sum_le
    have hleq := hq.sum_le
    obtain ⟨hscanp, hrest⟩ := hps.of_append
    obtain ⟨hnump, hnumq⟩ := hnumbered.of_append hscanp
    rw [sourceText_append, sourceText]
    cases hnumq with
    | char _ hnumq =>
      exact (ihp hscanp hnump (by omega)).append hb (ihq hrest.of_char hnumq (by omega))

end Stands

section Reading

variable {policy : Policy}

/-- A text that is one placeholder is a group with digits after it, if nobody typed the mark. -/
lemma stands_of_placeholderNumber? {ps : List Piece} {number : Nat}
    (hmarks : countMarks .outside (sourceText ps) = 0)
    (h : placeholderNumber? (flatText ps) = some number) : Stands ps [number] := by
  obtain ⟨digits, hdigits, ⟨rfl, -, -⟩ | ⟨slot, source, rfl, rfl⟩⟩ := pieces_of_placeholderNumber? h
  · rw [sourceText_charPieces, ← List.append_nil (placeholderMark ++ digits),
      countMarks_placeholder_append (at_not_mem_of_digits (List.all_eq_true.2 hdigits))] at hmarks
    omega
  · exact .group slot source hdigits

/-- Blanks around a fragment in pieces change nothing about its groups. -/
lemma IsCoreBetween.stands {ps ts : List Piece} {taken : List Nat} (h : IsCoreBetween ps ts)
    (hts : Stands ts taken) : Stands ps taken := by
  obtain ⟨x, y, hx, hy, rfl⟩ := h.between
  exact (hts.append_blanks hy).blanks_append hx

/-- Reading a flat text without typed marks takes the groups where they stand. -/
lemma stands_of_readFlat {ps : List Piece} {slots slots' : Slots} {p : Filter}
    (hps : WellScanned .outside ps) (hmarks : countMarks .outside (sourceText ps) = 0)
    (h : readFlat policy (flatText ps) slots = .ok (p, slots')) :
    ∃ taken, Stands ps taken ∧ Run slots taken slots' ∧ slots'.length = slots.length := by
  have hform := flatForm_of_wellScanned hps
  clear hps
  induction hform generalizing slots slots' p with
  | @placeholder ps ts number hcore hnumber hread =>
    rw [hread] at h
    rw [← countMarks_trim, ← hcore.source] at hmarks
    cases htake : slots.take? number with
    | some taken =>
      rw [htake] at h
      cases h
      exact ⟨[number], hcore.stands (stands_of_placeholderNumber? hmarks hnumber),
        .take (.refl slots) htake, length_of_take? htake⟩
    | none =>
      rw [htake] at h
      cases h
  | negation hcore hread _ _ ih =>
    rw [hread] at h
    obtain ⟨⟨inner, slots₁⟩, hinner, h⟩ := bind_eq_ok_iff.1 h
    cases h
    rw [← countMarks_trim, ← hcore.source, sourceText_append, sourceText_charPieces,
      countMarks_negationMark_append] at hmarks
    obtain ⟨taken, hstands, hrun, hlength⟩ := ih hmarks hinner
    exact ⟨taken, hcore.stands hstands.negation, hrun, hlength⟩
  | joined hcore hsplit hread _ _ ihl ihr =>
    rw [hread] at h
    obtain ⟨⟨p₁, slots₁⟩, hleft, h⟩ := bind_eq_ok_iff.1 h
    obtain ⟨⟨p₂, slots₂⟩, hright, h⟩ := bind_eq_ok_iff.1 h
    cases h
    have hsplits := splits_of_splitPieces? hcore.scanned hsplit
    rw [← countMarks_trim, ← hcore.source, hsplits.source,
      countMarks_separator_append hsplits.mem _ _ hsplits.after] at hmarks
    obtain ⟨taken, hstands, hrun, hlength⟩ := ihl (by omega) hleft
    obtain ⟨taken', hstands', hrun', hlength'⟩ := ihr (by omega) hright
    refine ⟨taken ++ taken', hcore.stands ?_, hrun.trans hrun', hlength'.trans hlength⟩
    obtain ⟨heq, hmem, -⟩ := splitPieces?_eq_some hcore.scanned hsplit
    rw [heq]
    exact hstands.joined hmem hstands'
  | @comparison ps ts hcore hread =>
    rw [hread] at h
    obtain ⟨comparison, hcomparison, h⟩ := bind_eq_ok_iff.1 h
    cases h
    have hnone := groupsOf_eq_nil_of_countMarks hcore.scanned
      (builds_of_readComparison hcomparison).2
    have hplain : Stands ts [] := by
      rw [eq_charPieces_of_groupsOf_eq_nil hnone]
      exact .plain _
    exact ⟨[], hcore.stands hplain, .refl _, rfl⟩

/-! ### Reading a fragment -/

/-- The sum of `k` numbers in a row from `n` on. -/
def sumFrom (n k : Nat) : Nat :=
  (List.range' n k).sum

lemma sumFrom_add_succ (n k k' : Nat) :
    sumFrom n (k + 1 + k') = sumFrom n k + (n + k) + sumFrom (n + k + 1) k' := by
  rw [sumFrom, ← List.range'_append_1, ← List.range'_append_1]
  simp [sumFrom, Nat.add_assoc]

/-- What a reading of a fragment takes: one number for each group that it closes. Their sum is not
below that of the numbers in a row that are given out, and if it is the same, the groups of the
fragment are well surrounded. -/
structure Takes (slots slots' : Slots) (s : List Char) (taken : List Nat) : Prop where
  run : Run slots taken slots'
  length_taken : taken.length = countStructural ')' .outside s
  length_slots : slots'.length = slots.length + countStructural ')' .outside s
  sumFrom_le : sumFrom slots.length (countStructural ')' .outside s) ≤ taken.sum
  wellSurrounded : taken.sum = sumFrom slots.length (countStructural ')' .outside s) →
    WellSurrounded slots.length .outside s

/-- The same of the groups of a fragment in pieces, while they are bound; what is still to be taken
are their own numbers. -/
structure BindsTaking (q : QuoteState) (ps : List Piece) (slots slots' : Slots)
    (taken : List Nat) : Prop where
  run : Run slots taken slots'
  length_taken : taken.length + (numbersOf ps).length = countStructural ')' q (sourceText ps)
  length_slots : slots'.length = slots.length + countStructural ')' q (sourceText ps)
  sumFrom_le : sumFrom slots.length (countStructural ')' q (sourceText ps)) ≤
    taken.sum + (numbersOf ps).sum
  numbered : taken.sum + (numbersOf ps).sum =
    sumFrom slots.length (countStructural ')' q (sourceText ps)) → Numbered slots.length ps

lemma exists_bindsTaking_of_binds {q : QuoteState} {ps : List Piece} {slots slots' : Slots}
    (hps : WellScanned q ps) (hmarks : countMarks q (sourceText ps) = 0)
    (hbinds : Binds policy ps slots slots')
    (hread : ∀ number source, (number, source) ∈ groupsOf ps → countMarks .outside source = 0 →
      ∀ slots slots' p, readFragment policy source slots = .ok (p, slots') →
      ∃ taken, Takes slots slots' source taken) :
    ∃ taken, BindsTaking q ps slots slots' taken := by
  induction hbinds generalizing q with
  | nil slots => exact ⟨[], .refl slots, rfl, rfl, Nat.le_refl _, fun _ => .nil _⟩
  | @char c ps slots slots' _ ih =>
    cases hps with
    | char hopen hclose hps =>
      rw [sourceText, countMarks] at hmarks
      obtain ⟨taken, hrun, htaken, hslots, hle, hnumbered⟩ := ih hps (by omega) hread
      have hcount : countStructural ')' q (sourceText (.char c :: ps)) =
          countStructural ')' (q.next c) (sourceText ps) := by
        rw [sourceText, countStructural, if_neg hclose, Nat.zero_add]
      rw [← hcount] at htaken hslots hle hnumbered
      exact ⟨taken, hrun, htaken, hslots, hle, fun hsum => .char c (hnumbered hsum)⟩
  | @group source content ps slots slots₁ slots' hsource _ ih =>
    cases hps with
    | group hclosed hps =>
      rw [sourceText, countMarks_group hclosed] at hmarks
      obtain ⟨taken, htakes⟩ :=
        hread slots₁.length source List.mem_cons_self (by omega) slots slots₁ content hsource
      obtain ⟨taken', hrun, htaken, hslots, hle, hnumbered⟩ := ih hps (by omega)
        fun number source hmem => hread number source (List.mem_cons_of_mem _ hmem)
      have hcount :
          countStructural ')' .outside (sourceText (.group slots₁.length source :: ps)) =
            countStructural ')' .outside source + 1 +
              countStructural ')' .outside (sourceText ps) := by
        rw [sourceText, countStructural_closing_group hclosed]
      have hbind : (slots₁.bind source content).length = slots₁.length + 1 := by
        simp [Slots.bind]
      have hnumber := htakes.length_slots
      have hlength := htakes.length_taken
      have hsum := htakes.sumFrom_le
      rw [hbind, hnumber] at hslots hle hnumbered
      refine ⟨taken ++ taken', (htakes.run.bind source content).trans hrun, ?_, ?_, ?_, ?_⟩
      · rw [hcount, numbersOf_group, List.length_append, List.length_cons]
        omega
      · rw [hcount]
        omega
      · rw [hcount, sumFrom_add_succ, numbersOf_group, List.sum_append, List.sum_cons, hnumber]
        omega
      · -- The sums of both parts are least, so each of them is reached.
        rw [hcount, sumFrom_add_succ, numbersOf_group, List.sum_append, List.sum_cons, hnumber]
        intro heq
        exact .group rfl (htakes.wellSurrounded (by omega)) (hnumbered (by omega))

/-- The count of takings: reading a fragment that holds no typed mark takes as many groups as it
closes, and numbers in a row only if its groups are well surrounded. -/
theorem exists_takes_of_readFragment {s : List Char} {slots slots' : Slots} {p : Filter}
    (h : readFragment policy s slots = .ok (p, slots')) (hmarks : countMarks .outside s = 0) :
    ∃ taken, Takes slots slots' s taken := by
  induction hlen : s.length using Nat.strongRecOn generalizing s slots slots' p with
  | ind n ih =>
    rw [readFragment] at h
    obtain ⟨⟨flat, slots₁⟩, hresolve, hflat⟩ := bind_eq_ok_iff.1 h
    obtain ⟨ps, hps, hsource, rfl, hbinds⟩ := resolveFrom_eq_ok_iff.1 hresolve
    have hmarks' : countMarks .outside (sourceText ps) = 0 := by
      rw [hsource, countMarks_trim, hmarks]
    have hcount :
        countStructural ')' .outside (sourceText ps) = countStructural ')' .outside s := by
      rw [hsource, countStructural_trim (by decide)]
    have hread : ∀ number source, (number, source) ∈ groupsOf ps →
        countMarks .outside source = 0 → ∀ slots slots' p,
        readFragment policy source slots = .ok (p, slots') →
        ∃ taken, Takes slots slots' source taken := by
      intro number source hmem hmarks slots slots' p h
      have hlt := length_lt_of_mem_groupsOf hmem
      rw [hsource] at hlt
      have htrim := length_trim_le s
      exact ih source.length (by omega) h hmarks rfl
    obtain ⟨taken, hrun, htaken, hslots, hle, hnumbered⟩ :=
      exists_bindsTaking_of_binds hps hmarks' hbinds hread
    obtain ⟨taken', hstands, hrun', hlength⟩ := stands_of_readFlat hps hmarks' hflat
    have hlength' := hstands.length_eq
    have hle' := hstands.sum_le
    rw [hcount] at htaken hslots hle hnumbered
    refine ⟨taken ++ taken', hrun.trans hrun', ?_, hlength.trans hslots, ?_, ?_⟩
    · rw [List.length_append]
      omega
    · rw [List.sum_append]
      omega
    · rw [List.sum_append]
      intro heq
      have hwell := hstands.wellSurrounded hps (hnumbered (by omega)) (by omega)
      rw [hsource] at hwell
      exact hwell.of_trim

end Reading

/-- Nothing but blanks and parentheses stands next to a group of a filter that is read, except for
zeros after the group that is closed first, which are ignored. -/
theorem surroundings_of_ofText {policy : Policy} {s : String} {p : Filter}
    (h : Filter.ofText policy s = .ok p) :
    (∀ x y, s.toList = x ++ '(' :: y → QuoteState.outside.after x = .outside →
      ∀ c ∈ x.getLast?, isBlank c = true ∨ c = '(') ∧
    ∀ x y, s.toList = x ++ ')' :: y → QuoteState.outside.after x = .outside →
      ∃ zeros rest, y = zeros ++ rest ∧ (∀ c ∈ zeros, c = '0') ∧
        (zeros ≠ [] → countStructural ')' .outside x = 0) ∧
        ∀ c ∈ rest.head?, isBlank c = true ∨ c = ')' := by
  obtain ⟨-, slots, hread⟩ := ofText_eq_ok_iff.1 h
  obtain ⟨taken, htakes⟩ := exists_takes_of_readFragment hread (countMarks_of_readFragment hread)
  have hlength : taken.length = slots.length + 0 := by
    rw [htakes.length_taken, htakes.length_slots, List.length_nil, Nat.zero_add, Nat.add_zero]
  obtain ⟨hperm, -⟩ := perm_range_of_run htakes.run hlength
  have hsum : taken.sum = sumFrom 0 (countStructural ')' .outside s.toList) := by
    rw [hperm.sum_nat, List.range_eq_range', htakes.length_slots, List.length_nil, Nat.zero_add,
      sumFrom]
  have hwell := htakes.wellSurrounded hsum
  refine ⟨hwell.opening, fun x y hs hx => ?_⟩
  obtain ⟨zeros, rest, hy, hzeros, hfirst, hrest⟩ := hwell.closing x y hs hx
  refine ⟨zeros, rest, hy, hzeros, fun hne => ?_, hrest⟩
  have hzero := hfirst hne
  rw [List.length_nil, Nat.zero_add] at hzero
  exact hzero

/-- A zero that is ignored, a group around another one, and parentheses in a literal. -/
theorem surroundings_of_nested_groups :
    Filter.ofText .strict "((A eq 1)0 or B eq ')x(') and (not (C eq 2))" =
        .ok (.joined .and
          (.joined .or (.comparison "A" .equal (.single (.integer 1)))
            (.comparison "B" .equal (.single (.string ")x("))))
          (.negation (.comparison "C" .equal (.single (.integer 2))))) ∧
      (∀ x y, "((A eq 1)0 or B eq ')x(') and (not (C eq 2))".toList = x ++ '(' :: y →
        QuoteState.outside.after x = .outside → ∀ c ∈ x.getLast?, isBlank c = true ∨ c = '(') ∧
      ∀ x y, "((A eq 1)0 or B eq ')x(') and (not (C eq 2))".toList = x ++ ')' :: y →
        QuoteState.outside.after x = .outside →
        ∃ zeros rest, y = zeros ++ rest ∧ (∀ c ∈ zeros, c = '0') ∧
          (zeros ≠ [] → countStructural ')' .outside x = 0) ∧
          ∀ c ∈ rest.head?, isBlank c = true ∨ c = ')' := by
  have h : Filter.ofText .strict "((A eq 1)0 or B eq ')x(') and (not (C eq 2))" =
      .ok (.joined .and
        (.joined .or (.comparison "A" .equal (.single (.integer 1)))
          (.comparison "B" .equal (.single (.string ")x("))))
        (.negation (.comparison "C" .equal (.single (.integer 2))))) := by
    decide +kernel
  exact ⟨h, surroundings_of_ofText h⟩

/-- Not all that is glued to a group is refused. -/
theorem zero_after_group_is_ignored :
    ¬∀ (policy : Policy) (s : String) (p : Filter), Filter.ofText policy s = .ok p →
      ∀ x y, s.toList = x ++ ')' :: y → QuoteState.outside.after x = .outside →
        ∀ c ∈ y.head?, isBlank c = true ∨ c = ')' := by
  intro h
  have hread : Filter.ofText .strict "(A eq 1)0" =
      .ok (.comparison "A" .equal (.single (.integer 1))) := by
    decide +kernel
  have hzero := h .strict "(A eq 1)0" _ hread "(A eq 1".toList ['0'] (by decide) (by decide) '0' rfl
  exact absurd hzero (by decide)

end RecordFilter.Proofs
