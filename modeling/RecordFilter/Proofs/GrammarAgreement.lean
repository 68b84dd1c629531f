import Mathlib.Data.List.Nodup
import RecordFilter.Proofs.ComparisonReading
import RecordFilter.Proofs.FlatReading

/-!
# The parser reads the grammar

The parser replaces groups by placeholders in slots that all levels of nesting share, reads the flat
text that is left and takes the groups back by number. The grammar reads the text where it stands.
Both give the same filters. The invariant is that the slots hold what the grammar reads from the
groups of a fragment, under numbers that differ, and that reading a part of the fragment leaves the
slots of the other parts alone.
-/

namespace RecordFilter.Proofs
open RecordFilter.Text RecordFilter.Parser

/-- Some closing parenthesis outside literals is directly followed by a decimal digit. -/
def closesOnDigit (q : QuoteState) : List Char → Bool
  | [] => false
  | c :: s =>
    (q.isStructural c && c == ')' && s.head?.any Char.isDigit) || closesOnDigit (q.next c) s

/-- No placeholder is typed outside literals, and no placeholder of a group runs into digits. -/
structure IsClean (q : QuoteState) (s : List Char) : Prop where
  marks : countMarks q s = 0
  digits : closesOnDigit q s = false

lemma countMarks_append_ge (q : QuoteState) (s t : List Char) :
    countMarks q s + countMarks (q.after s) t ≤ countMarks q (s ++ t) := by
  induction s generalizing q with
  | nil => simp [countMarks]
  | cons c s ih =>
    have hrec := ih (q.next c)
    rw [List.cons_append, countMarks, countMarks, QuoteState.after_cons]
    by_cases hmark : q.isStructural c = true ∧ placeholderMark <+: c :: s
    · have hmark' : placeholderMark <+: c :: (s ++ t) :=
        hmark.2.trans (List.prefix_append (c :: s) t)
      rw [if_pos hmark, if_pos ⟨hmark.1, hmark'⟩]
      omega
    · rw [if_neg hmark]
      omega

lemma closesOnDigit_append {q : QuoteState} {s t : List Char}
    (h : closesOnDigit q (s ++ t) = false) :
    closesOnDigit q s = false ∧ closesOnDigit (q.after s) t = false := by
  induction s generalizing q with
  | nil => exact ⟨rfl, h⟩
  | cons c s ih =>
    rw [List.cons_append, closesOnDigit, Bool.or_eq_false_iff] at h
    obtain ⟨hs, ht⟩ := ih h.2
    refine ⟨?_, ht⟩
    rw [closesOnDigit, hs, Bool.or_false]
    cases s with
    | nil => simp
    | cons d s => exact h.1

namespace IsClean

variable {q : QuoteState} {s t : List Char}

lemma of_append (h : IsClean q (s ++ t)) : IsClean q s ∧ IsClean (q.after s) t := by
  have hmarks := countMarks_append_ge q s t
  rw [h.marks] at hmarks
  obtain ⟨hs, ht⟩ := closesOnDigit_append h.digits
  exact ⟨⟨by omega, hs⟩, ⟨by omega, ht⟩⟩

lemma right (h : IsClean .outside (s ++ t)) (hs : QuoteState.outside.after s = .outside) :
    IsClean .outside t := by
  have hright := h.of_append.2
  rwa [hs] at hright

lemma trim (h : IsClean .outside s) : IsClean .outside (Text.trim s) := by
  obtain ⟨x, y, hx, -, hs⟩ := exists_eq_append_trim s
  rw [hs, List.append_assoc] at h
  exact (h.right (after_of_blanks hx)).of_append.1

lemma of_mem_groupsOf {ps : List Piece} (hps : WellScanned q ps) (h : IsClean q (sourceText ps))
    {number : Nat} {source : List Char} (hmem : (number, source) ∈ groupsOf ps) :
    IsClean .outside source := by
  induction hps with
  | nil => cases hmem
  | @char q c ps _ _ _ ih => exact ih (of_append (s := [c]) h).2 hmem
  | @group number' source' ps hsource _ ih =>
    have hopen : QuoteState.outside.after ['('] = .outside := by decide
    have hclose : QuoteState.outside.after [')'] = .outside := by decide
    have hinner := right (s := ['(']) h hopen
    rcases List.mem_cons.1 hmem with heq | hmem
    · cases heq
      exact hinner.of_append.1
    · exact ih (right (s := [')']) (hinner.right hsource.after) hclose) hmem

end IsClean

lemma length_groupsOf_le_countStructural {q : QuoteState} {ps : List Piece}
    (hps : WellScanned q ps) :
    (groupsOf ps).length ≤ countStructural '(' q (sourceText ps) := by
  induction hps with
  | nil => exact Nat.le_refl 0
  | char hopen _ _ ih =>
    rw [sourceText, countStructural, if_neg hopen, Nat.zero_add]
    exact ih
  | group hsource _ ih =>
    rw [sourceText, countStructural_group hsource, groupsOf, List.length_cons]
    omega

lemma countStructural_of_groupsOf_eq_nil {q : QuoteState} {ps : List Piece} (hps : WellScanned q ps)
    (h : groupsOf ps = []) : countStructural '(' q (sourceText ps) = 0 := by
  induction hps with
  | nil => rfl
  | char hopen _ _ ih =>
    rw [sourceText, countStructural, if_neg hopen, ih h]
  | group => cases h

/-- In a fragment that the grammar reads nobody typed a placeholder, and each of its groups is read
by itself. -/
lemma marks_and_groups_of_read? {policy : Policy} {ps : List Piece} {p : Filter}
    (hform : Form policy ps) (h : Grammar.read? policy (sourceText ps) = some p) :
    countMarks .outside (sourceText ps) = 0 ∧
      ∀ number source, (number, source) ∈ groupsOf ps →
        ∃ content, Grammar.read? policy source = some content := by
  induction hform generalizing p with
  | @group ps qs number hcore hread _ ih =>
    rw [hread] at h
    have hclosed : IsClosed (sourceText qs) :=
      hcore.scanned.isClosed_of_mem_groupsOf List.mem_cons_self
    rw [← countMarks_trim, ← hcore.source, ← hcore.groups]
    refine ⟨?_, fun number' source hmem => ?_⟩
    · rw [sourceText, countMarks_group hclosed, (ih h).1]
      rfl
    · cases List.mem_singleton.1 hmem
      exact ⟨p, h⟩
  | @negation ps qs hcore _ hread _ ih =>
    rw [hread] at h
    obtain ⟨inner, hinner, -⟩ := Option.map_eq_some_iff.1 h
    obtain ⟨hmarks, hgroups⟩ := ih hinner
    rw [← countMarks_trim, ← hcore.source, ← hcore.groups]
    refine ⟨?_, ?_⟩
    · rw [sourceText_append, sourceText_charPieces, countMarks_negationMark_append, hmarks]
    · rw [groupsOf_append, groupsOf_charPieces, List.nil_append]
      exact hgroups
  | @joined ps ts split hcore _ _ hsplit hread _ _ ihl ihr =>
    rw [hread] at h
    obtain ⟨left, hleft, h⟩ := Option.bind_eq_some_iff.1 h
    obtain ⟨right, hright, -⟩ := Option.bind_eq_some_iff.1 h
    obtain ⟨hmarks, hgroups⟩ := ihl hleft
    obtain ⟨hmarks', hgroups'⟩ := ihr hright
    have hsplits := splits_of_splitPieces? hcore.scanned hsplit
    rw [← countMarks_trim, ← hcore.source, ← hcore.groups, hsplits.groups]
    refine ⟨?_, fun number source hmem => ?_⟩
    · rw [hsplits.source, countMarks_separator_append hsplits.mem _ _ hsplits.after, hmarks,
        hmarks']
    · rcases List.mem_append.1 hmem with hmem | hmem
      · exact hgroups number source hmem
      · exact hgroups' number source hmem
  | @comparison ps ts hcore _ _ _ hread =>
    rw [hread] at h
    obtain ⟨hopening, hmarks⟩ := isPlain_iff.1 (readComparison?_eq_some_iff.1 h).1
    have hle := length_groupsOf_le_countStructural hcore.scanned
    rw [hopening, Nat.le_zero, List.length_eq_zero_iff] at hle
    rw [← countMarks_trim, ← hcore.source, ← hcore.groups, hle]
    exact ⟨hmarks, fun _ _ hmem => by cases hmem⟩

lemma placeholderNumber?_flatText_eq_none {ps : List Piece} (hps : WellScanned .outside ps)
    (hclean : IsClean .outside (sourceText ps)) (hgroup : Grammar.group? (sourceText ps) = none) :
    placeholderNumber? (flatText ps) = none := by
  by_contra hsome
  obtain ⟨number, hnumber⟩ := Option.ne_none_iff_exists'.1 hsome
  obtain ⟨digits, hdigits, ⟨rfl, -, -⟩ | ⟨slot, source, rfl, -⟩⟩ :=
    pieces_of_placeholderNumber? hnumber
  · -- A mark that is made of characters was typed.
    have hmarks := hclean.marks
    have htyped := countMarks_placeholder_append
      (at_not_mem_of_digits (List.all_eq_true.2 hdigits)) []
    rw [List.append_nil] at htyped
    rw [sourceText_charPieces, htyped] at hmarks
    omega
  · have hsource := hps.isClosed_of_mem_groupsOf List.mem_cons_self
    cases digits with
    | nil =>
      have hsome' : Grammar.group? (sourceText [.group slot source]) = some source :=
        group?_eq_some_iff.2 ⟨rfl, hsource⟩
      exact absurd (hsome'.symm.trans hgroup) (Option.some_ne_none _)
    | cons c digits =>
      -- A digit behind the group would stand behind its closing parenthesis.
      have hdigit := hdigits c List.mem_cons_self
      have hclose : closesOnDigit .outside (')' :: c :: sourceText (charPieces digits)) = false :=
        ((IsClean.right (s := ['(']) hclean (by decide)).right hsource.after).digits
      have hstructural : QuoteState.outside.isStructural ')' = true := by decide
      simp [closesOnDigit, hdigit, hstructural] at hclose

lemma length_groupsOf_le_countMarks {q : QuoteState} {ps : List Piece} (hps : WellScanned q ps) :
    (groupsOf ps).length ≤ countMarks q (flatText ps) := by
  induction hps with
  | nil => exact Nat.le_refl 0
  | char _ _ _ ih =>
    rw [flatText, countMarks, groupsOf]
    omega
  | @group number source ps _ _ ih =>
    rw [flatText, countMarks_placeholder number, groupsOf, List.length_cons]
    omega

lemma groupsOf_eq_nil_of_countMarks {q : QuoteState} {ps : List Piece} (hps : WellScanned q ps)
    (h : countMarks q (flatText ps) = 0) : groupsOf ps = [] := by
  have hle := length_groupsOf_le_countMarks hps
  rw [h, Nat.le_zero] at hle
  exact List.length_eq_zero_iff.1 hle

/-- Without groups the flat text is the source. -/
lemma flatText_eq_sourceText {ps : List Piece} (h : groupsOf ps = []) :
    flatText ps = sourceText ps := by
  rw [eq_charPieces_of_groupsOf_eq_nil h, flatText_charPieces, sourceText_charPieces]

lemma toOption_readComparison_flatText {policy : Policy} {ps : List Piece} (slots : Slots)
    (hps : WellScanned .outside ps) (hclean : IsClean .outside (sourceText ps)) :
    (readComparison policy slots (flatText ps)).toOption =
      Grammar.readComparison? policy (sourceText ps) := by
  cases hgroups : groupsOf ps with
  | nil =>
    have hplain : Grammar.isPlain (sourceText ps) = true :=
      isPlain_iff.2 ⟨countStructural_of_groupsOf_eq_nil hps hgroups, hclean.marks⟩
    rw [flatText_eq_sourceText hgroups, toOption_readComparison hplain]
  | cons group groups =>
    -- Neither reads a text with a group: to the parser a mark stands in its place.
    have hlength : 0 < (groupsOf ps).length := by rw [hgroups]; exact Nat.succ_pos _
    have hopening : countStructural '(' .outside (sourceText ps) ≠ 0 := by
      have hle := length_groupsOf_le_countStructural hps
      omega
    rw [readComparison?_eq_none hopening]
    cases hread : readComparison policy slots (flatText ps) with
    | error => rfl
    | ok p =>
      have hle := length_groupsOf_le_countMarks hps
      rw [(readComparison_eq_ok_iff.1 hread).1] at hle
      omega

section Slots

variable {policy : Policy} {slots slots' : Slots}

/-- Different slots hold what the grammar reads from the groups. -/
structure Holds (policy : Policy) (slots : Slots) (groups : List (Nat × List Char)) : Prop where
  nodup : (groups.map Prod.fst).Nodup
  content : ∀ number source, (number, source) ∈ groups → ∃ content,
    slots[number]? = some ⟨source, some content⟩ ∧ Grammar.read? policy source = some content

/-- The reading of a flat text gives what the grammar gives, and leaves the slots of all other
groups alone. -/
structure Agrees (policy : Policy) (ps : List Piece) (slots : Slots) : Prop where
  answer : (readFlat policy (flatText ps) slots).toOption.map Prod.fst =
    Grammar.read? policy (sourceText ps)
  frame : ∀ p slots', readFlat policy (flatText ps) slots = .ok (p, slots') →
    ∀ number, number ∉ (groupsOf ps).map Prod.fst → slots'[number]? = slots[number]?

lemma Holds.left {groups groups' : List (Nat × List Char)}
    (h : Holds policy slots (groups ++ groups')) : Holds policy slots groups where
  nodup := by
    have hnodup := h.nodup
    rw [List.map_append] at hnodup
    exact (List.nodup_append.1 hnodup).1
  content number source hmem := h.content number source (List.mem_append_left _ hmem)

/-- Slots that changed for the groups on the left only hold the groups on the right. -/
lemma Holds.right {groups groups' : List (Nat × List Char)}
    (h : Holds policy slots (groups ++ groups'))
    (hframe : ∀ number, number ∉ groups.map Prod.fst → slots'[number]? = slots[number]?) :
    Holds policy slots' groups' := by
  have hnodup := h.nodup
  rw [List.map_append, List.nodup_append] at hnodup
  refine ⟨hnodup.2.1, fun number source hmem => ?_⟩
  obtain ⟨content, hslot, hread⟩ := h.content number source (List.mem_append_right _ hmem)
  refine ⟨content, ?_, hread⟩
  rw [hframe, hslot]
  intro hleft
  exact hnodup.2.2 number hleft number (List.mem_map_of_mem hmem) rfl

lemma placeholderNumber?_placeholder (number : Nat) :
    placeholderNumber? (placeholder number) = some number := by
  rw [placeholderNumber?_eq_some_iff]
  exact ⟨Number.digitsOf number, rfl, Nat.toDigits_ne_nil,
    List.all_eq_true.2 fun _ => isDigit_of_mem_digitsOf,
    Nat.ofDigitChars_toDigits (by decide) (by decide)⟩

lemma agrees_group {ps : List Piece} {number : Nat} {source : List Char}
    (hcore : IsCore ps [.group number source])
    (hread : Grammar.read? policy (sourceText ps) = Grammar.read? policy source)
    (h : Holds policy slots (groupsOf ps)) : Agrees policy ps slots := by
  rw [← hcore.groups] at h
  obtain ⟨content, hslot, hcontent⟩ := h.content _ _ List.mem_cons_self
  have htake : slots.take? number = some (content, slots.set number ⟨source, none⟩) :=
    take?_eq_some_iff.2 ⟨_, hslot, rfl⟩
  have hnumber : placeholderNumber? (trim (flatText ps)) = some number := by
    rw [← hcore.flat, flatText, flatText, List.append_nil, placeholderNumber?_placeholder]
  have hflat : readFlat policy (flatText ps) slots =
      .ok (content, slots.set number ⟨source, none⟩) := by
    rw [readFlat_placeholder hnumber, htake, Option.elim_some]
  constructor
  · rw [hflat, hread, hcontent]
    rfl
  · intro p slots' hok number' hne
    rw [hflat] at hok
    cases hok
    rw [← hcore.groups] at hne
    rw [List.getElem?_set_ne]
    rintro rfl
    exact hne List.mem_cons_self

lemma agrees_negation {ps qs : List Piece} (hcore : IsCore ps (charPieces negationMark ++ qs))
    (hnumber : placeholderNumber? (trim (flatText ps)) = none)
    (hread : Grammar.read? policy (sourceText ps) =
      (Grammar.read? policy (sourceText qs)).map .negation)
    (h : Agrees policy qs slots) : Agrees policy ps slots := by
  have hnot : afterNegation? (trim (flatText ps)) = some (flatText qs) := by
    rw [← hcore.flat, afterNegation?_eq_some_iff, flatText_append, flatText_charPieces]
  have hflat := @readFlat_negation policy _ slots _ hnumber hnot
  constructor
  · rw [hflat, hread, ← h.answer]
    cases readFlat policy (flatText qs) slots <;> rfl
  · intro p slots' hok number hne
    rw [hflat] at hok
    obtain ⟨⟨inner, slots₁⟩, hinner, hok⟩ := bind_eq_ok_iff.1 hok
    cases hok
    rw [← hcore.groups, groupsOf_append, groupsOf_charPieces, List.nil_append] at hne
    exact h.frame _ _ hinner number hne

/-- The right side is read from slots that the left side left alone. -/
lemma agrees_joined {ps ts : List Piece} {split : PieceSplit} (hcore : IsCore ps ts)
    (hnumber : placeholderNumber? (trim (flatText ps)) = none)
    (hnot : afterNegation? (trim (flatText ps)) = none)
    (hsplit : splitPieces? .outside ts = some split)
    (hread : Grammar.read? policy (sourceText ps) = do
      let left ← Grammar.read? policy (sourceText split.left)
      let right ← Grammar.read? policy (sourceText split.right)
      return .joined split.connective left right)
    (hleft : Agrees policy split.left slots)
    (hright : ∀ left slots₁, readFlat policy (flatText split.left) slots = .ok (left, slots₁) →
      Agrees policy split.right slots₁) : Agrees policy ps slots := by
  have hsplits := splits_of_splitPieces? hcore.scanned hsplit
  have hsplit' := splitAtConnective?_flatText hcore.scanned
  rw [hsplit, Option.map_some, hcore.flat] at hsplit'
  have hflat := @readFlat_joined policy _ slots _ _ _ hnumber hnot hsplit'
  constructor
  · rw [hflat, hread, ← hleft.answer]
    cases hok : readFlat policy (flatText split.left) slots with
    | error => rfl
    | ok left =>
      obtain ⟨left, slots₁⟩ := left
      rw [← (hright left slots₁ hok).answer]
      simp only [bind, Except.bind, Except.toOption, Option.map_some, Option.bind]
      cases readFlat policy (flatText split.right) slots₁ <;> rfl
  · intro p slots' hok number hne
    rw [hflat] at hok
    obtain ⟨⟨left, slots₁⟩, hok₁, hok⟩ := bind_eq_ok_iff.1 hok
    obtain ⟨⟨right, slots₂⟩, hok₂, hok⟩ := bind_eq_ok_iff.1 hok
    cases hok
    rw [← hcore.groups, hsplits.groups, List.map_append, List.mem_append, not_or] at hne
    exact ((hright left slots₁ hok₁).frame _ _ hok₂ number hne.2).trans
      (hleft.frame _ _ hok₁ number hne.1)

lemma agrees_comparison {ps ts : List Piece} (hcore : IsCore ps ts)
    (hclean : IsClean .outside (sourceText ts))
    (hnumber : placeholderNumber? (trim (flatText ps)) = none)
    (hnot : afterNegation? (trim (flatText ps)) = none)
    (hsplit : splitPieces? .outside ts = none)
    (hread : Grammar.read? policy (sourceText ps) =
      Grammar.readComparison? policy (sourceText ts)) : Agrees policy ps slots := by
  have hsplit' := splitAtConnective?_flatText hcore.scanned
  rw [hsplit, Option.map_none, hcore.flat] at hsplit'
  have hcomparison :=
    @toOption_readComparison_flatText policy _ slots hcore.scanned hclean
  have hflat := @readFlat_comparison policy _ slots hnumber hnot hsplit'
  rw [← hcore.flat] at hflat
  constructor
  · rw [hflat, hread, ← hcomparison]
    cases readComparison policy slots (flatText ts) <;> rfl
  · intro p slots' hok number _
    rw [hflat] at hok
    obtain ⟨comparison, -, hok⟩ := bind_eq_ok_iff.1 hok
    cases hok
    rfl

/-- With its groups in the slots, a flat text is read as the grammar reads its source. -/
theorem agrees_of_form {ps : List Piece} (hform : Form policy ps)
    (hclean : IsClean .outside (sourceText ps)) (h : Holds policy slots (groupsOf ps)) :
    Agrees policy ps slots := by
  have hplain : ∀ {ps ts : List Piece}, IsCore ps ts → IsClean .outside (sourceText ts) →
      Grammar.group? (sourceText ts) = none →
      placeholderNumber? (trim (flatText ps)) = none := by
    intro ps ts hcore hclean hgroup
    rw [← hcore.flat]
    exact placeholderNumber?_flatText_eq_none hcore.scanned hclean hgroup
  induction hform generalizing slots with
  | group hcore hread => exact agrees_group hcore hread h
  | @negation ps qs hcore hgroup hread _ ih =>
    have hcore' := hcore.source ▸ hclean.trim
    have hqs : IsClean .outside (sourceText qs) := by
      rw [sourceText_append, sourceText_charPieces] at hcore'
      exact hcore'.right (by decide)
    rw [← hcore.groups, groupsOf_append, groupsOf_charPieces, List.nil_append] at h
    exact agrees_negation hcore (hplain hcore (hcore.source ▸ hclean.trim) hgroup) hread (ih hqs h)
  | @joined ps ts split hcore hgroup hnot hsplit hread _ _ ihl ihr =>
    have hcore' := hcore.source ▸ hclean.trim
    have hsplits := splits_of_splitPieces? hcore.scanned hsplit
    rw [← hcore.groups, hsplits.groups] at h
    have hnot' := afterNegation?_flatText_eq_none hnot
    rw [hcore.flat] at hnot'
    have hnumber := hplain hcore hcore' hgroup
    rw [hsplits.source] at hcore'
    have hright := (hcore'.right hsplits.after).right (after_separator hsplits.mem)
    have hl := ihl hcore'.of_append.1 h.left
    refine agrees_joined hcore hnumber hnot' hsplit hread hl fun left slots₁ hok => ?_
    exact ihr hright (h.right (hl.frame left slots₁ hok))
  | @comparison ps ts hcore hgroup hnot hsplit hread =>
    have hcore' := hcore.source ▸ hclean.trim
    have hnot' := afterNegation?_flatText_eq_none hnot
    rw [hcore.flat] at hnot'
    exact agrees_comparison hcore hcore' (hplain hcore hcore' hgroup) hnot' hsplit hread

/-- The parser reads from a fragment what the grammar reads, and leaves all earlier slots as they
were. -/
structure ReadsAlike (policy : Policy) (s : List Char) (slots : Slots) : Prop where
  answer : (readFragment policy s slots).toOption.map Prod.fst = Grammar.read? policy s
  extends_ok : ∀ p slots', readFragment policy s slots = .ok (p, slots') → slots <+: slots'

/-- Bound groups are in the slots behind the earlier ones. -/
lemma holds_of_binds {ps : List Piece} (hbinds : Binds policy ps slots slots')
    (h : ∀ number source, (number, source) ∈ groupsOf ps →
      ∀ slots, ReadsAlike policy source slots) :
    Holds policy slots' (groupsOf ps) ∧ slots <+: slots' ∧
      ∀ number ∈ (groupsOf ps).map Prod.fst, slots.length ≤ number := by
  induction hbinds with
  | nil slots =>
    refine ⟨⟨List.nodup_nil, fun _ _ hmem => by cases hmem⟩, List.prefix_rfl, fun _ hmem => ?_⟩
    cases hmem
  | char _ ih => exact ih h
  | @group source content ps slots slots₁ slots' hsource _ ih =>
    obtain ⟨hholds, hbind, hnumbers⟩ :=
      ih fun number source hmem => h number source (List.mem_cons_of_mem _ hmem)
    have halike := h _ source List.mem_cons_self slots
    have hext := halike.extends_ok _ _ hsource
    have hread : Grammar.read? policy source = some content := by
      rw [← halike.answer, hsource]
      rfl
    have hslots₁ : slots₁ <+: slots' := (List.prefix_append _ _).trans hbind
    have hlength : (slots₁.bind source content).length = slots₁.length + 1 := by simp [Slots.bind]
    have hslot : slots'[slots₁.length]? = some ⟨source, some content⟩ := by
      obtain ⟨rest, rfl⟩ := hbind
      rw [List.getElem?_append_left (by omega), Slots.bind, List.getElem?_concat_length]
    have hnew : slots₁.length ∉ (groupsOf ps).map Prod.fst := by
      intro hmem
      have hle := hnumbers _ hmem
      omega
    refine ⟨⟨List.nodup_cons.2 ⟨hnew, hholds.nodup⟩, ?_⟩, hext.trans hslots₁, ?_⟩
    · intro number' source' hmem
      rcases List.mem_cons.1 hmem with heq | hmem
      · cases heq
        exact ⟨content, hslot, hread⟩
      · exact hholds.content number' source' hmem
    · have hle := hext.length_le
      intro number hmem
      rcases List.mem_cons.1 hmem with rfl | hmem
      · exact hle
      · have hle' := hnumbers number hmem
        omega

/-- Replacing the groups succeeds if each of them can be read from any slots. -/
lemma exists_resolveFrom {q : QuoteState} {ps : List Piece} (hps : WellScanned q ps)
    (h : ∀ number source, (number, source) ∈ groupsOf ps →
      ∀ slots, ∃ read, readFragment policy source slots = .ok read)
    (whole : List Char) (slots : Slots) :
    ∃ resolved, resolveFrom policy whole q (sourceText ps) slots = .ok resolved := by
  induction hps generalizing slots with
  | nil q =>
    rw [sourceText, resolveFrom]
    exact ⟨_, rfl⟩
  | char hopen hclose _ ih =>
    obtain ⟨⟨flat, slots'⟩, hrest⟩ := ih h slots
    rw [sourceText, resolveFrom_char hopen hclose, hrest]
    exact ⟨_, rfl⟩
  | @group number source ps hsource _ ih =>
    obtain ⟨⟨content, slots₁⟩, hread⟩ := h number source List.mem_cons_self slots
    obtain ⟨⟨flat, slots'⟩, hrest⟩ :=
      ih (fun number source hmem => h number source (List.mem_cons_of_mem _ hmem))
        (slots₁.bind source content)
    rw [sourceText, resolveFrom_group hsource, hread]
    simp only [bind, Except.bind, hrest]
    exact ⟨_, rfl⟩

/-- If the groups of a fragment cannot be replaced, the grammar reads nothing from it. -/
lemma read?_eq_none_of_resolveFrom {s : List Char} {e : Failure}
    (hgroups : ∀ ps, WellScanned .outside ps → sourceText ps = trim s →
      ∀ number source, (number, source) ∈ groupsOf ps → ∀ slots, ReadsAlike policy source slots)
    (h : resolveFrom policy (trim s) .outside (trim s) slots = .error e) :
    Grammar.read? policy s = none := by
  by_contra hsome
  obtain ⟨p, hread⟩ := Option.ne_none_iff_exists'.1 hsome
  obtain ⟨ps, hps, hsource⟩ := exists_pieces_of_read? hread
  have hreadable : ∀ number source, (number, source) ∈ groupsOf ps →
      ∀ slots, ∃ read, readFragment policy source slots = .ok read := by
    intro number source hmem slots
    rw [← read?_trim, ← hsource] at hread
    obtain ⟨content, hcontent⟩ :=
      (marks_and_groups_of_read? (form_of_wellScanned policy hps) hread).2 number source hmem
    have hanswer := (hgroups ps hps hsource number source hmem slots).answer
    rw [hcontent] at hanswer
    cases hok : readFragment policy source slots with
    | error => simp [hok, Except.toOption] at hanswer
    | ok read => exact ⟨read, rfl⟩
  obtain ⟨resolved, hresolved⟩ := exists_resolveFrom hps hreadable (trim s) slots
  rw [hsource, h] at hresolved
  cases hresolved

/-- A clean fragment is read from any slots as the grammar reads it. -/
theorem readsAlike_of_isClean {s : List Char} (hclean : IsClean .outside s) (slots : Slots) :
    ReadsAlike policy s slots := by
  induction hlen : s.length using Nat.strongRecOn generalizing s slots with
  | ind n ih =>
    have htrim := length_trim_le s
    have hclean' := hclean.trim
    have hgroups : ∀ ps, WellScanned .outside ps → sourceText ps = trim s →
        ∀ number source, (number, source) ∈ groupsOf ps →
        ∀ slots, ReadsAlike policy source slots := by
      intro ps hps hsource number source hmem slots
      have hlt := length_lt_of_mem_groupsOf hmem
      rw [← hsource] at hclean' htrim
      exact ih source.length (by omega) (hclean'.of_mem_groupsOf hps hmem) slots rfl
    cases hresolve : resolveFrom policy (trim s) .outside (trim s) slots with
    | error e =>
      have hread : readFragment policy s slots = .error e := by
        rw [readFragment, hresolve]
        rfl
      constructor
      · rw [hread, read?_eq_none_of_resolveFrom hgroups hresolve]
        rfl
      · intro p slots' hok
        rw [hread] at hok
        cases hok
    | ok resolved =>
      obtain ⟨flat, slots₁⟩ := resolved
      obtain ⟨ps, hps, hsource, rfl, hbinds⟩ := resolveFrom_eq_ok_iff.1 hresolve
      obtain ⟨hholds, hext, hnumbers⟩ := holds_of_binds hbinds (hgroups ps hps hsource)
      have hagrees : Agrees policy ps slots₁ :=
        agrees_of_form (form_of_wellScanned policy hps) (hsource ▸ hclean') hholds
      have hread : readFragment policy s slots = readFlat policy (flatText ps) slots₁ := by
        rw [readFragment, hresolve]
        rfl
      constructor
      · rw [hread, hagrees.answer, hsource, read?_trim]
      · intro p slots' hok
        rw [hread] at hok
        rw [List.prefix_iff_getElem?] at hext ⊢
        intro number hlt
        rw [hagrees.frame p slots' hok number, hext number hlt]
        intro hmem
        have hle := hnumbers number hmem
        omega

end Slots

/-! ### Whole texts -/

lemma read?_eq_none_of_blank {policy : Policy} {s : List Char} (h : trim s = []) :
    Grammar.read? policy s = none := by
  have hsplit : Grammar.splitFrom? .outside (trim s) = none := by rw [h, Grammar.splitFrom?]
  rw [read?_comparison (by rw [h]; rfl) (by rw [h]; rfl) (by rw [h]; rfl) hsplit, h]
  rfl

lemma ofText_eq_ok_iff {policy : Policy} {s : String} {p : Filter} :
    Filter.ofText policy s = .ok p ↔
      trim s.toList ≠ [] ∧ ∃ slots, readFragment policy s.toList [] = .ok (p, slots) := by
  rw [Filter.ofText, readWithSlots]
  split
  · next hblank => simp [Except.map, hblank]
  · next hblank =>
    cases readFragment policy s.toList [] with
    | error => simp [Except.map]
    | ok read => simp [Except.map, hblank, Prod.ext_iff]

lemma ofText_eq_ok_iff_of_isClean {policy : Policy} {s : String} {p : Filter}
    (hclean : IsClean .outside s.toList) :
    Filter.ofText policy s = .ok p ↔ Grammar.read? policy s.toList = some p := by
  have hanswer := (@readsAlike_of_isClean policy _ hclean []).answer
  rw [ofText_eq_ok_iff]
  constructor
  · rintro ⟨-, slots, hok⟩
    rw [← hanswer, hok]
    rfl
  · intro hread
    refine ⟨fun hblank => ?_, ?_⟩
    · rw [read?_eq_none_of_blank hblank] at hread
      cases hread
    · rw [hread] at hanswer
      cases hok : readFragment policy s.toList [] with
      | error => simp [hok, Except.toOption] at hanswer
      | ok read =>
        obtain ⟨q, slots⟩ := read
        simp only [hok, Except.toOption, Option.map_some, Option.some.injEq] at hanswer
        exact ⟨slots, by rw [hanswer]⟩

/-- Each group of a fragment is read by itself. -/
def GroupsReadable (policy : Policy) (fragment : List Char) : Prop :=
  ∀ ps, WellScanned .outside ps → sourceText ps = trim fragment →
    ∀ number source, (number, source) ∈ groupsOf ps →
      ∃ content, Grammar.read? policy source = some content

/-- The parser reads the grammar: from a text without a digit right behind a closing parenthesis
it reads exactly the filter that the grammar reads there. What the grammar reads has only groups
that are read by themselves. -/
theorem ofText_eq_ok_iff_read? {policy : Policy} {s : String} {p : Filter}
    (h : closesOnDigit .outside s.toList = false) :
    (Filter.ofText policy s = .ok p ↔ Grammar.read? policy s.toList = some p) ∧
      ∀ fragment q, Grammar.read? policy fragment = some q → GroupsReadable policy fragment := by
  constructor
  · by_cases hmarks : countMarks .outside s.toList = 0
    · exact ofText_eq_ok_iff_of_isClean ⟨hmarks, h⟩
    · -- A typed placeholder is accepted by neither.
      constructor
      · intro hok
        obtain ⟨-, slots, hread⟩ := ofText_eq_ok_iff.1 hok
        exact absurd (countMarks_of_readFragment hread) hmarks
      · intro hread
        obtain ⟨ps, hps, hsource⟩ := exists_pieces_of_read? hread
        rw [← read?_trim, ← hsource] at hread
        have htyped := (marks_and_groups_of_read? (form_of_wellScanned policy hps) hread).1
        rw [hsource, countMarks_trim] at htyped
        exact absurd htyped hmarks
  · intro fragment q hread ps hps hsource
    rw [← read?_trim, ← hsource] at hread
    exact (marks_and_groups_of_read? (form_of_wellScanned policy hps) hread).2

/-- The groups of a chain of two connectives, one of them around a comparison with a quoted
parenthesis. -/
theorem ofText_eq_ok_iff_read?_chain :
    closesOnDigit .outside "(A eq 1) or not (B eq ')2') and C in [1, 2]".toList = false ∧
      Filter.ofText .strict "(A eq 1) or not (B eq ')2') and C in [1, 2]" =
        .ok (.joined .or (.comparison "A" .equal (.single (.integer 1)))
          (.negation (.joined .and (.comparison "B" .equal (.single (.string ")2")))
            (.comparison "C" .oneOf (.list [.integer 1, .integer 2]))))) := by
  have h : closesOnDigit .outside "(A eq 1) or not (B eq ')2') and C in [1, 2]".toList = false := by
    decide +kernel
  exact ⟨h, (ofText_eq_ok_iff_read? h).1.2 (by decide +kernel)⟩

end RecordFilter.Proofs
