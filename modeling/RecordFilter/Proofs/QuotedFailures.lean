import RecordFilter.Proofs.FlatReading
import RecordFilter.Proofs.RestoredText

/-!
# What failures quote

A failure quotes the fragment or the token at fault. Parentheses that do not match and tokens that
are no values are quoted as they stand in the text. What the reader quotes of a fragment with groups
has their sources put back, and is a part of the text if the text is unmistakable.
-/

namespace RecordFilter.Proofs
open RecordFilter.Text RecordFilter.Parser RecordFilter.Number

/-- What is reported of a text. Parentheses and values are quoted from the text; what placeholders
can stand in is quoted from it if the text is plain. -/
inductive Reports (plain : Prop) (text : List Char) : Failure → Prop
  | unmatchedParentheses {part : List Char} (h : part <:+: text) :
      Reports plain text (.unmatchedParentheses (String.ofList part))
  | invalidValue {part : List Char} (h : part <:+: text) :
      Reports plain text (.invalidValue (String.ofList part))
  | unknownPlaceholder {part : List Char} (h : plain → part <:+: text) :
      Reports plain text (.unknownPlaceholder (String.ofList part))
  | unreadable {part : List Char} (h : plain → part <:+: text) :
      Reports plain text (.unreadable (String.ofList part))

lemma Reports.mono {plain : Prop} {part text : List Char} {failure : Failure}
    (h : Reports plain part failure) (hpart : part <:+: text) : Reports plain text failure := by
  cases h with
  | unmatchedParentheses h => exact .unmatchedParentheses (h.trans hpart)
  | invalidValue h => exact .invalidValue (h.trans hpart)
  | unknownPlaceholder h => exact .unknownPlaceholder fun hplain => (h hplain).trans hpart
  | unreadable h => exact .unreadable fun hplain => (h hplain).trans hpart

lemma Reports.kind_and_detail {plain : Prop} {text : List Char} {failure : Failure}
    (h : Reports plain text failure) :
    failure.kind ∈ [.unmatchedParentheses, .unknownPlaceholder, .invalidExpression, .invalidValue] ∧
      (failure.kind = .unmatchedParentheses ∨ failure.kind = .invalidValue ∨ plain →
        failure.detail.toList <:+: text) := by
  have hquoted : ∀ {part : List Char}, part <:+: text → (String.ofList part).toList <:+: text := by
    intro part hpart
    rwa [String.toList_ofList]
  cases h with
  | unmatchedParentheses h => exact ⟨by simp [Failure.kind], fun _ => hquoted h⟩
  | invalidValue h => exact ⟨by simp [Failure.kind], fun _ => hquoted h⟩
  | unknownPlaceholder h =>
    exact ⟨by simp [Failure.kind], fun hplain => hquoted (h (by simpa [Failure.kind] using hplain))⟩
  | unreadable h =>
    exact ⟨by simp [Failure.kind], fun hplain => hquoted (h (by simpa [Failure.kind] using hplain))⟩

lemma infix_of_trim (s : List Char) : trim s <:+: s := by
  obtain ⟨x, y, -, -, hs⟩ := exists_eq_append_trim s
  exact ⟨x, y, hs.symm⟩

lemma IsCore.infix_source {ps ts : List Piece} (h : IsCore ps ts) :
    sourceText ts <:+: sourceText ps := by
  rw [h.source]
  exact infix_of_trim _

namespace PieceSplit.Splits

variable {split : PieceSplit} {ps : List Piece}

lemma infix_left (h : split.Splits ps) : sourceText split.left <:+: sourceText ps :=
  h.source ▸ (List.prefix_append _ _).isInfix

lemma infix_right (h : split.Splits ps) : sourceText split.right <:+: sourceText ps := by
  rw [h.source, ← List.append_assoc]
  exact (List.suffix_append _ _).isInfix

end PieceSplit.Splits

/-- The first part of a text that is split is a beginning of it, and all others are parts of it. -/
lemma infix_of_mem_splitFrom {delimiter : Char} {q : QuoteState} {s : List Char} :
    ∃ first rest, splitFrom delimiter q s = first :: rest ∧ first <+: s ∧
      ∀ part ∈ rest, part <:+: s := by
  induction s generalizing q with
  | nil => exact ⟨[], [], rfl, List.prefix_rfl, by simp⟩
  | cons c s ih =>
    obtain ⟨first, rest, heq, hfirst, hrest⟩ := @ih (q.next c)
    have htail : s <:+: c :: s := (List.suffix_cons c s).isInfix
    rw [splitFrom, heq]
    split
    · refine ⟨[], first :: rest, rfl, List.nil_prefix, ?_⟩
      intro part hpart
      rcases List.mem_cons.1 hpart with rfl | hpart
      · exact hfirst.isInfix.trans htail
      · exact (hrest part hpart).trans htail
    · exact ⟨c :: first, rest, rfl, List.cons_prefix_cons.2 ⟨rfl, hfirst⟩,
        fun part hpart => (hrest part hpart).trans htail⟩

lemma infix_of_mem_split {delimiter : Char} {s part : List Char} (h : part ∈ split delimiter s) :
    part <:+: s := by
  obtain ⟨first, rest, heq, hfirst, hrest⟩ := @infix_of_mem_splitFrom delimiter .outside s
  rw [split, heq] at h
  rcases List.mem_cons.1 h with rfl | h
  · exact hfirst.isInfix
  · exact hrest part h

section Values

variable {policy : Policy}

lemma ofToken_eq_error {token : List Char} {failure : Failure}
    (h : Scalar.ofToken policy token = .error failure) :
    failure = .invalidValue (String.ofList (trim token)) := by
  unfold Scalar.ofToken at h
  split at h
  · cases h
  · cases h
    rfl

lemma infix_of_readElements {whole : List Char} {elements : List (List Char)} {failure : Failure}
    (h : readElements policy whole elements = .error failure)
    (helements : ∀ element ∈ elements, element <:+: whole) :
    ∃ part, part <:+: whole ∧ failure = .invalidValue (String.ofList part) := by
  induction elements with
  | nil => cases h
  | cons element elements ih =>
    have helement := helements element List.mem_cons_self
    rw [readElements] at h
    split at h
    · cases h
      exact ⟨whole, List.infix_rfl, rfl⟩
    · cases hvalue : Scalar.ofToken policy element with
      | error e =>
        rw [hvalue] at h
        cases h
        exact ⟨trim element, (infix_of_trim element).trans helement, ofToken_eq_error hvalue⟩
      | ok value =>
        rw [hvalue] at h
        cases hvalues : readElements policy whole elements with
        | error e =>
          rw [hvalues] at h
          cases h
          exact ih hvalues fun element hmem => helements element (List.mem_cons_of_mem _ hmem)
        | ok values =>
          rw [hvalues] at h
          cases h

lemma infix_of_withoutBrackets? {token inner : List Char}
    (h : withoutBrackets? token = some inner) : inner <:+: token := by
  unfold withoutBrackets? at h
  split at h
  · split at h
    · cases h
      exact (List.dropLast_prefix _).isInfix.trans (List.suffix_cons _ _).isInfix
    · cases h
  · cases h

/-- An operand that is no value is quoted from its token. -/
lemma infix_of_readOperand {comparator : Comparator} {token : List Char} {failure : Failure}
    (h : readOperand policy comparator token = .error failure) :
    ∃ part, part <:+: token ∧ failure = .invalidValue (String.ofList part) := by
  have hsingle : ∀ {f : Scalar → Operand Scalar},
      (Scalar.ofToken policy token).map f = .error failure →
      ∃ part, part <:+: token ∧ failure = .invalidValue (String.ofList part) := by
    intro f h
    cases hvalue : Scalar.ofToken policy token with
    | error e =>
      rw [hvalue] at h
      cases h
      exact ⟨trim token, infix_of_trim token, ofToken_eq_error hvalue⟩
    | ok value =>
      rw [hvalue] at h
      cases h
  unfold readOperand at h
  split at h
  · split at h
    · next inner hinner =>
      split at h
      · cases h
      · cases hvalues : readElements policy token (split ',' inner) with
        | error e =>
          rw [hvalues] at h
          cases h
          exact infix_of_readElements hvalues fun element hmem =>
            (infix_of_mem_split hmem).trans (infix_of_withoutBrackets? hinner)
        | ok values =>
          rw [hvalues] at h
          cases h
    · exact hsingle h
  · exact hsingle h

end Values

section Reading

variable {policy : Policy} {plain : Prop} {n : Nat} {slots : Slots}

/-- A comparison is quoted with its groups put back; a token that is no value has none. -/
lemma reports_of_readComparison {ts : List Piece} {failure : Failure} (hts : WellScanned .outside ts)
    (hrestore : plain → slots.restore (flatText ts) = sourceText ts)
    (h : readComparison policy slots (flatText ts) = .error failure) :
    Reports plain (sourceText ts) failure := by
  rcases readComparison_eq_error h with rfl | ⟨hmarks, field, comparator, token, hwritten, hoperand⟩
  · exact .unreadable fun hplain => hrestore hplain ▸ List.infix_rfl
  · have hnone := groupsOf_eq_nil_of_countMarks hts hmarks
    obtain ⟨before, hflat, -⟩ := hwritten.exists_before
    obtain ⟨part, hpart, rfl⟩ := infix_of_readOperand hoperand
    rw [← flatText_eq_sourceText hnone, hflat]
    exact .invalidValue (hpart.trans (List.suffix_append _ _).isInfix)

/-- The groups of an unmistakable fragment in pieces are in their slots, and none of them holds a
mark. -/
structure IsReady (policy : Policy) (n : Nat) (slots : Slots) (ps : List Piece) : Prop where
  unmistakable : IsUnmistakable n .outside (sourceText ps)
  length : slots.length ≤ n
  holds : Holds policy slots (groupsOf ps)
  marks : ∀ number source, (number, source) ∈ groupsOf ps → countMarks .outside source = 0

lemma IsReady.core {ps ts : List Piece} (h : IsReady policy n slots ps) (hcore : IsCore ps ts) :
    IsReady policy n slots ts where
  unmistakable := hcore.source ▸ h.unmistakable.trim
  length := h.length
  holds := hcore.groups ▸ h.holds
  marks := hcore.groups ▸ h.marks

/-- In a fragment that is ready, a placeholder that takes nothing is written in the source, and one
that takes a group stands for it. -/
lemma IsReady.take? {ts : List Piece} {number : Nat} (h : IsReady policy n slots ts)
    (hts : WellScanned .outside ts) (hnumber : placeholderNumber? (flatText ts) = some number) :
    slots.take? number = none ∧ flatText ts = sourceText ts ∨
      slots.take? number ≠ none ∧ countMarks .outside (sourceText ts) = 0 := by
  obtain ⟨digits, hdigits, ⟨rfl, hne, rfl⟩ | ⟨slot, source, rfl, rfl⟩⟩ :=
    pieces_of_placeholderNumber? hnumber
  · have hvalue : n ≤ digitsValue digits := by
      have hwritten := mentionsBelow_eq_false_iff.1 h.unmistakable.mentions [] digits (by simp)
      rw [List.takeWhile_eq_self_iff.2 hdigits] at hwritten
      exact hwritten hne
    have hnone : slots[digitsValue digits]? = none :=
      List.getElem?_eq_none (h.length.trans hvalue)
    exact .inl ⟨by rw [Slots.take?, hnone], by simp⟩
  · have hsource := hts.isClosed_of_mem_groupsOf List.mem_cons_self
    have hafter := (h.unmistakable.group hsource).2.2
    rw [sourceText_charPieces] at hafter
    cases digits with
    | cons c digits =>
      have hc := hdigits c List.mem_cons_self
      rw [hafter c rfl] at hc
      cases hc
    | nil =>
      obtain ⟨content, hslot, -⟩ := h.holds.content slot source List.mem_cons_self
      refine .inr ⟨?_, ?_⟩
      · rw [List.append_nil, digitsValue_digitsOf,
          take?_eq_some_iff.2 ⟨source, hslot, rfl⟩]
        exact Option.some_ne_none _
      · rw [sourceText, countMarks_group hsource, h.marks slot source List.mem_cons_self]
        rfl

/-- Behind a negation everything is left as it was. -/
lemma IsReady.negated {qs : List Piece}
    (h : IsReady policy n slots (charPieces negationMark ++ qs)) :
    IsReady policy n slots qs := by
  have hgroups : groupsOf (charPieces negationMark ++ qs) = groupsOf qs := by simp
  have hunmistakable := h.unmistakable
  rw [sourceText_append, sourceText_charPieces] at hunmistakable
  have hright := hunmistakable.right
  rw [after_negationMark] at hright
  exact ⟨hright, h.length, hgroups ▸ h.holds, hgroups ▸ h.marks⟩

/-- The left side of a fragment that is ready is ready. -/
lemma IsReady.left {ts : List Piece} {split : PieceSplit} (h : IsReady policy n slots ts)
    (hsplits : split.Splits ts) : IsReady policy n slots split.left := by
  have hunmistakable := h.unmistakable
  have hholds := h.holds
  rw [hsplits.source] at hunmistakable
  rw [hsplits.groups] at hholds
  refine ⟨hunmistakable.left ?_, h.length, hholds.left, fun number source hmem => ?_⟩
  · intro c hc
    rcases separator_eq_of_mem hsplits.mem with heq | heq <;> rw [heq] at hc <;> cases hc <;> decide
  · apply h.marks number source
    rw [hsplits.groups]
    exact List.mem_append_left _ hmem

/-- Reading the left side of a fragment that is ready leaves the right side ready. -/
lemma IsReady.right {ts : List Piece} {split : PieceSplit} {slots₁ : Slots} {p : Filter}
    (h : IsReady policy n slots ts) (hsplits : split.Splits ts)
    (hmarks : countMarks .outside (sourceText split.left) = 0)
    (hleft : readFlat policy (flatText split.left) slots = .ok (p, slots₁)) :
    IsReady policy n slots₁ split.right := by
  have hunmistakable := h.unmistakable
  have hholds := h.holds
  rw [hsplits.source] at hunmistakable
  rw [hsplits.groups] at hholds
  have hclean : IsClean .outside (sourceText split.left) :=
    ⟨hmarks, (h.left hsplits).unmistakable.digits⟩
  have hagrees := agrees_of_form (form_of_wellScanned policy hsplits.left) hclean hholds.left
  obtain ⟨_, -, -, hlength⟩ := builds_of_readFlat hleft
  refine ⟨?_, hlength ▸ h.length, hholds.right (hagrees.frame p slots₁ hleft),
    fun number source hmem => ?_⟩
  · have hright := hunmistakable.right.right
    rwa [hsplits.after, after_separator hsplits.mem] at hright
  · apply h.marks number source
    rw [hsplits.groups]
    exact List.mem_append_right _ hmem

/-- What the reading of a flat text reports is a part of the source, and what it accepts holds no
mark. -/
structure Quotes (policy : Policy) (plain : Prop) (ps : List Piece) (slots : Slots) : Prop where
  failure : ∀ failure, readFlat policy (flatText ps) slots = .error failure →
    Reports plain (sourceText ps) failure
  marks : plain → ∀ p slots', readFlat policy (flatText ps) slots = .ok (p, slots') →
    countMarks .outside (sourceText ps) = 0

namespace Quotes

variable {ps qs ts : List Piece}

/-- A placeholder that takes nothing is written in the source, and any other one is no mark in it. -/
lemma placeholder {number : Nat} (hcore : IsCoreBetween ps ts)
    (hnumber : placeholderNumber? (flatText ts) = some number)
    (hread : ∀ policy slots, readFlat policy (flatText ps) slots = (slots.take? number).elim
      (.error (.unknownPlaceholder (String.ofList (flatText ts)))) .ok)
    (hready : plain → IsReady policy n slots ps) : Quotes policy plain ps slots := by
  have htake := fun hplain => ((hready hplain).core hcore.toIsCore).take? hcore.scanned hnumber
  constructor
  · intro failure h
    rw [hread] at h
    cases hslot : slots.take? number with
    | some taken =>
      rw [hslot] at h
      cases h
    | none =>
      rw [hslot] at h
      cases h
      refine .unknownPlaceholder fun hplain => ?_
      rcases htake hplain with ⟨-, hflat⟩ | ⟨hsome, -⟩
      · rw [hflat]
        exact hcore.infix_source
      · exact absurd hslot hsome
  · intro hplain p slots' h
    rw [hread] at h
    rcases htake hplain with ⟨hnone, -⟩ | ⟨-, hmarks⟩
    · rw [hnone] at h
      cases h
    · rw [← countMarks_trim, ← hcore.source, hmarks]

lemma negation (hcore : IsCoreBetween ps (charPieces negationMark ++ qs))
    (hread : ∀ policy slots, readFlat policy (flatText ps) slots = do
      let (inner, slots) ← readFlat policy (flatText qs) slots
      return (.negation inner, slots))
    (hinner : Quotes policy plain qs slots) : Quotes policy plain ps slots := by
  have hsource : sourceText (charPieces negationMark ++ qs) = negationMark ++ sourceText qs := by
    simp
  constructor
  · intro failure h
    rw [hread] at h
    rcases bind_eq_error_iff.1 h with h | ⟨_, -, h⟩
    · refine (hinner.failure failure h).mono (List.IsInfix.trans ?_ hcore.infix_source)
      rw [hsource]
      exact (List.suffix_append _ _).isInfix
    · cases h
  · intro hplain p slots' h
    rw [hread] at h
    obtain ⟨⟨inner, slots₁⟩, h, -⟩ := bind_eq_ok_iff.1 h
    rw [← countMarks_trim, ← hcore.source, hsource, countMarks_negationMark_append]
    exact hinner.marks hplain inner slots₁ h

lemma joined {split : PieceSplit} (hcore : IsCoreBetween ps ts) (hsplits : split.Splits ts)
    (hread : ∀ policy slots, readFlat policy (flatText ps) slots = do
      let (left, slots) ← readFlat policy (flatText split.left) slots
      let (right, slots) ← readFlat policy (flatText split.right) slots
      return (.joined split.connective left right, slots))
    (hleft : Quotes policy plain split.left slots)
    (hright : ∀ left slots₁, readFlat policy (flatText split.left) slots = .ok (left, slots₁) →
      Quotes policy plain split.right slots₁) : Quotes policy plain ps slots := by
  constructor
  · intro failure h
    rw [hread] at h
    rcases bind_eq_error_iff.1 h with h | ⟨⟨left, slots₁⟩, hok, h⟩
    · exact (hleft.failure failure h).mono (hsplits.infix_left.trans hcore.infix_source)
    · rcases bind_eq_error_iff.1 h with h | ⟨_, -, h⟩
      · exact ((hright left slots₁ hok).failure failure h).mono
          (hsplits.infix_right.trans hcore.infix_source)
      · cases h
  · intro hplain p slots' h
    rw [hread] at h
    obtain ⟨⟨left, slots₁⟩, hok, h⟩ := bind_eq_ok_iff.1 h
    obtain ⟨⟨right, slots₂⟩, h, -⟩ := bind_eq_ok_iff.1 h
    rw [← countMarks_trim, ← hcore.source, hsplits.source,
      countMarks_separator_append hsplits.mem _ _ hsplits.after,
      hleft.marks hplain left slots₁ hok, (hright left slots₁ hok).marks hplain right slots₂ h]

lemma comparison (hcore : IsCoreBetween ps ts)
    (hread : ∀ policy slots, readFlat policy (flatText ps) slots = do
      let comparison ← readComparison policy slots (flatText ts)
      return (comparison, slots))
    (hready : plain → IsReady policy n slots ps) : Quotes policy plain ps slots := by
  have hrestore : plain → slots.restore (flatText ts) = sourceText ts := by
    intro hplain
    have hts := (hready hplain).core hcore.toIsCore
    refine restore_flatText hcore.scanned hts.unmistakable hts.length fun number source hmem => ?_
    obtain ⟨content, hslot, -⟩ := hts.holds.content number source hmem
    exact ⟨some content, hslot⟩
  constructor
  · intro failure h
    rw [hread] at h
    rcases bind_eq_error_iff.1 h with h | ⟨_, -, h⟩
    · exact (reports_of_readComparison hcore.scanned hrestore h).mono hcore.infix_source
    · cases h
  · intro hplain p slots' h
    rw [hread] at h
    obtain ⟨comparison, hcomparison, -⟩ := bind_eq_ok_iff.1 h
    have hmarks := (builds_of_readComparison hcomparison).2
    have hnone := groupsOf_eq_nil_of_countMarks hcore.scanned hmarks
    rw [← countMarks_trim, ← hcore.source, ← flatText_eq_sourceText hnone, hmarks]

end Quotes

/-- The reading of a flat text quotes its source. -/
theorem quotes_of_flatForm {ps : List Piece} (hform : FlatForm ps)
    (hready : plain → IsReady policy n slots ps) : Quotes policy plain ps slots := by
  induction hform generalizing slots with
  | placeholder hcore hnumber hread => exact .placeholder hcore hnumber hread hready
  | negation hcore hread _ _ ih =>
    exact .negation hcore hread (ih fun hplain => ((hready hplain).core hcore.toIsCore).negated)
  | @joined ps ts split hcore hsplit hread _ _ ihl ihr =>
    have hsplits := splits_of_splitPieces? hcore.scanned hsplit
    have hts := fun hplain => (hready hplain).core hcore.toIsCore
    have hleft := ihl fun hplain => (hts hplain).left hsplits
    have hright : ∀ left slots₁, readFlat policy (flatText split.left) slots = .ok (left, slots₁) →
        Quotes policy plain split.right slots₁ := fun left slots₁ h =>
      ihr fun hplain => (hts hplain).right hsplits (hleft.marks hplain left slots₁ h) h
    exact .joined hcore hsplits hread hleft hright
  | comparison hcore hread => exact .comparison hcore hread hready

/-! ### Fragments and filters -/

/-- A text is unmistakable, and its groups get numbers below `n`. -/
structure HasRoom (n : Nat) (slots : Slots) (q : QuoteState) (s : List Char) : Prop where
  unmistakable : IsUnmistakable n q s
  room : slots.length + countStructural '(' q s ≤ n

/-- What the reading of a fragment reports is a part of it, and what it accepts holds no mark. -/
structure QuotesFragment (policy : Policy) (plain : Prop) (s : List Char) (slots : Slots) : Prop where
  failure : ∀ failure, readFragment policy s slots = .error failure → Reports plain s failure
  marks : plain → ∀ p slots', readFragment policy s slots = .ok (p, slots') →
    countMarks .outside s = 0

lemma HasRoom.of_char {q : QuoteState} {c : Char} {s : List Char} (h : HasRoom n slots q (c :: s)) :
    HasRoom n slots (q.next c) s := by
  have hroom := h.room
  rw [countStructural] at hroom
  exact ⟨IsUnmistakable.right (s := [c]) h.unmistakable, by omega⟩

lemma HasRoom.of_group {source s : List Char} (hsource : IsClosed source)
    (h : HasRoom n slots .outside ('(' :: (source ++ ')' :: s))) :
    HasRoom n slots .outside source := by
  have hroom := h.room
  rw [countStructural_group hsource] at hroom
  exact ⟨(h.unmistakable.group hsource).1, by omega⟩

/-- A group that is read leaves room for the text after it. -/
lemma HasRoom.after_group {source s : List Char} {content : Filter} {slots₁ : Slots}
    (hsource : IsClosed source) (h : HasRoom n slots .outside ('(' :: (source ++ ')' :: s)))
    (hread : readFragment policy source slots = .ok (content, slots₁)) :
    HasRoom n (slots₁.bind source content) .outside s := by
  have hroom := h.room
  rw [countStructural_group hsource] at hroom
  refine ⟨(h.unmistakable.group hsource).2.1, ?_⟩
  obtain ⟨_, -, -, hlength⟩ := builds_of_readFragment hread
  rw [Slots.bind, List.length_append, List.length_singleton]
  omega

/-- Groups that were bound one after the other leave room for no more numbers than there are, and
none of them holds a mark. -/
lemma marks_of_binds {q : QuoteState} {ps : List Piece} {slots' : Slots} (hps : WellScanned q ps)
    (hbinds : Binds policy ps slots slots') (hroom : HasRoom n slots q (sourceText ps))
    (hmarks : ∀ number source, (number, source) ∈ groupsOf ps → ∀ slots,
      HasRoom n slots .outside source → ∀ p slots',
        readFragment policy source slots = .ok (p, slots') → countMarks .outside source = 0) :
    slots'.length ≤ n ∧
      ∀ number source, (number, source) ∈ groupsOf ps → countMarks .outside source = 0 := by
  induction hbinds generalizing q with
  | nil slots => exact ⟨(Nat.le_add_right _ _).trans hroom.room, fun _ _ hmem => by cases hmem⟩
  | char _ ih => exact ih hps.of_char hroom.of_char hmarks
  | @group source content ps slots slots₁ slots' hread _ ih =>
    cases hps with
    | group hsource hps =>
      obtain ⟨hlength, htail⟩ := ih hps (hroom.after_group hsource hread)
        fun number source hmem => hmarks number source (List.mem_cons_of_mem _ hmem)
      refine ⟨hlength, fun number' source' hmem => ?_⟩
      rcases List.mem_cons.1 hmem with heq | hmem
      · cases heq
        exact hmarks _ source List.mem_cons_self slots (hroom.of_group hsource) content slots₁ hread
      · exact htail number' source' hmem

/-- Once its groups are bound, an unmistakable fragment is ready. -/
lemma isReady_of_binds {ps : List Piece} {slots' : Slots} (hps : WellScanned .outside ps)
    (hbinds : Binds policy ps slots slots') (hroom : HasRoom n slots .outside (sourceText ps))
    (hmarks : ∀ number source, (number, source) ∈ groupsOf ps → ∀ slots,
      HasRoom n slots .outside source → ∀ p slots',
        readFragment policy source slots = .ok (p, slots') → countMarks .outside source = 0) :
    IsReady policy n slots' ps := by
  obtain ⟨hlength, hnone⟩ := marks_of_binds hps hbinds hroom hmarks
  have halike : ∀ number source, (number, source) ∈ groupsOf ps →
      ∀ slots, ReadsAlike policy source slots := fun number source hmem =>
    readsAlike_of_isClean
      ⟨hnone number source hmem, (hroom.unmistakable.of_mem_groupsOf hps hmem).digits⟩
  exact ⟨hroom.unmistakable, hlength, (holds_of_binds hbinds halike).1, hnone⟩

/-- What replacing the groups of a fragment reports is a part of it. -/
lemma reports_of_resolveFrom {q : QuoteState} {whole s text : List Char} {failure : Failure}
    (hwhole : whole <:+: text) (hs : s <:+: text) (hroom : plain → HasRoom n slots q s)
    (hquotes : ∀ source, source.length < s.length → ∀ slots,
      (plain → HasRoom n slots .outside source) → QuotesFragment policy plain source slots)
    (h : resolveFrom policy whole q s slots = .error failure) : Reports plain text failure := by
  induction scanCase q s generalizing slots with
  | nil q =>
    rw [resolveFrom] at h
    cases h
  | @char q c s hopen hclose _ ih =>
    have htail : s <:+: text := (List.suffix_cons c s).isInfix.trans hs
    rw [resolveFrom_char hopen hclose] at h
    rcases bind_eq_error_iff.1 h with h | ⟨_, -, h⟩
    · exact ih htail (fun hplain => (hroom hplain).of_char)
        (fun source hshort => hquotes source (hshort.trans (Nat.lt_succ_self _))) h
    · cases h
  | closing s =>
    rw [resolveFrom_closing] at h
    cases h
    exact .unmatchedParentheses hwhole
  | unclosed htake =>
    rw [resolveFrom_unclosed htake] at h
    cases h
    exact .unmatchedParentheses hwhole
  | @group source rest hsource _ ih =>
    have hlt : source.length < ('(' :: (source ++ ')' :: rest)).length ∧
        rest.length < ('(' :: (source ++ ')' :: rest)).length := by
      simp only [List.length_cons, List.length_append]
      omega
    have hinner := hquotes source hlt.1 slots fun hplain => (hroom hplain).of_group hsource
    have htail : source ++ ')' :: rest <:+: text := (List.suffix_cons _ _).isInfix.trans hs
    rw [resolveFrom_group hsource] at h
    rcases bind_eq_error_iff.1 h with h | ⟨⟨content, slots₁⟩, hread, h⟩
    · exact (hinner.failure failure h).mono ((List.prefix_append _ _).isInfix.trans htail)
    · rcases bind_eq_error_iff.1 h with h | ⟨_, -, h⟩
      · have hrest : rest <:+ source ++ ')' :: rest :=
          (List.suffix_cons _ _).trans (List.suffix_append _ _)
        exact ih (hrest.isInfix.trans htail)
          (fun hplain => (hroom hplain).after_group hsource hread)
          (fun source hshort => hquotes source (hshort.trans hlt.2)) h
      · cases h

/-- The reading of a fragment quotes it, whatever slots were bound before. -/
theorem quotes_of_readFragment {s : List Char} (hroom : plain → HasRoom n slots .outside s) :
    QuotesFragment policy plain s slots := by
  induction hlen : s.length using Nat.strongRecOn generalizing s slots with
  | ind k ih =>
    have htrim := length_trim_le s
    have hroom' : plain → HasRoom n slots .outside (trim s) := fun hplain =>
      ⟨(hroom hplain).unmistakable.trim, by
        rw [countStructural_trim (by decide)]
        exact (hroom hplain).room⟩
    cases hresolve : resolveFrom policy (trim s) .outside (trim s) slots with
    | error e =>
      have hread : readFragment policy s slots = .error e := by
        rw [readFragment, hresolve]
        rfl
      constructor
      · intro failure h
        rw [hread] at h
        cases h
        exact reports_of_resolveFrom (infix_of_trim s) (infix_of_trim s) hroom'
          (fun source hlt slots hsource => ih source.length (by omega) hsource rfl) hresolve
      · intro _ p slots' h
        rw [hread] at h
        cases h
    | ok resolved =>
      obtain ⟨flat, slots₁⟩ := resolved
      obtain ⟨ps, hps, hsource, rfl, hbinds⟩ := resolveFrom_eq_ok_iff.1 hresolve
      have hread : readFragment policy s slots = readFlat policy (flatText ps) slots₁ := by
        rw [readFragment, hresolve]
        rfl
      have hquotes : Quotes policy plain ps slots₁ := by
        refine quotes_of_flatForm (n := n) (flatForm_of_wellScanned hps) fun hplain => ?_
        refine isReady_of_binds hps hbinds (hsource ▸ hroom' hplain) ?_
        intro number source hmem slots hsourceRoom
        have hlt := length_lt_of_mem_groupsOf hmem
        rw [hsource] at hlt
        exact (ih source.length (by omega) (fun _ => hsourceRoom) rfl).marks hplain
      constructor
      · intro failure h
        rw [hread] at h
        refine (hquotes.failure failure h).mono ?_
        rw [hsource]
        exact infix_of_trim s
      · intro hplain p slots' h
        rw [hread] at h
        rw [← countMarks_trim, ← hsource]
        exact hquotes.marks hplain p slots' h

end Reading

/-- A text that is no filter and not blank is refused for its parentheses, for a placeholder, for a
fragment that no rule fits or for a value. In the first and the last case the failure quotes a part
of the text as it stands. In all cases it does if the text is unmistakable: if no digit follows a
group directly, and every placeholder that is written in the text, within literals or outside, has a
number that none of its groups gets. -/
theorem detail_infix_of_ofText {policy : Policy} {s : String} {failure : Failure}
    (hs : trim s.toList ≠ []) (h : Filter.ofText policy s = .error failure) :
    failure.kind ∈ [.unmatchedParentheses, .unknownPlaceholder, .invalidExpression, .invalidValue] ∧
      (failure.kind = .unmatchedParentheses ∨ failure.kind = .invalidValue ∨
          IsUnmistakable (countStructural '(' .outside s.toList) .outside s.toList →
        failure.detail.toList <:+: s.toList) := by
  have hfailure : readFragment policy s.toList [] = .error failure := by
    rw [Filter.ofText, readWithSlots, if_neg hs] at h
    cases hread : readFragment policy s.toList [] with
    | error e =>
      rw [hread] at h
      cases h
      rfl
    | ok read =>
      rw [hread] at h
      cases h
  have hroom : IsUnmistakable (countStructural '(' .outside s.toList) .outside s.toList →
      HasRoom (countStructural '(' .outside s.toList) [] .outside s.toList :=
    fun hplain => ⟨hplain, by rw [List.length_nil, Nat.zero_add]⟩
  exact ((quotes_of_readFragment hroom).failure failure hfailure).kind_and_detail

/-- A group in the place of a value, with another group in it and a quoted placeholder whose number
is too great for both. -/
theorem detail_infix_of_ofText_nestedGroup :
    trim "Name like ((A eq 1) or B eq '@Sub_2')".toList ≠ [] ∧
      Filter.ofText .strict "Name like ((A eq 1) or B eq '@Sub_2')" =
        .error (.unreadable "Name like ((A eq 1) or B eq '@Sub_2')") ∧
      IsUnmistakable 2 .outside "Name like ((A eq 1) or B eq '@Sub_2')".toList ∧
      "Name like ((A eq 1) or B eq '@Sub_2')".toList <:+:
        "Name like ((A eq 1) or B eq '@Sub_2')".toList := by
  have hblank : trim "Name like ((A eq 1) or B eq '@Sub_2')".toList ≠ [] := by decide +kernel
  have hread : Filter.ofText .strict "Name like ((A eq 1) or B eq '@Sub_2')" =
      .error (.unreadable "Name like ((A eq 1) or B eq '@Sub_2')") := by decide +kernel
  have hplain : IsUnmistakable 2 .outside "Name like ((A eq 1) or B eq '@Sub_2')".toList :=
    ⟨by decide +kernel, by decide +kernel⟩
  have hcount : countStructural '(' .outside "Name like ((A eq 1) or B eq '@Sub_2')".toList = 2 := by
    decide +kernel
  have hquoted := (detail_infix_of_ofText hblank hread).2
  rw [hcount] at hquoted
  exact ⟨hblank, hread, hplain, hquoted (.inr (.inr hplain))⟩

/-- A quoted placeholder with the number of a group is replaced by that group in what is
reported. -/
theorem quoted_placeholder_is_replaced :
    ¬∀ (policy : Policy) (s : String) (failure : Failure), trim s.toList ≠ [] →
      Filter.ofText policy s = .error failure → failure.detail.toList <:+: s.toList := by
  intro h
  have hread : Filter.ofText .strict "(A eq 1) and Name like '@Sub_0'" =
      .error (.unreadable "Name like '(A eq 1)'") := by decide +kernel
  have hpart := h .strict _ _ (by decide +kernel) hread
  exact absurd hpart (by decide +kernel)

end RecordFilter.Proofs
