import Mathlib.Tactic.Common
import RecordFilter.Proofs.PrintedText

/-!
# Filters are read back from their text

Whatever filter has a text, the text is read exactly if no comparison has a predicate in place of
its field. Then the filter that was printed comes back, up to what printing loses
(`Filter.asPrinted`), and printing that filter gives the same text again.
-/

namespace RecordFilter.Proofs
open RecordFilter.Text RecordFilter.Parser RecordFilter.Number

/-- The operand that is read from the text of an operand. -/
def rereadOperand (comparator : Comparator) : Operand Scalar → Operand Scalar
  | .single value =>
    if comparator.takesList then .list [rereadScalar value] else .single (rereadScalar value)
  | .list values => .list (values.map rereadScalar)

/-- The filter that is read from the text of a filter. -/
def reread : Filter → Filter
  | .comparison field comparator operand =>
    .comparison field comparator (rereadOperand comparator operand)
  | .nested subject comparator operand =>
    .nested (reread subject) comparator (rereadOperand comparator operand)
  | .joined connective left right => .joined connective (reread left) (reread right)
  | .negation inner => .negation (reread inner)

/-- The operand is a single value where a list is taken. -/
def isUnwrapped (comparator : Comparator) : Operand Scalar → Bool
  | .single _ => comparator.takesList
  | .list _ => false

/-- Some comparison that takes a list has a single value. -/
def hasUnwrapped : Filter → Bool
  | .comparison _ comparator operand => isUnwrapped comparator operand
  | .nested subject comparator operand => hasUnwrapped subject || isUnwrapped comparator operand
  | .joined _ left right => hasUnwrapped left || hasUnwrapped right
  | .negation inner => hasUnwrapped inner

section Operands

variable {policy : Policy}

lemma ofToken_of_trim {token : List Char} {value : Scalar} (h : trim token = value.text) :
    Scalar.ofToken policy token = .ok (rereadScalar value) := by
  rw [Scalar.ofToken, h, ofTrimmed?_text]

lemma trim_blank_cons {s : List Char} (h : Trimmed s) : trim (' ' :: s) = s := by
  have htrim := trim_append_of_blanks (x := [' ']) (y := []) (by decide) (by simp [Blanks]) s
  rw [List.append_nil, trim_eq_self h] at htrim
  exact htrim

lemma ofToken_text (value : Scalar) :
    Scalar.ofToken policy value.text = .ok (rereadScalar value) :=
  ofToken_of_trim (trim_eq_self (isElementText_text value).trimmed)

/-- A list is split into the texts of its elements, all but the first after a blank. -/
lemma split_intercalate {s : List Char} {texts : List (List Char)}
    (h : ∀ t ∈ s :: texts, IsElementText t) :
    split ',' (List.intercalate elementGap (s :: texts)) = s :: texts.map (' ' :: ·) := by
  induction texts generalizing s with
  | nil =>
    have hs := h s List.mem_cons_self
    rw [List.intercalate_singleton, split, splitFrom_of_countStructural hs.comma, List.map_nil]
  | cons t texts ih =>
    have hs := h s List.mem_cons_self
    have hrest := ih fun t ht => h t (List.mem_cons_of_mem _ ht)
    have hblank : countStructural ',' .outside [' '] = 0 ∧
        QuoteState.outside.after [' '] = .outside := by decide
    have hcomma : ∀ t, splitFrom ',' .outside (elementGap ++ t) =
        [] :: splitFrom ',' .outside ([' '] ++ t) := by
      intro t
      have hnext : QuoteState.outside.next ',' = .outside := by decide
      rw [elementGap, List.cons_append, splitFrom, if_pos (by decide), hnext]
    rw [split] at hrest ⊢
    rw [List.intercalate_cons_cons, List.append_assoc, splitFrom_append_of_countStructural hs.comma,
      hs.bare.after, hcomma, splitFrom_append_of_countStructural hblank.1, hblank.2, hrest]
    simp

lemma readElements_text (whole : List Char) {elements : List (List Char)} {values : List Scalar}
    (h : elements.map trim = values.map Scalar.text) :
    readElements policy whole elements = .ok (values.map rereadScalar) := by
  induction elements generalizing values with
  | nil =>
    cases values with
    | nil => rfl
    | cons => cases h
  | cons element elements ih =>
    cases values with
    | nil => cases h
    | cons value values =>
      rw [List.map_cons, List.map_cons] at h
      obtain ⟨helement, hrest⟩ := List.cons_eq_cons.1 h
      have hne : trim element ≠ [] := by
        rw [helement]
        exact (isElementText_text value).ne_nil
      rw [readElements]
      simp only [hne, if_false, ofToken_of_trim helement, ih hrest, bind, Except.bind, pure,
        Except.pure, List.map_cons]

lemma readOperand_text {comparator : Comparator} {operand : Operand Scalar} {s : List Char}
    (h : Filter.operandText comparator operand = .ok s) :
    readOperand policy comparator s = .ok (rereadOperand comparator operand) := by
  cases operand with
  | single value =>
    cases h
    have hbracket := withoutBrackets?_of_head (isElementText_text value).bracket
    rw [readOperand, rereadOperand, hbracket, ofToken_text]
    split <;> rfl
  | list values =>
    rw [Filter.operandText] at h
    split at h
    · next htakes =>
      cases h
      rw [readOperand, if_pos htakes, withoutBrackets?_bracketed, rereadOperand]
      dsimp only
      cases values with
      | nil => rfl
      | cons value values =>
        have helements : ∀ t ∈ value.text :: values.map Scalar.text, IsElementText t := by
          intro t ht
          rw [← List.map_cons] at ht
          obtain ⟨v, -, rfl⟩ := List.mem_map.1 ht
          exact isElementText_text v
        have hinner := isValueText_intercalate (List.cons_ne_nil _ _) helements
        have hne :
            trim (List.intercalate elementGap (value.text :: values.map Scalar.text)) ≠ [] := by
          rw [trim_eq_self hinner.trimmed]
          exact hinner.ne_nil
        have htrim : (value.text :: (values.map Scalar.text).map (' ' :: ·)).map trim =
            (value :: values).map Scalar.text := by
          rw [List.map_cons, trim_eq_self (isElementText_text value).trimmed, List.map_cons,
            List.map_map, List.map_map]
          refine congrArg (value.text :: ·) (List.map_congr_left fun v _ => ?_)
          exact trim_blank_cons (isElementText_text v).trimmed
        rw [List.map_cons, ← elementGap, if_neg hne, split_intercalate helements,
          readElements_text _ htrim]
        rfl
    · cases h

end Operands

section Read

variable {policy : Policy}

lemma IsTidy.isBalanced {s : List Char} (h : IsTidy s) : isBalanced (trim s) = true := by
  rw [trim_eq_self h.trimmed, isBalanced_iff, h.closed.balanced]

lemma read?_parenthesized {s : List Char} (h : IsTidy s) :
    Grammar.read? policy (Filter.parenthesized s) = Grammar.read? policy s := by
  apply read?_group h.parenthesized.isBalanced
  rw [trim_eq_self h.parenthesized.trimmed, group?_eq_some_iff]
  exact ⟨rfl, h.closed⟩

lemma read?_negation_of_isTidy {s : List Char} (h : IsTidy s) :
    Grammar.read? policy (negationMark ++ s) = (Grammar.read? policy s).map .negation := by
  have htrim := trim_eq_self h.negation.trimmed
  apply read?_negation h.negation.isBalanced
  · rw [htrim, Option.eq_none_iff_forall_ne_some]
    intro group hgroup
    cases (group?_eq_some_iff.1 hgroup).1
  · rw [htrim, afterNegation?_eq_some_iff]

lemma read?_spaced_connective {left right : List Char} {connective : Connective}
    (hleft : IsLead left) (hright : IsTidy right) (hconnective : connective ≠ .not) :
    Grammar.read? policy (Filter.spaced left connective.word.toList right) = do
      let left ← Grammar.read? policy left
      let right ← Grammar.read? policy right
      return .joined connective left right := by
  have hgap : IsBare (' ' :: (connective.word.toList ++ [' '])) :=
    isBare_of_not_mem (by cases connective <;> decide)
  have htidy := hleft.toIsTidy.append hright hgap
  rw [← spaced_eq] at htidy
  have htrim := trim_eq_self htidy.trimmed
  have hrest : Filter.spaced left connective.word.toList right =
      left ++ ' ' :: (connective.word.toList ++ ' ' :: right) := by
    simp [Filter.spaced]
  have hsplit : Grammar.splitFrom? .outside (' ' :: (connective.word.toList ++ ' ' :: right)) =
      some ⟨connective, [], right⟩ := by
    have hstart : Grammar.connectiveAt? .outside (' ' :: (connective.word.toList ++ ' ' :: right)) =
        some (connective, ' ' :: (connective.word.toList ++ [' '])) := by
      cases connective with
      | and => rfl
      | or => rfl
      | not => exact absurd rfl hconnective
    rw [Grammar.splitFrom?, hstart]
    simp
  apply read?_joined htidy.isBalanced
  · rw [htrim, hrest, hleft.group]
  · rw [htrim, hrest, hleft.negation]
  · rw [htrim, hrest, hleft.passed, hsplit]
    simp

/-- Nothing splits a comparison. -/
lemma read?_spaced_comparator {subject value : List Char} (hsubject : IsLead subject)
    (comparator : Comparator) (hvalue : IsValueText value) :
    Grammar.read? policy (Filter.spaced subject comparator.word.toList value) =
      Grammar.readComparison? policy (Filter.spaced subject comparator.word.toList value) := by
  have hlead := hsubject.spaced comparator hvalue
  have htrim := trim_eq_self hlead.trimmed
  have hrest : Filter.spaced subject comparator.word.toList value =
      subject ++ ' ' :: (comparator.word.toList ++ ' ' :: value) := by
    simp [Filter.spaced]
  have hread := @read?_comparison policy _ hlead.isBalanced
    (by rw [htrim, hrest, hsubject.group]) (by rw [htrim, hrest, hsubject.negation])
    (by rw [htrim, splitFrom?_of_isPassed hlead.passed])
  rwa [htrim] at hread

lemma read?_field {field : String} {comparator : Comparator} {operand : Operand Scalar}
    {value : List Char} (hfield : isFieldName field = true)
    (hvalue : Filter.operandText comparator operand = .ok value) :
    Grammar.read? policy (Filter.spaced field.toList comparator.word.toList value) =
      some (.comparison field comparator (rereadOperand comparator operand)) := by
  obtain ⟨hne, hword, hkeyword⟩ := isFieldName_iff.1 hfield
  have htext := isValueText_of_operandText hvalue
  have hsubject := isLead_field hfield
  have hwritten : WrittenAs (Filter.spaced field.toList comparator.word.toList value) field.toList
      comparator value := by
    refine ⟨hne, hword, htext.ne_nil, htext.trimmed.head, [' '], [' '], by decide, by decide,
      by decide, by decide, ?_⟩
    simp [Filter.spaced]
  have hbare := (isBare_field hfield).append ((isBare_comparator comparator).append htext.bare)
  rw [← spaced_eq] at hbare
  have hplain := isPlain_iff.2 ⟨hbare.opening, countMarks_of_countStructural hbare.mark⟩
  have hoperand : Grammar.readOperand? policy comparator value =
      some (rereadOperand comparator operand) := by
    rw [← toOption_readOperand, readOperand_text hvalue]
    rfl
  rw [read?_spaced_comparator hsubject comparator htext, readComparison?_eq_some_iff]
  refine ⟨hplain, field.toList, comparator, value, _, hwritten, ?_, hoperand, ?_⟩
  · rw [String.ofList_toList, hkeyword]
  · rw [String.ofList_toList]

/-- A printed comparison of a predicate is not read. -/
lemma read?_nested {subject value : List Char} (hsubject : IsTidy subject) (comparator : Comparator)
    (hvalue : IsValueText value) :
    Grammar.read? policy
      (Filter.spaced (Filter.parenthesized subject) comparator.word.toList value) = none := by
  have hopening : countStructural '(' .outside
      (Filter.spaced (Filter.parenthesized subject) comparator.word.toList value) ≠ 0 := by
    rw [spaced_eq, parenthesized_eq, List.append_assoc, List.singleton_append, countStructural,
      if_pos (by decide)]
    omega
  rw [read?_spaced_comparator (isLead_parenthesized hsubject) comparator hvalue,
    readComparison?_eq_none hopening]

/-- What a printed filter looks like and what the grammar reads from it. -/
structure PrintsAs (policy : Policy) (p : Filter) (s : List Char) : Prop where
  tidy : IsTidy s
  lead : p.isCompound = false → IsLead s
  read : Grammar.read? policy s = if p.hasNested then none else some (reread p)

lemma PrintsAs.operand {p : Filter} {s : List Char} (h : PrintsAs policy p s) :
    IsLead (if p.isCompound then Filter.parenthesized s else s) ∧
      Grammar.read? policy (if p.isCompound then Filter.parenthesized s else s) =
        if p.hasNested then none else some (reread p) := by
  split
  · exact ⟨isLead_parenthesized h.tidy, by rw [read?_parenthesized h.tidy, h.read]⟩
  · next hcompound =>
    exact ⟨h.lead (Bool.eq_false_iff.2 hcompound), h.read⟩

/-- The text of every filter is tidy, and the grammar reads the filter back unless a predicate
stands in place of a field. -/
lemma printsAs_of_render {p : Filter} {s : List Char} (h : p.render = .ok s) :
    PrintsAs policy p s := by
  induction p generalizing s with
  | comparison field comparator operand =>
    rw [Filter.render] at h
    obtain ⟨subject, hsubject, h⟩ := bind_eq_ok_iff.1 h
    obtain ⟨value, hvalue, h⟩ := bind_eq_ok_iff.1 h
    rw [Filter.fieldText] at hsubject
    split at hsubject
    · next hfield =>
      cases hsubject
      cases h
      have hlead := (isLead_field hfield).spaced comparator (isValueText_of_operandText hvalue)
      exact ⟨hlead.toIsTidy, fun _ => hlead, read?_field hfield hvalue⟩
    · cases hsubject
  | nested subject comparator operand ih =>
    rw [Filter.render] at h
    obtain ⟨inner, hinner, h⟩ := bind_eq_ok_iff.1 h
    obtain ⟨value, hvalue, h⟩ := bind_eq_ok_iff.1 h
    cases h
    have htidy := (ih hinner).tidy
    have htext := isValueText_of_operandText hvalue
    have hlead := (isLead_parenthesized htidy).spaced comparator htext
    exact ⟨hlead.toIsTidy, fun _ => hlead, read?_nested htidy comparator htext⟩
  | joined connective left right ihl ihr =>
    rw [Filter.render] at h
    split at h
    · cases h
    · next hconnective =>
      obtain ⟨first, hfirst, h⟩ := bind_eq_ok_iff.1 h
      obtain ⟨second, hsecond, h⟩ := bind_eq_ok_iff.1 h
      cases h
      obtain ⟨hleft, hreadLeft⟩ := (ihl hfirst).operand
      obtain ⟨hright, hreadRight⟩ := (ihr hsecond).operand
      have hgap : IsBare (' ' :: (connective.word.toList ++ [' '])) :=
        isBare_of_not_mem (by cases connective <;> decide)
      refine ⟨?_, (fun hcompound => by cases hcompound), ?_⟩
      · rw [spaced_eq]
        exact hleft.toIsTidy.append hright.toIsTidy hgap
      · rw [read?_spaced_connective hleft hright.toIsTidy hconnective, hreadLeft, hreadRight,
          Filter.hasNested, reread]
        cases Filter.hasNested left <;> cases Filter.hasNested right <;> rfl
  | negation inner ih =>
    rw [Filter.render] at h
    obtain ⟨text, htext, h⟩ := bind_eq_ok_iff.1 h
    cases h
    obtain ⟨hinner, hread⟩ := (ih htext).operand
    refine ⟨hinner.toIsTidy.negation, (fun hcompound => by cases hcompound), ?_⟩
    have hnegation := @read?_negation_of_isTidy policy _ hinner.toIsTidy
    rw [hread] at hnegation
    refine hnegation.trans ?_
    rw [Filter.hasNested, reread]
    split <;> rfl

end Read

/-! ### What is read back -/

lemma map_worth_rereadOperand (comparator : Comparator) (operand : Operand Scalar) :
    (rereadOperand comparator operand).map Scalar.worth =
      (Filter.operandAsPrinted comparator operand).map Scalar.worth := by
  cases operand with
  | single value =>
    rw [rereadOperand, Filter.operandAsPrinted]
    split <;> simp [Operand.map, worth_rereadScalar]
  | list values => simp [rereadOperand, Filter.operandAsPrinted, Operand.map, worth_rereadScalar]

/-- What is read back is what canonical text stands for. -/
lemma map_worth_reread (p : Filter) :
    (reread p).map Scalar.worth = p.asPrinted.map Scalar.worth := by
  induction p with
  | comparison field comparator operand =>
    simp [reread, Filter.asPrinted, Predicate.map, map_worth_rereadOperand]
  | nested subject comparator operand ih =>
    simp [reread, Filter.asPrinted, Predicate.map, map_worth_rereadOperand, ih]
  | joined connective left right ihl ihr =>
    simp [reread, Filter.asPrinted, Predicate.map, ihl, ihr]
  | negation inner ih => simp [reread, Filter.asPrinted, Predicate.map, ih]

lemma operandText_rereadOperand {comparator : Comparator} {operand : Operand Scalar}
    (h : isUnwrapped comparator operand = false) :
    Filter.operandText comparator (rereadOperand comparator operand) =
      Filter.operandText comparator operand := by
  cases operand with
  | single value =>
    rw [isUnwrapped] at h
    simp [rereadOperand, h, Filter.operandText, text_rereadScalar]
  | list values =>
    have htexts : (values.map rereadScalar).map Scalar.text = values.map Scalar.text := by
      rw [List.map_map]
      exact List.map_congr_left fun v _ => text_rereadScalar v
    rw [rereadOperand, Filter.operandText, Filter.operandText, htexts]

lemma isCompound_reread (p : Filter) : (reread p).isCompound = p.isCompound := by
  cases p <;> rfl

/-- What is read back has the same text, if no single value was wrapped into a list. -/
lemma render_reread {p : Filter} (h : hasUnwrapped p = false) : (reread p).render = p.render := by
  induction p with
  | comparison field comparator operand =>
    rw [reread, Filter.render, Filter.render, operandText_rereadOperand h]
  | nested subject comparator operand ih =>
    rw [hasUnwrapped, Bool.or_eq_false_iff] at h
    rw [reread, Filter.render, Filter.render, ih h.1, operandText_rereadOperand h.2]
  | joined connective left right ihl ihr =>
    rw [hasUnwrapped, Bool.or_eq_false_iff] at h
    rw [reread, Filter.render, Filter.render, ihl h.1, ihr h.2, isCompound_reread,
      isCompound_reread]
  | negation inner ih =>
    rw [reread, Filter.render, Filter.render, ih h, isCompound_reread]

/-- A filter that has a text is read back from it, under either policy, exactly if no comparison has
a predicate in place of its field. Then it comes back as what its text stands for, and with the
same text if no single value had to be wrapped into a list. -/
theorem ofText_text {p : Filter} {s : String} (h : p.text = .ok s) (policy : Policy) :
    ((∃ q, Filter.ofText policy s = .ok q) ↔ p.hasNested = false) ∧
      ∀ q, Filter.ofText policy s = .ok q →
        q.isAlike p.asPrinted = true ∧ (hasUnwrapped p = false → q.text = .ok s) := by
  cases hrender : p.render with
  | error e =>
    rw [Filter.text, hrender] at h
    cases h
  | ok chars =>
    rw [Filter.text, hrender] at h
    cases h
    have hprints := @printsAs_of_render policy _ _ hrender
    have hiff : ∀ q, Filter.ofText policy (String.ofList chars) = .ok q ↔
        p.hasNested = false ∧ q = reread p := by
      intro q
      rw [ofText_eq_ok_iff_of_isClean (by rw [String.toList_ofList]; exact hprints.tidy.isClean),
        String.toList_ofList, hprints.read]
      cases p.hasNested <;> simp [eq_comm]
    refine ⟨?_, fun q hq => ?_⟩
    · simp [hiff]
    · obtain ⟨-, rfl⟩ := (hiff q).1 hq
      refine ⟨Filter.isAlike_iff.2 (map_worth_reread p), fun hwrapped => ?_⟩
      rw [Filter.text, render_reread hwrapped, hrender]
      rfl

/-- A filter with a string that looks like filter text and a decimal that comes back as an
integer. -/
def lookalike : Filter :=
  .joined .and (.comparison "A" .equal (.single (.string "x') and (B in @Sub_0")))
    (.negation (.comparison "C" .oneOf (.list [.decimal ⟨7, 0, by decide, by decide⟩, .null])))

theorem ofText_text_lookalike :
    lookalike.text = .ok "A eq 'x\\') and (B in @Sub_0' and (not C in [7, null])" ∧
      (∃ q, Filter.ofText .lenient "A eq 'x\\') and (B in @Sub_0' and (not C in [7, null])" =
        .ok q) ∧
      ∀ q, Filter.ofText .lenient "A eq 'x\\') and (B in @Sub_0' and (not C in [7, null])" =
          .ok q →
        q.isAlike lookalike.asPrinted = true ∧
          q.text = .ok "A eq 'x\\') and (B in @Sub_0' and (not C in [7, null])" := by
  have h : lookalike.text = .ok "A eq 'x\\') and (B in @Sub_0' and (not C in [7, null])" := by
    decide +kernel
  obtain ⟨hiff, hread⟩ := ofText_text h .lenient
  refine ⟨h, hiff.2 rfl, fun q hq => ?_⟩
  obtain ⟨halike, htext⟩ := hread q hq
  exact ⟨halike, htext rfl⟩

end RecordFilter.Proofs
