import Mathlib.Tactic.Common
import RecordFilter.Proofs.FilterRoundTrip
import RecordFilter.Proofs.ReadFilters
import RecordFilter.Request

/-!
# Canonical text

A filter has a text exactly if it is printable, and every filter that was read from text is. Its
text is read, under either policy, as the same filter with its dates as strings, so checking it once
more changes nothing.
-/

namespace RecordFilter.Proofs
open RecordFilter.Text RecordFilter.Parser

/-- The operand can be written after the comparator. -/
def isPrintableOperand (comparator : Comparator) : Operand Scalar → Bool
  | .single _ => true
  | .list _ => comparator.takesList

/-- Fields are names, lists stand only where lists are taken, and nothing is joined by `not`. -/
def isPrintable : Filter → Bool
  | .comparison field comparator operand =>
    isFieldName field && isPrintableOperand comparator operand
  | .nested subject comparator operand =>
    isPrintable subject && isPrintableOperand comparator operand
  | .joined connective left right => connective != .not && isPrintable left && isPrintable right
  | .negation inner => isPrintable inner

lemma exists_bind_eq_ok_iff {ε α β : Type} {x : Except ε α} {f : α → Except ε β} :
    (∃ b, (x >>= f) = .ok b) ↔ ∃ a, x = .ok a ∧ ∃ b, f a = .ok b := by
  cases x with
  | error e => simp [bind, Except.bind]
  | ok a => simp [bind, Except.bind]

lemma exists_fieldText_iff {field : String} :
    (∃ s, Filter.fieldText field = .ok s) ↔ isFieldName field = true := by
  rw [Filter.fieldText]
  split <;> simp [*]

lemma exists_operandText_iff {comparator : Comparator} {operand : Operand Scalar} :
    (∃ s, Filter.operandText comparator operand = .ok s) ↔
      isPrintableOperand comparator operand = true := by
  cases operand with
  | single value => simp [Filter.operandText, isPrintableOperand]
  | list values =>
    rw [Filter.operandText, isPrintableOperand]
    split <;> simp [*]

/-- A filter has a text exactly if nothing in it stands in the way. -/
theorem exists_render_iff {p : Filter} : (∃ s, p.render = .ok s) ↔ isPrintable p = true := by
  induction p with
  | comparison field comparator operand =>
    simp only [Filter.render, isPrintable, exists_bind_eq_ok_iff, Bool.and_eq_true,
      ← exists_fieldText_iff, ← exists_operandText_iff]
    simp [pure, Except.pure]
  | nested subject comparator operand ih =>
    simp only [Filter.render, isPrintable, exists_bind_eq_ok_iff, Bool.and_eq_true, ← ih,
      ← exists_operandText_iff]
    simp [pure, Except.pure]
  | joined connective left right ihl ihr =>
    rw [Filter.render, isPrintable]
    split
    · next h => simp [h, throw, throwThe, MonadExceptOf.throw]
    · next h =>
      simp only [exists_bind_eq_ok_iff, Bool.and_eq_true, ← ihl, ← ihr]
      simp [h, pure, Except.pure]
  | negation inner ih =>
    simp only [Filter.render, isPrintable, exists_bind_eq_ok_iff, ← ih]
    simp [pure, Except.pure]

/-- What a text of a filter is read as. -/
lemma ofText_of_render {p : Filter} {s : List Char} (h : p.render = .ok s)
    (hnested : p.hasNested = false) (policy : Policy) :
    Filter.ofText policy (String.ofList s) = .ok (reread p) := by
  have hprints := @printsAs_of_render policy p s h
  rw [ofText_eq_ok_iff_of_isClean (by rw [String.toList_ofList]; exact hprints.tidy.isClean),
    String.toList_ofList, hprints.read, hnested]
  rfl

/-! ### Checking -/

namespace IsReadOperand

variable {comparator : Comparator} {operand : Operand Scalar}

lemma isPrintableOperand (h : IsReadOperand comparator operand) :
    isPrintableOperand comparator operand = true := by
  cases operand with
  | single value => rfl
  | list values => exact h.list_iff.1 ⟨values, rfl⟩

lemma isUnwrapped (h : IsReadOperand comparator operand) :
    isUnwrapped comparator operand = false := by
  cases operand with
  | single value =>
    rw [Proofs.isUnwrapped, ← Bool.not_eq_true, ← h.list_iff]
    simp
  | list values => rfl

lemma rereadOperand (h : IsReadOperand comparator operand) :
    rereadOperand comparator operand = operand.map Scalar.asPrinted := by
  cases operand with
  | single value =>
    have hlist : comparator.takesList = false := h.isUnwrapped
    rw [Proofs.rereadOperand, hlist, h.reread value List.mem_cons_self]
    rfl
  | list values => exact congrArg Operand.list (List.map_congr_left h.reread)

end IsReadOperand

namespace IsReadFilter

variable {p : Filter}

lemma isPrintable (h : IsReadFilter p) : isPrintable p = true := by
  induction h with
  | comparison hfield hoperand => simp [Proofs.isPrintable, hfield, hoperand.isPrintableOperand]
  | joined hconnective _ _ ihl ihr => simp [Proofs.isPrintable, hconnective, ihl, ihr]
  | negation _ ih => exact ih

lemma hasNested (h : IsReadFilter p) : p.hasNested = false := by
  induction h with
  | comparison => rfl
  | joined _ _ _ ihl ihr => rw [Filter.hasNested, ihl, ihr, Bool.or_false]
  | negation _ ih => exact ih

lemma hasUnwrapped (h : IsReadFilter p) : hasUnwrapped p = false := by
  induction h with
  | comparison _ hoperand => exact hoperand.isUnwrapped
  | joined _ _ _ ihl ihr => rw [Proofs.hasUnwrapped, ihl, ihr, Bool.or_false]
  | negation _ ih => exact ih

lemma reread (h : IsReadFilter p) : reread p = p.map Scalar.asPrinted := by
  induction h with
  | comparison _ hoperand => rw [Proofs.reread, hoperand.rereadOperand, Predicate.map]
  | joined _ _ _ ihl ihr => rw [Proofs.reread, ihl, ihr, Predicate.map]
  | negation _ ih => rw [Proofs.reread, ih, Predicate.map]

end IsReadFilter

lemma checkFilter_of_text {policy : Policy} {s c : String} {p : Filter}
    (h : Filter.ofText policy s = .ok p) (htext : p.text = .ok c) (readOnly : Bool) :
    checkFilter policy readOnly s = .ok (if readOnly then .valid else .canonical c) := by
  cases readOnly with
  | true =>
    rw [checkFilter, h]
    rfl
  | false =>
    have hcheck : checkFilter policy false s =
        (RequestFailure.ofFilter p.text).map CheckResult.canonical := by
      rw [checkFilter, h]
      rfl
    rw [hcheck, htext]
    rfl

/-- Checking a filter that can be read never fails, since the filter has a text. Under either
policy that text is read as the same filter, with dates as the strings of their instants, and
checking it gives it back. -/
theorem checkFilter_canonical {policy : Policy} {s : String} {p : Filter}
    (h : Filter.ofText policy s = .ok p) :
    ∃ c, p.text = .ok c ∧
      (∀ readOnly, checkFilter policy readOnly s =
        .ok (if readOnly then .valid else .canonical c)) ∧
      ∀ policy', Filter.ofText policy' c = .ok (p.map Scalar.asPrinted) ∧
        checkFilter policy' false c = .ok (.canonical c) := by
  have hread := isReadFilter_of_ofText h
  obtain ⟨chars, hrender⟩ := exists_render_iff.2 hread.isPrintable
  have htext : p.text = .ok (String.ofList chars) := by rw [Filter.text, hrender]; rfl
  refine ⟨String.ofList chars, htext, checkFilter_of_text h htext, fun policy' => ?_⟩
  have hagain := ofText_of_render hrender hread.hasNested policy'
  have htext' : (reread p).text = .ok (String.ofList chars) := by
    rw [Filter.text, render_reread hread.hasUnwrapped, hrender]
    rfl
  exact ⟨hread.reread ▸ hagain, checkFilter_of_text hagain htext' false⟩

/-- A date, a list that was written as a single value, and a bare word with a quote in it. -/
def dateListAndWord : Filter :=
  .joined .and
    (.joined .or
      (.comparison "D" .greaterOrEqual (.single (.date ⟨2020, 1, 2, by decide, by decide⟩)))
      (.comparison "A" .oneOf (.list [.integer 7])))
    (.comparison "Name" .equal (.single (.string "it's")))

theorem checkFilter_canonical_dateListAndWord :
    Filter.ofText .lenient "(D ge 2020-01-02 or A in 7) and Name eq it's" = .ok dateListAndWord ∧
      ∃ c, dateListAndWord.text = .ok c ∧
        checkFilter .lenient false "(D ge 2020-01-02 or A in 7) and Name eq it's" =
          .ok (.canonical c) ∧
        Filter.ofText .strict c = .ok (dateListAndWord.map Scalar.asPrinted) ∧
        checkFilter .strict false c = .ok (.canonical c) := by
  have h : Filter.ofText .lenient "(D ge 2020-01-02 or A in 7) and Name eq it's" =
      .ok dateListAndWord := by
    decide +kernel
  obtain ⟨c, htext, hcheck, hagain⟩ := checkFilter_canonical h
  exact ⟨h, c, htext, hcheck false, hagain .strict⟩

end RecordFilter.Proofs
