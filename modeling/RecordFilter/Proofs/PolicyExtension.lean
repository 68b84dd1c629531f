import Mathlib.Tactic.Common
import RecordFilter.Proofs.FlatForms
import RecordFilter.Proofs.FragmentPieces

/-!
# The lenient policy extends the strict one

Both policies read a text in the same steps, and only a token without a scalar form tells them
apart: the strict reading ends there and refuses the value. Whatever the strict reading gives
before it meets such a token, a filter or a failure of another kind, the lenient one gives too.
-/

namespace RecordFilter.Proofs
open RecordFilter.Text RecordFilter.Parser RecordFilter.Number

/-- The second outcome is the first one, unless the first refuses a value. -/
inductive Extends {α : Type} : Except Failure α → Except Failure α → Prop
  | same (x : Except Failure α) : Extends x x
  | refused (token : String) (y : Except Failure α) : Extends (.error (.invalidValue token)) y

namespace Extends

variable {α β : Type} {x y : Except Failure α}

/-- A reading that goes on from a common value goes on from a refused one too, since the strict
side is over. -/
lemma bind {f g : α → Except Failure β} (h : Extends x y) (hfg : ∀ a, Extends (f a) (g a)) :
    Extends (x >>= f) (y >>= g) := by
  cases h with
  | refused token => exact .refused token _
  | same =>
    cases x with
    | error e => exact .same _
    | ok a => exact hfg a

lemma map (h : Extends x y) (f : α → β) : Extends (x.map f) (y.map f) := by
  cases h with
  | refused token => exact .refused token _
  | same => exact .same _

lemma eq_of_ok {a : α} (h : Extends (.ok a) y) : y = .ok a := by
  cases h
  rfl

lemma eq_of_error {e : Failure} (h : Extends (.error e) y) (he : e.kind ≠ .invalidValue) :
    y = .error e := by
  cases h with
  | refused token => exact absurd rfl he
  | same => rfl

end Extends

/-- A token with a scalar form is read alike under both policies. -/
lemma ofTrimmed?_lenient {token : List Char} {value : Scalar}
    (h : Scalar.ofTrimmed? .strict token = some value) :
    Scalar.ofTrimmed? .lenient token = some value := by
  unfold Scalar.ofTrimmed? at h ⊢
  by_cases hnull : token = [] ∨ token = "null".toList
  · rwa [if_pos hnull] at h ⊢
  rw [if_neg hnull] at h ⊢
  by_cases hquote : token.head? = some '\''
  · rwa [if_pos hquote] at h ⊢
  rw [if_neg hquote] at h ⊢
  cases hnumeral : Numeral.ofPlain? token with
  | some x => rwa [hnumeral] at h
  | none =>
    rw [hnumeral] at h
    dsimp only at h ⊢
    by_cases htrue : token = "true".toList
    · rwa [if_pos htrue] at h ⊢
    rw [if_neg htrue] at h ⊢
    by_cases hfalse : token = "false".toList
    · rwa [if_pos hfalse] at h ⊢
    rw [if_neg hfalse] at h ⊢
    cases hdate : Scalar.dateParts? token with
    | some parts => rwa [hdate] at h
    | none =>
      rw [hdate] at h
      cases h

lemma ofToken_extends (token : List Char) :
    Extends (Scalar.ofToken .strict token) (Scalar.ofToken .lenient token) := by
  unfold Scalar.ofToken
  cases hstrict : Scalar.ofTrimmed? .strict (trim token) with
  | none => exact .refused _ _
  | some value =>
    rw [ofTrimmed?_lenient hstrict]
    exact .same _

lemma readElements_extends (whole : List Char) (elements : List (List Char)) :
    Extends (readElements .strict whole elements) (readElements .lenient whole elements) := by
  induction elements with
  | nil => exact .same _
  | cons element elements ih =>
    rw [readElements, readElements]
    by_cases hblank : trim element = []
    · rw [if_pos hblank, if_pos hblank]
      exact .same _
    · rw [if_neg hblank, if_neg hblank]
      apply (ofToken_extends element).bind
      intro value
      apply ih.bind
      intro values
      exact .same _

lemma readOperand_extends (comparator : Comparator) (token : List Char) :
    Extends (readOperand .strict comparator token) (readOperand .lenient comparator token) := by
  unfold readOperand
  by_cases hlist : comparator.takesList = true
  · rw [if_pos hlist, if_pos hlist]
    cases withoutBrackets? token with
    | none => exact (ofToken_extends token).map _
    | some inner =>
      by_cases hblank : trim inner = []
      · simp only [if_pos hblank]
        exact .same _
      · simp only [if_neg hblank]
        exact (readElements_extends token _).map _
  · rw [if_neg hlist, if_neg hlist]
    exact (ofToken_extends token).map _

/-- The policy only counts once the operand is read, so what is not written as a comparison is
unreadable under both. -/
lemma readComparison_extends (slots : Slots) (s : List Char) :
    Extends (readComparison .strict slots s) (readComparison .lenient slots s) := by
  unfold readComparison
  cases WrittenComparison.ofText? s with
  | none => exact .same _
  | some written =>
    obtain ⟨field, comparator, token⟩ := written
    dsimp only
    by_cases hkeyword : isKeyword (String.ofList field) = true
    · rw [if_pos hkeyword, if_pos hkeyword]
      exact .same _
    rw [if_neg hkeyword, if_neg hkeyword]
    by_cases hmark : (cut? [placeholderMark] token).isSome = true
    · rw [if_pos hmark, if_pos hmark]
      exact .same _
    rw [if_neg hmark, if_neg hmark]
    apply (readOperand_extends comparator token).bind
    intro operand
    exact .same _

/-! ### Fragments -/

/-- Both readings of a flat text take the same slots in the same order. -/
lemma readFlat_extends (s : List Char) (slots : Slots) :
    Extends (readFlat .strict s slots) (readFlat .lenient s slots) := by
  induction s, slots using readFlat.induct with
  | case1 s slots _ number hnumber =>
    rw [readFlat_placeholder hnumber, readFlat_placeholder hnumber]
    exact .same _
  | case2 s slots _ number hnumber =>
    rw [readFlat_placeholder hnumber, readFlat_placeholder hnumber]
    exact .same _
  | case3 s slots _ hnumber rest hrest ih =>
    rw [readFlat_negation hnumber hrest, readFlat_negation hnumber hrest]
    apply ih.bind
    intro read
    exact .same _
  | case4 s slots _ hnumber hnot connective left right hsplit ihl ihr =>
    rw [readFlat_joined hnumber hnot hsplit, readFlat_joined hnumber hnot hsplit]
    apply ihl.bind
    rintro ⟨p, slots₁⟩
    apply (ihr slots₁).bind
    intro read
    exact .same _
  | case5 s slots _ hnumber hnot hsplit =>
    rw [readFlat_comparison hnumber hnot hsplit, readFlat_comparison hnumber hnot hsplit]
    apply (readComparison_extends slots (trim s)).bind
    intro comparison
    exact .same _

/-- Both readings of a fragment bind the same groups in the same order. A group that the strict
reading cannot finish ends it, and the first token that was refused is what it reports. -/
theorem readFragment_extends (s : List Char) (slots : Slots) :
    Extends (readFragment .strict s slots) (readFragment .lenient s slots) := by
  induction s, slots using readFragment.induct _ (fun whole q s slots =>
    Extends (resolveFrom .strict whole q s slots) (resolveFrom .lenient whole q s slots)) with
  | case1 fragment slots ih =>
    rw [readFragment, readFragment]
    apply ih.bind
    rintro ⟨flat, slots₁⟩
    exact readFlat_extends flat slots₁
  | case2 whole q slots =>
    rw [resolveFrom, resolveFrom]
    exact .same _
  | case3 whole q slots c s hopen hnone =>
    obtain ⟨hq, rfl⟩ := hopen
    obtain ⟨rfl, -⟩ := QuoteState.isStructural_iff.1 hq
    rw [resolveFrom_unclosed hnone, resolveFrom_unclosed hnone]
    exact .same _
  | case4 whole q slots c s hopen group rest htake ihgroup ihrest =>
    obtain ⟨hq, rfl⟩ := hopen
    obtain ⟨rfl, -⟩ := QuoteState.isStructural_iff.1 hq
    obtain ⟨hgroup, rfl⟩ := isClosed_of_takeGroup? htake
    rw [resolveFrom_group hgroup, resolveFrom_group hgroup]
    apply ihgroup.bind
    rintro ⟨content, slots₁⟩
    apply (ihrest content slots₁).bind
    intro resolved
    exact .same _
  | case5 whole q slots c s hopen hclose =>
    obtain ⟨hq, rfl⟩ := hclose
    obtain ⟨rfl, -⟩ := QuoteState.isStructural_iff.1 hq
    rw [resolveFrom_closing, resolveFrom_closing]
    exact .same _
  | case6 whole q slots c s hopen hclose ih =>
    rw [resolveFrom_char hopen hclose, resolveFrom_char hopen hclose]
    apply ih.bind
    intro resolved
    exact .same _

lemma ofText_extends (s : String) :
    Extends (Filter.ofText .strict s) (Filter.ofText .lenient s) := by
  unfold Filter.ofText readWithSlots
  by_cases hblank : trim s.toList = []
  · rw [if_pos hblank, if_pos hblank]
    exact .same _
  · rw [if_neg hblank, if_neg hblank]
    exact (readFragment_extends s.toList []).map _

/-- The lenient policy extends the strict one conservatively. What is read strictly is read
leniently to the same filter, and a text that the strict reading refuses for any other reason than a
value is refused leniently with the very same failure. -/
theorem ofText_lenient (s : String) :
    (∀ p, Filter.ofText .strict s = .ok p → Filter.ofText .lenient s = .ok p) ∧
      ∀ failure, Filter.ofText .strict s = .error failure → failure.kind ≠ .invalidValue →
        Filter.ofText .lenient s = .error failure := by
  have hextends := ofText_extends s
  constructor
  · intro p hp
    rw [hp] at hextends
    exact hextends.eq_of_ok
  · intro failure hfailure hkind
    rw [hfailure] at hextends
    exact hextends.eq_of_error hkind

/-- A filter with a date and a list, and a text with a bare word whose last group is not closed: the
parentheses are reported before the word is looked at. -/
theorem ofText_lenient_unclosedGroup :
    (Filter.ofText .strict "Since ge 2021-03-04 or not (Name in ['a', 1.50])" =
        .ok (.joined .or
          (.comparison "Since" .greaterOrEqual (.single (.date ⟨2021, 3, 4, by decide, by decide⟩)))
          (.negation (.comparison "Name" .oneOf
            (.list [.string "a", .decimal ⟨150, 2, by decide, by decide⟩])))) ∧
      Filter.ofText .lenient "Since ge 2021-03-04 or not (Name in ['a', 1.50])" =
        Filter.ofText .strict "Since ge 2021-03-04 or not (Name in ['a', 1.50])") ∧
    (Filter.ofText .strict "Name eq Jacob and (Age eq 30" =
        .error (.unmatchedParentheses "Name eq Jacob and (Age eq 30") ∧
      Filter.ofText .lenient "Name eq Jacob and (Age eq 30" =
        .error (.unmatchedParentheses "Name eq Jacob and (Age eq 30")) := by
  have hread : Filter.ofText .strict "Since ge 2021-03-04 or not (Name in ['a', 1.50])" =
      .ok (.joined .or
        (.comparison "Since" .greaterOrEqual (.single (.date ⟨2021, 3, 4, by decide, by decide⟩)))
        (.negation (.comparison "Name" .oneOf
          (.list [.string "a", .decimal ⟨150, 2, by decide, by decide⟩])))) := by
    decide +kernel
  have hrefused : Filter.ofText .strict "Name eq Jacob and (Age eq 30" =
      .error (.unmatchedParentheses "Name eq Jacob and (Age eq 30") := by
    decide +kernel
  exact ⟨⟨hread, ((ofText_lenient _).1 _ hread).trans hread.symm⟩, hrefused,
    (ofText_lenient _).2 _ hrefused (by decide)⟩

end RecordFilter.Proofs
