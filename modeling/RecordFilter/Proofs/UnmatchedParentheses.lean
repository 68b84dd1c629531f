import Mathlib.Logic.Relation
import RecordFilter.Proofs.FragmentRecursion
import RecordFilter.Proofs.QuotedFailures
import RecordFilter.Proofs.ReadFilters

/-!
# Unmatched parentheses

Parentheses are matched fragment by fragment. A group is cut out where the text is read outside and
its own parentheses match, and what is left once the groups are gone has no parenthesis to match. So
the fragments of a balanced text are balanced, at every depth, and the report of unmatched
parentheses is kept for the texts that are not (`ofText_unmatched`).
-/

namespace RecordFilter.Proofs
open RecordFilter.Text RecordFilter.Parser

lemma isBalanced_of_countParentheses {s : List Char} (h : countParentheses .outside s = 0) :
    isBalanced s = true := by
  rw [countParentheses, Nat.add_eq_zero_iff] at h
  rw [isBalanced_iff, openAfter?_of_countStructural h.1 h.2]

lemma IsClosed.isBalanced {s : List Char} (h : IsClosed s) : isBalanced s = true :=
  isBalanced_iff.2 h.balanced

@[simp] lemma isBalanced_trim (s : List Char) : isBalanced (trim s) = isBalanced s := by
  have hblanks : ∀ {x : List Char}, Blanks x → ∀ q depth, openAfter? q depth x = some depth :=
    fun hx _ => openAfter?_of_countStructural
      (countStructural_of_not_mem (not_mem_of_blanks hx (by decide)) _)
      (countStructural_of_not_mem (not_mem_of_blanks hx (by decide)) _)
  obtain ⟨x, y, hx, hy, hs⟩ := exists_eq_append_trim s
  have hopen : openAfter? .outside 0 s = openAfter? .outside 0 (trim s) := by
    conv_lhs => rw [hs]
    rw [openAfter?_append, openAfter?_append, hblanks hx, Option.bind_some, after_of_blanks hx]
    simp only [hblanks hy, Option.bind_fun_some]
  rw [isBalanced, isBalanced, hopen]

/-- Whatever a step of reading asks for is balanced. -/
lemma Consults.isBalanced {read : Reader} {fragment part : List Char}
    (h : Consults read fragment part) : isBalanced part = true := by
  cases h with
  | group h => exact h.1.isBalanced
  | part hflat hpart =>
    have hle := hpart.countParentheses_le
    rw [countParentheses_trim, countParentheses_of_resolveGroups hflat] at hle
    exact isBalanced_of_countParentheses (Nat.le_zero.1 hle)

section Fails

variable {policy : Policy} {s : List Char} {slots : Slots} {failure : Failure}

/-- A fragment that is read comes in pieces, so it is balanced. -/
lemma isBalanced_of_readFragment {result : Filter × Slots}
    (h : readFragment policy s slots = .ok result) : isBalanced s = true := by
  rw [readFragment] at h
  obtain ⟨⟨flat, slots'⟩, hresolve, -⟩ := bind_eq_ok_iff.1 h
  obtain ⟨ps, hps, hsource, -⟩ := resolveFrom_eq_ok_iff.1 hresolve
  rw [← isBalanced_trim, isBalanced_iff, ← hsource, hps.openAfter?_sourceText]

/-! ### Failures of balanced fragments -/

lemma kind_ne_of_readComparison (h : readComparison policy slots s = .error failure) :
    failure.kind ≠ .unmatchedParentheses := by
  rcases readComparison_eq_error h with rfl | ⟨-, _, _, _, -, hoperand⟩
  · simp [Failure.kind]
  · obtain ⟨part, -, rfl⟩ := infix_of_readOperand hoperand
    simp [Failure.kind]

/-- A text that is read by its words has no parentheses to report. -/
lemma kind_ne_of_flatForm {ps : List Piece} (hps : FlatForm ps)
    (h : readFlat policy (flatText ps) slots = .error failure) :
    failure.kind ≠ .unmatchedParentheses := by
  induction hps generalizing slots with
  | @placeholder ps ts number _ _ hread =>
    rw [hread] at h
    cases htake : slots.take? number with
    | some taken =>
      rw [htake] at h
      cases h
    | none =>
      rw [htake] at h
      cases h
      simp [Failure.kind]
  | negation _ hread _ _ ih =>
    rw [hread] at h
    rcases bind_eq_error_iff.1 h with h | ⟨_, -, h⟩
    · exact ih h
    · cases h
  | joined _ _ hread _ _ ihLeft ihRight =>
    rw [hread] at h
    rcases bind_eq_error_iff.1 h with h | ⟨_, -, h⟩
    · exact ihLeft h
    · rcases bind_eq_error_iff.1 h with h | ⟨_, -, h⟩
      · exact ihRight h
      · cases h
  | comparison _ hread =>
    rw [hread] at h
    rcases bind_eq_error_iff.1 h with h | ⟨_, -, h⟩
    · exact kind_ne_of_readComparison h
    · cases h

/-- If the parentheses match, replacing the groups fails only where one of them cannot be read. -/
lemma exists_group_of_resolveFrom {whole : List Char} {q : QuoteState}
    (hs : openAfter? q 0 s = some 0) (h : resolveFrom policy whole q s slots = .error failure) :
    ∃ source slots', HasGroup q s source ∧ readFragment policy source slots' = .error failure := by
  induction scanCase q s generalizing slots with
  | nil q =>
    rw [resolveFrom] at h
    cases h
  | char hopen hclose _ ih =>
    rw [openAfter?, if_neg hopen, if_neg hclose] at hs
    rw [resolveFrom_char hopen hclose] at h
    rcases bind_eq_error_iff.1 h with h | ⟨_, -, h⟩
    · obtain ⟨source, slots', hgroup, hread⟩ := ih hs h
      exact ⟨source, slots', hgroup.char hopen hclose, hread⟩
    · cases h
  | closing s =>
    rw [openAfter?, if_neg (by decide), if_pos (by decide), if_pos rfl] at hs
    cases hs
  | @unclosed s htake =>
    rw [openAfter?, if_pos (by decide), next_opening] at hs
    obtain ⟨source, rest, htaken, -⟩ := exists_takeGroup?_of_openAfter? hs
    rw [htake] at htaken
    cases htaken
  | @group source rest hsource _ ih =>
    rw [openAfter?_group hsource] at hs
    rw [resolveFrom_group hsource] at h
    rcases bind_eq_error_iff.1 h with h | ⟨_, -, h⟩
    · exact ⟨source, slots, .here hsource rest, h⟩
    · rcases bind_eq_error_iff.1 h with h | ⟨_, -, h⟩
      · obtain ⟨source', slots', hgroup, hread⟩ := ih hs h
        exact ⟨source', slots', hgroup.behind hsource, hread⟩
      · cases h

/-- A balanced fragment is not reported for its parentheses, nor is any group in it. -/
lemma kind_ne_of_readFragment (hs : isBalanced s = true)
    (h : readFragment policy s slots = .error failure) :
    failure.kind ≠ .unmatchedParentheses := by
  induction hlen : s.length using Nat.strongRecOn generalizing s slots with
  | ind n ih =>
    rw [readFragment] at h
    rcases bind_eq_error_iff.1 h with hresolve | ⟨⟨flat, slots'⟩, hresolve, hflat⟩
    · rw [← isBalanced_trim, isBalanced_iff] at hs
      obtain ⟨source, slots', hgroup, hread⟩ := exists_group_of_resolveFrom hs hresolve
      have hlt := hgroup.length_lt
      have htrim := length_trim_le s
      exact ih _ (by omega) hgroup.1.isBalanced hread rfl
    · obtain ⟨ps, hps, -, rfl, -⟩ := resolveFrom_eq_ok_iff.1 hresolve
      exact kind_ne_of_flatForm (flatForm_of_wellScanned hps) hflat

lemma isBalanced_of_ofText {s : String} {p : Filter} (h : Filter.ofText policy s = .ok p) :
    isBalanced s.toList = true := by
  obtain ⟨result, h, -⟩ := map_eq_ok_iff.1 h
  rw [readWithSlots] at h
  split at h
  · cases h
  · exact isBalanced_of_readFragment h

lemma kind_ne_of_ofText {s : String} (hs : isBalanced s.toList = true)
    (h : Filter.ofText policy s = .error failure) : failure.kind ≠ .unmatchedParentheses := by
  rw [Filter.ofText, readWithSlots] at h
  split at h
  · cases h
    simp [Failure.kind]
  · cases hread : readFragment policy s.toList [] with
    | error failure' =>
      rw [hread] at h
      cases h
      exact kind_ne_of_readFragment hs hread
    | ok result =>
      rw [hread] at h
      cases h

end Fails

/-- Parentheses that do not match are reported of unbalanced texts alone, and no such text is read:
whether a text is balanced shows from one scan of it, and every fragment that the reading of a
balanced text comes to, at any depth, is balanced and fails for other reasons only. -/
theorem ofText_unmatched (policy : Policy) (s : String) :
    (isBalanced s.toList = false → ∃ failure, Filter.ofText policy s = .error failure) ∧
    (isBalanced s.toList = true →
      (∀ failure, Filter.ofText policy s = .error failure →
        failure.kind ≠ .unmatchedParentheses) ∧
      ∀ part, Relation.ReflTransGen (Consults (readFragment policy)) s.toList part →
        isBalanced part = true ∧ ∀ slots failure,
          readFragment policy part slots = .error failure →
            failure.kind ≠ .unmatchedParentheses) := by
  refine ⟨fun hunbalanced => ?_, fun hbalanced => ⟨fun failure h => ?_, fun part hpart => ?_⟩⟩
  · cases hread : Filter.ofText policy s with
    | error failure => exact ⟨failure, rfl⟩
    | ok p =>
      rw [isBalanced_of_ofText hread] at hunbalanced
      cases hunbalanced
  · exact kind_ne_of_ofText hbalanced h
  · have hpart' : isBalanced part = true := by
      cases hpart with
      | refl => exact hbalanced
      | tail _ hlast => exact hlast.isBalanced
    exact ⟨hpart', fun slots failure => kind_ne_of_readFragment hpart'⟩

/-- A parenthesis in a literal has no part in it: the first text is balanced, and so is the group that
is read in it, though its second group is no filter; the other text lacks a parenthesis. -/
theorem ofText_unmatched_quotedParenthesis :
    isBalanced "(A eq ')') and (B)".toList = true ∧
      Filter.ofText .strict "(A eq ')') and (B)" = .error (.unreadable "B") ∧
      isBalanced "A eq ')'".toList = true ∧
      isBalanced "(A eq ')'".toList = false ∧
      ∃ failure, Filter.ofText .strict "(A eq ')'" = .error failure := by
  have hbalanced : isBalanced "(A eq ')') and (B)".toList = true := by decide
  have hunbalanced : isBalanced "(A eq ')'".toList = false := by decide
  have hread : Filter.ofText .strict "(A eq ')') and (B)" = .error (.unreadable "B") := by
    decide +kernel
  have hgroup : Consults (readFragment .strict) "(A eq ')') and (B)".toList "A eq ')'".toList :=
    .group ⟨⟨by decide, by decide⟩, [], " and (B)".toList, by decide, rfl, rfl⟩
  have hinner := ((ofText_unmatched .strict _).2 hbalanced).2 _ (.single hgroup)
  exact ⟨hbalanced, hread, hinner.1, hunbalanced, (ofText_unmatched .strict _).1 hunbalanced⟩

end RecordFilter.Proofs
