import Mathlib.Tactic.Common
import RecordFilter.Proofs.FlatForms
import RecordFilter.Proofs.FragmentPieces

/-!
# Parentheses and their neighbours

What may stand next to a parenthesis outside literals: before an opening one nothing, a blank or
another opening one, and after a closing one nothing, a blank or another closing one. Texts in which
all parentheses stand so are put together from others with blanks between them, and by putting
parentheses around them. Zeros after the parenthesis that closes the first group are let through.
-/

namespace RecordFilter.Proofs
open RecordFilter.Text

/-- The text may come before an opening parenthesis. -/
def IsBeforeOpening (x : List Char) : Prop :=
  ∀ c ∈ x.getLast?, isBlank c = true ∨ c = '('

/-- The text may come after a closing parenthesis; zeros in front of it are allowed to the
`first`. -/
def IsAfterClosing (first : Prop) (y : List Char) : Prop :=
  ∃ zeros rest, y = zeros ++ rest ∧ (∀ c ∈ zeros, c = '0') ∧ (zeros ≠ [] → first) ∧
    ∀ c ∈ rest.head?, isBlank c = true ∨ c = ')'

lemma IsBeforeOpening.append_cons {x : List Char} (h : IsBeforeOpening x) {b : Char}
    (hb : isBlank b = true ∨ b = '(') (s : List Char) : IsBeforeOpening (s ++ b :: x) := by
  intro c hc
  rw [List.getLast?_append, List.getLast?_cons, Option.some_or, Option.mem_some_iff] at hc
  cases hlast : x.getLast? with
  | none =>
    rw [hlast] at hc
    exact hc ▸ hb
  | some d =>
    rw [hlast] at hc
    exact h c (hc ▸ hlast)

lemma IsAfterClosing.append_cons {first : Prop} {y : List Char} (h : IsAfterClosing first y)
    {b : Char} (hb : isBlank b = true ∨ b = ')') (t : List Char) :
    IsAfterClosing first (y ++ b :: t) := by
  obtain ⟨zeros, rest, rfl, hzeros, hfirst, hrest⟩ := h
  refine ⟨zeros, rest ++ b :: t, List.append_assoc _ _ _, hzeros, hfirst, ?_⟩
  intro c hc
  cases rest with
  | nil =>
    cases hc
    exact hb
  | cons d rest => exact hrest c hc

/-- An element of a list in two parts is in the first, between them, or in the second. -/
lemma append_cons_eq_append_cons {α : Type} {s t x y : List α} {b c : α}
    (h : s ++ b :: t = x ++ c :: y) :
    (∃ w, s = x ++ c :: w ∧ y = w ++ b :: t) ∨ (x = s ∧ b = c ∧ y = t) ∨
      ∃ w, x = s ++ b :: w ∧ t = w ++ c :: y := by
  rcases List.append_eq_append_iff.1 h with ⟨w, rfl, hw⟩ | ⟨w, rfl, hw⟩
  · cases w with
    | nil =>
      cases hw
      exact .inr (.inl ⟨List.append_nil s, rfl, rfl⟩)
    | cons d w =>
      cases hw
      exact .inr (.inr ⟨w, rfl, rfl⟩)
  · cases w with
    | nil =>
      cases hw
      exact .inr (.inl ⟨(List.append_nil x).symm, rfl, rfl⟩)
    | cons d w =>
      cases hw
      exact .inl ⟨w, rfl, rfl⟩

lemma ne_parenthesis_of_isBlank {b : Char} (h : isBlank b = true) : b ≠ '(' ∧ b ≠ ')' := by
  constructor <;> rintro rfl <;> exact absurd h (by decide)

/-! ### Texts with well surrounded parentheses -/

/-- The parentheses outside literals of a text that is read from state `q` after `n` groups were
closed stand next to what may stand there. -/
structure WellSurrounded (n : Nat) (q : QuoteState) (s : List Char) : Prop where
  opening : ∀ x y, s = x ++ '(' :: y → q.after x = .outside → IsBeforeOpening x
  closing : ∀ x y, s = x ++ ')' :: y → q.after x = .outside →
    IsAfterClosing (n + countStructural ')' q x = 0) y

namespace WellSurrounded

variable {n : Nat} {q : QuoteState} {s t : List Char}

/-- Texts that are well surrounded may be put together with a blank between them. -/
lemma append (hs : WellSurrounded n q s) {b : Char} (hb : isBlank b = true)
    (ht : WellSurrounded (n + countStructural ')' q s) ((q.after s).next b) t) :
    WellSurrounded n q (s ++ b :: t) := by
  obtain ⟨hopen, hclose⟩ := ne_parenthesis_of_isBlank hb
  constructor
  · intro x y heq hx
    rcases append_cons_eq_append_cons heq with ⟨w, rfl, -⟩ | ⟨-, rfl, -⟩ | ⟨w, rfl, rfl⟩
    · exact hs.opening x w rfl hx
    · exact absurd rfl hopen
    · rw [QuoteState.after_append, QuoteState.after_cons] at hx
      exact (ht.opening w y rfl hx).append_cons (.inl hb) s
  · intro x y heq hx
    rcases append_cons_eq_append_cons heq with ⟨w, rfl, rfl⟩ | ⟨-, rfl, -⟩ | ⟨w, rfl, rfl⟩
    · exact (hs.closing x w rfl hx).append_cons (.inl hb) t
    · exact absurd rfl hclose
    · rw [QuoteState.after_append, QuoteState.after_cons] at hx
      rw [countStructural_append, countStructural, if_neg (fun h => hclose h.2), Nat.zero_add,
        ← Nat.add_assoc]
      exact ht.closing w y rfl hx

/-- A group is well surrounded if its content is. Zeros may follow if it is the first that is
closed. -/
lemma group (hs : WellSurrounded n .outside s) {zeros : List Char}
    (hzeros : ∀ c ∈ zeros, c = '0')
    (hfirst : zeros ≠ [] → n + countStructural ')' .outside s = 0) :
    WellSurrounded n .outside ('(' :: (s ++ ')' :: zeros)) := by
  have hnot : ∀ {c w y}, zeros = w ++ c :: y → c = '0' := by
    rintro c w y rfl
    exact hzeros c (List.mem_append_right _ List.mem_cons_self)
  constructor
  · intro x y heq hx
    cases x with
    | nil => exact fun c hc => by cases hc
    | cons d x =>
      obtain ⟨rfl, hrest⟩ := List.cons.inj heq
      rw [QuoteState.after_cons, next_opening] at hx
      rcases append_cons_eq_append_cons hrest with ⟨w, rfl, -⟩ | ⟨-, heq, -⟩ | ⟨w, -, hw⟩
      · exact (hs.opening x w rfl hx).append_cons (.inr rfl) []
      · cases heq
      · cases hnot hw
  · intro x y heq hx
    cases x with
    | nil => cases heq
    | cons d x =>
      obtain ⟨rfl, hrest⟩ := List.cons.inj heq
      rw [QuoteState.after_cons, next_opening] at hx
      rw [countStructural, if_neg (by decide), next_opening, Nat.zero_add]
      rcases append_cons_eq_append_cons hrest with ⟨w, rfl, rfl⟩ | ⟨rfl, -, rfl⟩ | ⟨w, -, hw⟩
      · exact (hs.closing x w rfl hx).append_cons (.inr rfl) zeros
      · exact ⟨y, [], (List.append_nil y).symm, hzeros, hfirst, by simp⟩
      · cases hnot hw

lemma of_not_mem (hopen : '(' ∉ s) (hclose : ')' ∉ s) : WellSurrounded n q s := by
  constructor
  · rintro x y rfl
    exact absurd (List.mem_append_right _ List.mem_cons_self) hopen
  · rintro x y rfl
    exact absurd (List.mem_append_right _ List.mem_cons_self) hclose

/-- Blanks around a text make no difference. -/
lemma of_trim (h : WellSurrounded n .outside (trim s)) : WellSurrounded n .outside s := by
  obtain ⟨x, y, hx, hy, hs⟩ := exists_eq_append_trim s
  have hblanks : ∀ {z : List Char}, Blanks z → ∀ {n q}, WellSurrounded n q z :=
    fun hz => of_not_mem (not_mem_of_blanks hz (by decide)) (not_mem_of_blanks hz (by decide))
  have hend : WellSurrounded n .outside (trim s ++ y) := by
    cases y with
    | nil =>
      rw [List.append_nil]
      exact h
    | cons b y =>
      obtain ⟨hb, hy⟩ := List.forall_mem_cons.1 hy
      exact h.append hb (hblanks hy)
  rw [hs, List.append_assoc]
  clear hs
  induction x with
  | nil => exact hend
  | cons b x ih =>
    obtain ⟨hb, hx⟩ := List.forall_mem_cons.1 hx
    have hnext : QuoteState.outside.next b = .outside :=
      after_of_blanks (List.forall_mem_singleton.2 hb)
    have hempty : WellSurrounded n .outside [] := of_not_mem List.not_mem_nil List.not_mem_nil
    refine hempty.append hb ?_
    rw [QuoteState.after_nil, hnext]
    exact ih hx

/-- Without parentheses outside literals there is nothing to be surrounded. -/
lemma of_charPieces (h : WellScanned q (charPieces s)) : WellSurrounded n q s := by
  have hnot : ∀ {x y : List Char} {c : Char}, s = x ++ c :: y → q.after x = .outside →
      c ≠ '(' ∧ c ≠ ')' := by
    rintro x y c rfl hx
    have hpieces : charPieces (x ++ c :: y) = charPieces x ++ .char c :: charPieces y :=
      List.map_append
    rw [hpieces] at h
    have hrest := h.of_append.2
    rw [sourceText_charPieces, hx] at hrest
    cases hrest with
    | char hopen hclose _ =>
      constructor
      · rintro rfl
        exact hopen (by decide)
      · rintro rfl
        exact hclose (by decide)
  constructor
  · intro x y heq hx
    exact absurd rfl (hnot heq hx).1
  · intro x y heq hx
    exact absurd rfl (hnot heq hx).2

end WellSurrounded

end RecordFilter.Proofs
