import Mathlib.Tactic.Common
import RecordFilter.Text.Blank

/-!
# Trimming

A text is its trimmed core between two runs of blanks. This file characterises the core: it
neither starts nor ends with a blank, blanks around a text do not change its core, and a core is
its own core.
-/

namespace RecordFilter.Proofs
open RecordFilter.Text

section Decidable

-- What is said of the characters of a text is decided along the text, not over all characters.

variable (p : Char → Prop) [DecidablePred p]

scoped instance (priority := high) decidableForallMem (s : List Char) : Decidable (∀ c ∈ s, p c) :=
  List.decidableBAll p s

scoped instance (priority := high) decidableForallMemOption (o : Option Char) :
    Decidable (∀ c ∈ o, p c) :=
  Option.decidableForallMem o

end Decidable

/-- A run of blanks. -/
def Blanks (s : List Char) : Prop := ∀ c ∈ s, isBlank c = true

instance (s : List Char) : Decidable (Blanks s) :=
  decidableForallMem (isBlank · = true) s

/-- No blank stands at either end. -/
structure Trimmed (s : List Char) : Prop where
  head : ∀ c ∈ s.head?, isBlank c = false
  last : ∀ c ∈ s.getLast?, isBlank c = false

lemma Blanks.reverse {s : List Char} (h : Blanks s) : Blanks s.reverse :=
  fun c hc => h c (List.mem_reverse.1 hc)

lemma trimStart_append_of_blanks {x : List Char} (hx : Blanks x) (s : List Char) :
    trimStart (x ++ s) = trimStart s :=
  List.dropWhile_append_of_pos hx

lemma trimEnd_append_of_blanks {y : List Char} (hy : Blanks y) (s : List Char) :
    trimEnd (s ++ y) = trimEnd s := by
  unfold trimEnd
  rw [List.reverse_append, List.dropWhile_append_of_pos hy.reverse]

lemma trimStart_of_blanks {x : List Char} (hx : Blanks x) : trimStart x = [] := by
  have h := trimStart_append_of_blanks hx []
  rwa [List.append_nil] at h

lemma trimStart_eq_self {s : List Char} (h : ∀ c ∈ s.head?, isBlank c = false) :
    trimStart s = s := by
  cases s with
  | nil => rfl
  | cons c s => simp [trimStart, h c rfl]

lemma trimEnd_eq_self {s : List Char} (h : ∀ c ∈ s.getLast?, isBlank c = false) :
    trimEnd s = s := by
  have hrev : trimStart s.reverse = s.reverse :=
    trimStart_eq_self fun c hc => h c (by simpa using hc)
  rw [trimEnd, ← trimStart, hrev, List.reverse_reverse]

lemma head_trimStart (s : List Char) : ∀ c ∈ (trimStart s).head?, isBlank c = false := by
  intro c hc
  have h := List.head?_dropWhile_not isBlank s
  rw [← trimStart, Option.mem_def.1 hc] at h
  simpa using h

lemma last_trimEnd (s : List Char) : ∀ c ∈ (trimEnd s).getLast?, isBlank c = false := by
  intro c hc
  rw [trimEnd, ← trimStart, List.getLast?_reverse] at hc
  exact head_trimStart _ c hc

lemma trimStart_append_left {s : List Char} (hs : trimStart s ≠ []) (t : List Char) :
    trimStart (s ++ t) = trimStart s ++ t := by
  unfold trimStart at hs ⊢
  rw [List.dropWhile_append, if_neg]
  simpa using hs

/-- A text is its part from the first character that is no blank on, after a run of blanks. -/
lemma exists_eq_append_trimStart (s : List Char) : ∃ x, Blanks x ∧ s = x ++ trimStart s :=
  ⟨s.takeWhile isBlank, List.all_eq_true.1 List.all_takeWhile,
    List.takeWhile_append_dropWhile.symm⟩

lemma exists_eq_trimEnd_append (s : List Char) : ∃ y, Blanks y ∧ s = trimEnd s ++ y := by
  obtain ⟨x, hx, heq⟩ := exists_eq_append_trimStart s.reverse
  refine ⟨x.reverse, hx.reverse, ?_⟩
  rw [trimEnd, ← trimStart, ← List.reverse_append, ← heq, List.reverse_reverse]

lemma exists_eq_append_trim (s : List Char) :
    ∃ x y, Blanks x ∧ Blanks y ∧ s = x ++ trim s ++ y := by
  obtain ⟨x, hx, hs⟩ := exists_eq_append_trimStart s
  obtain ⟨y, hy, hcore⟩ := exists_eq_trimEnd_append (trimStart s)
  refine ⟨x, y, hx, hy, ?_⟩
  rw [trim, List.append_assoc, ← hcore, ← hs]

lemma trim_append_of_blanks {x y : List Char} (hx : Blanks x) (hy : Blanks y) (s : List Char) :
    trim (x ++ s ++ y) = trim s := by
  unfold trim
  rw [List.append_assoc, trimStart_append_of_blanks hx]
  by_cases hs : trimStart s = []
  · have hblank : Blanks (s ++ y) := by
      obtain ⟨z, hz, heq⟩ := exists_eq_append_trimStart s
      rw [hs, List.append_nil] at heq
      intro c hc
      rcases List.mem_append.1 hc with h | h
      · exact hz c (heq ▸ h)
      · exact hy c h
    rw [trimStart_of_blanks hblank, hs]
  · rw [trimStart_append_left hs, trimEnd_append_of_blanks hy]

lemma trim_eq_self {s : List Char} (h : Trimmed s) : trim s = s := by
  rw [trim, trimStart_eq_self h.head, trimEnd_eq_self h.last]

lemma trimmed_trim (s : List Char) : Trimmed (trim s) where
  head := by
    intro c hc
    obtain ⟨y, _, heq⟩ := exists_eq_trimEnd_append (trimStart s)
    have hhead : (trimStart s).head? = some c := by
      rw [heq, List.head?_append, ← trim, Option.mem_def.1 hc, Option.some_or]
    exact head_trimStart s c hhead
  last := last_trimEnd _

lemma Trimmed.append {s t : List Char} (hs : Trimmed s) (ht : Trimmed t) (hs' : s ≠ [])
    (ht' : t ≠ []) (m : List Char) : Trimmed (s ++ (m ++ t)) where
  head := by
    intro c hc
    have hhead := List.head?_eq_some_head hs'
    rw [List.head?_append, hhead, Option.some_or] at hc
    exact hs.head c (hhead.trans hc)
  last := by
    intro c hc
    have hlast := List.getLast?_eq_some_getLast ht'
    rw [← List.append_assoc, List.getLast?_append, hlast, Option.some_or] at hc
    exact ht.last c (hlast.trans hc)

@[simp] lemma trim_trim (s : List Char) : trim (trim s) = trim s :=
  trim_eq_self (trimmed_trim s)

/-- A stretch without blanks at its ends stays where it stands when a text is trimmed. -/
lemma trim_append_trimmed_append {m : List Char} (hm : Trimmed m) (hne : m ≠ [])
    (a b : List Char) : trim (a ++ m ++ b) = trimStart a ++ m ++ trimEnd b := by
  obtain ⟨x, hx, ha⟩ := exists_eq_append_trimStart a
  obtain ⟨y, hy, hb⟩ := exists_eq_trimEnd_append b
  have hcore : Trimmed (trimStart a ++ m ++ trimEnd b) := by
    constructor
    · intro c hc
      cases hstart : (trimStart a).head? with
      | none =>
        have hhead := List.head?_eq_some_head hne
        rw [List.head?_eq_none_iff.1 hstart, List.nil_append, List.head?_append, hhead,
          Option.some_or] at hc
        exact hm.head c (hhead.trans hc)
      | some d =>
        rw [List.append_assoc, List.head?_append, hstart, Option.some_or] at hc
        exact head_trimStart a c (hstart.trans hc)
    · intro c hc
      cases hend : (trimEnd b).getLast? with
      | none =>
        have hlast := List.getLast?_eq_some_getLast hne
        rw [List.getLast?_eq_none_iff.1 hend, List.append_nil, List.getLast?_append, hlast,
          Option.some_or] at hc
        exact hm.last c (hlast.trans hc)
      | some d =>
        rw [List.getLast?_append, hend, Option.some_or] at hc
        exact last_trimEnd b c (hend.trans hc)
  have hwhole : a ++ m ++ b = x ++ (trimStart a ++ m ++ trimEnd b) ++ y :=
    calc a ++ m ++ b = (x ++ trimStart a) ++ m ++ (trimEnd b ++ y) := by rw [← ha, ← hb]
      _ = x ++ (trimStart a ++ m ++ trimEnd b) ++ y := by simp only [List.append_assoc]
  rw [hwhole, trim_append_of_blanks hx hy, trim_eq_self hcore]

end RecordFilter.Proofs
