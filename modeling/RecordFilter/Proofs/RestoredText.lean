import Mathlib.Data.List.TakeWhile
import RecordFilter.Proofs.GrammarAgreement
import RecordFilter.Proofs.ScalarRoundTrip

/-!
# Putting groups back

To quote a fragment, the reader puts the sources of its groups in place of their placeholders. It
does so wherever a placeholder shows, so the result is the fragment as it was written only if
nothing else in the text can be mistaken for the placeholder of a group: no digit follows a group
directly, and no placeholder that was written there, within literals or outside, has the number of
a group.
-/

namespace RecordFilter.Proofs
open RecordFilter.Text RecordFilter.Parser RecordFilter.Number

/-- A placeholder with a number below `n` is written somewhere in the text, within literals or
outside. -/
def mentionsBelow (n : Nat) : List Char → Bool
  | [] => false
  | c :: s =>
    let digits := ((c :: s).drop placeholderMark.length).takeWhile Char.isDigit
    (placeholderMark.isPrefixOf (c :: s) && !digits.isEmpty && decide (digitsValue digits < n)) ||
      mentionsBelow n s

/-- Nothing in a text, read from state `q`, can be mistaken for the placeholder of one of the first
`n` groups. -/
structure IsUnmistakable (n : Nat) (q : QuoteState) (s : List Char) : Prop where
  digits : closesOnDigit q s = false
  mentions : mentionsBelow n s = false

lemma mentionsBelow_eq_false_iff {n : Nat} {s : List Char} :
    mentionsBelow n s = false ↔ ∀ x y, s = x ++ (placeholderMark ++ y) →
      y.takeWhile Char.isDigit ≠ [] → n ≤ digitsValue (y.takeWhile Char.isDigit) := by
  induction s with
  | nil =>
    refine ⟨fun _ x y h => ?_, fun _ => rfl⟩
    simp [placeholderMark] at h
  | cons c s ih =>
    rw [mentionsBelow, Bool.or_eq_false_iff, ih]
    constructor
    · rintro ⟨hhead, htail⟩ x y h hne
      cases x with
      | nil =>
        rw [List.nil_append] at h
        have hmark : placeholderMark.isPrefixOf (placeholderMark ++ y) = true :=
          List.isPrefixOf_iff_prefix.2 (List.prefix_append _ _)
        simpa [h, hmark, hne] using hhead
      | cons d x =>
        have hs : s = x ++ (placeholderMark ++ y) := (List.cons_eq_cons.1 h).2
        exact htail x y hs hne
    · intro h
      refine ⟨?_, fun x y heq => h (c :: x) y (congrArg (c :: ·) heq)⟩
      rw [Bool.eq_false_iff]
      intro hhead
      simp only [Bool.and_eq_true, Bool.not_eq_true', List.isEmpty_eq_false_iff,
        decide_eq_true_eq] at hhead
      obtain ⟨⟨hmark, hne⟩, hlt⟩ := hhead
      obtain ⟨y, hy⟩ := List.isPrefixOf_iff_prefix.1 hmark
      rw [← hy, List.drop_left] at hne hlt
      exact absurd (h [] y hy.symm hne) (Nat.not_le.2 hlt)

lemma takeWhile_isDigit_append {s t : List Char} (ht : ∀ c ∈ t.head?, c.isDigit = false) :
    (s ++ t).takeWhile Char.isDigit = s.takeWhile Char.isDigit := by
  induction s with
  | nil =>
    cases t with
    | nil => rfl
    | cons c t => rw [List.nil_append, List.takeWhile_cons, ht c rfl]; rfl
  | cons c s ih => rw [List.cons_append, List.takeWhile_cons, List.takeWhile_cons, ih]

namespace IsUnmistakable

variable {n : Nat} {q : QuoteState} {s t : List Char}

lemma right (h : IsUnmistakable n q (s ++ t)) : IsUnmistakable n (q.after s) t := by
  refine ⟨(closesOnDigit_append h.digits).2, ?_⟩
  have hmentions := mentionsBelow_eq_false_iff.1 h.mentions
  rw [mentionsBelow_eq_false_iff]
  intro x y heq
  exact hmentions (s ++ x) y (by rw [heq, List.append_assoc])

/-- The text before a character that is no digit. -/
lemma left (h : IsUnmistakable n q (s ++ t)) (ht : ∀ c ∈ t.head?, c.isDigit = false) :
    IsUnmistakable n q s := by
  refine ⟨(closesOnDigit_append h.digits).1, ?_⟩
  have hmentions := mentionsBelow_eq_false_iff.1 h.mentions
  rw [mentionsBelow_eq_false_iff]
  intro x y heq hne
  have hwhole := hmentions x (y ++ t) (by rw [heq]; simp only [List.append_assoc])
  rw [takeWhile_isDigit_append ht] at hwhole
  exact hwhole hne

lemma trim (h : IsUnmistakable n .outside s) : IsUnmistakable n .outside (Text.trim s) := by
  obtain ⟨x, y, hx, hy, hs⟩ := exists_eq_append_trim s
  rw [hs] at h
  have hcore := (h.left ?_).right
  · rwa [after_of_blanks hx] at hcore
  · intro c hc
    have hblank := hy c (List.mem_of_mem_head? hc)
    rw [Bool.eq_false_iff]
    intro hdigit
    rw [not_isBlank_of_isDigit hdigit] at hblank
    cases hblank

/-- The source of a group and the text after it. -/
lemma group {source : List Char} (hsource : IsClosed source)
    (h : IsUnmistakable n .outside ('(' :: (source ++ ')' :: s))) :
    IsUnmistakable n .outside source ∧ IsUnmistakable n .outside s ∧
      ∀ c ∈ s.head?, c.isDigit = false := by
  have hinner : IsUnmistakable n .outside (source ++ ')' :: s) := right (s := ['(']) h
  have hclose := hinner.right
  rw [hsource.after] at hclose
  refine ⟨hinner.left ?_, right (s := [')']) hclose, ?_⟩
  · intro c hc
    cases hc
    decide
  · have hstructural : QuoteState.outside.isStructural ')' = true := by decide
    have hdigit := hclose.digits
    rw [closesOnDigit, Bool.or_eq_false_iff, hstructural] at hdigit
    intro c hc
    simpa [Option.mem_def.1 hc] using hdigit.1

lemma of_mem_groupsOf {ps : List Piece} (hps : WellScanned q ps)
    (h : IsUnmistakable n q (sourceText ps)) {number : Nat} {source : List Char}
    (hmem : (number, source) ∈ groupsOf ps) : IsUnmistakable n .outside source := by
  induction hps with
  | nil => cases hmem
  | @char q c ps _ _ _ ih => exact ih (right (s := [c]) h) hmem
  | @group number' source' ps hsource _ ih =>
    obtain ⟨hinner, hrest, -⟩ := h.group hsource
    rcases List.mem_cons.1 hmem with heq | hmem
    · cases heq
      exact hinner
    · exact ih hrest hmem

end IsUnmistakable

/-! ### Putting the groups back -/

section Restore

variable {slots : Slots}

lemma restore_cons {c : Char} {s : List Char}
    (h : ¬(placeholderMark <+: c :: s ∧
      ((c :: s).drop placeholderMark.length).takeWhile Char.isDigit ≠ [])) :
    slots.restore (c :: s) = c :: slots.restore s := by
  rw [Slots.restore, if_neg]
  rwa [List.isPrefixOf_iff_prefix]

lemma restore_placeholder {digits s : List Char} (hdigits : ∀ c ∈ digits, c.isDigit = true)
    (hne : digits ≠ []) (hs : ∀ c ∈ s.head?, c.isDigit = false) :
    slots.restore (placeholderMark ++ (digits ++ s)) =
      (slots[digitsValue digits]?).elim (placeholderMark ++ (digits ++ slots.restore s))
        fun slot => '(' :: (slot.source ++ ')' :: slots.restore s) := by
  have hall : (digits ++ s).takeWhile Char.isDigit = digits := by
    rw [takeWhile_isDigit_append hs]
    exact List.takeWhile_eq_self_iff.2 hdigits
  have hmark : placeholderMark ++ (digits ++ s) =
      '@' :: (placeholderMark.tail ++ (digits ++ s)) := rfl
  have hafter : (placeholderMark.tail ++ (digits ++ s)).drop
      (placeholderMark.length - 1 + digits.length) = s := by
    rw [← List.append_assoc]
    exact List.drop_left' (by rw [List.length_append]; rfl)
  conv_lhs => rw [hmark, Slots.restore]
  rw [← hmark]
  simp only [List.drop_left, hall, hafter]
  rw [if_pos ⟨List.isPrefixOf_iff_prefix.2 (List.prefix_append _ _), hne⟩]
  cases slots[digitsValue digits]? with
  | none => simp
  | some slot => rfl

/-- The flat text and the source begin with the same character, or with `@` and a parenthesis. -/
lemma head?_isDigit_iff (ps : List Piece) :
    (∀ c ∈ (flatText ps).head?, c.isDigit = false) ↔
      ∀ c ∈ (sourceText ps).head?, c.isDigit = false := by
  cases ps with
  | nil => rfl
  | cons p ps =>
    cases p with
    | char d => rfl
    | group number source =>
      constructor <;> intro _ c hc <;> cases hc <;> decide

/-- A placeholder that characters of the flat text make up was written there, so its number is too
great for any group. -/
lemma exists_written_placeholder {n : Nat} {q : QuoteState} {c : Char} {ps : List Piece}
    (h : IsUnmistakable n q (sourceText (.char c :: ps)))
    (hmark : placeholderMark <+: c :: flatText ps)
    (hne : ((c :: flatText ps).drop placeholderMark.length).takeWhile Char.isDigit ≠ []) :
    ∃ digits rest, .char c :: ps = charPieces (placeholderMark ++ digits) ++ rest ∧
      (∀ c ∈ digits, c.isDigit = true) ∧ digits ≠ [] ∧
      (∀ c ∈ (flatText rest).head?, c.isDigit = false) ∧ n ≤ digitsValue digits := by
  obtain ⟨s, hs⟩ := hmark
  rw [← hs, List.drop_left] at hne
  obtain ⟨rfl, htail⟩ := List.cons_eq_cons.1 hs.symm
  have hdigits : ∀ c ∈ s.takeWhile Char.isDigit, c.isDigit = true :=
    List.all_eq_true.1 List.all_takeWhile
  have hat : '@' ∉ placeholderMark.tail ++ s.takeWhile Char.isDigit := by
    rw [List.mem_append, not_or]
    exact ⟨by decide, at_not_mem_of_digits List.all_takeWhile⟩
  have hsplit : flatText ps = placeholderMark.tail ++ s.takeWhile Char.isDigit ++
      s.dropWhile Char.isDigit := by
    rw [List.append_assoc, List.takeWhile_append_dropWhile]
    exact htail
  obtain ⟨rest, rfl⟩ := exists_charPieces_of_prefix_flatText hat ⟨_, hsplit.symm⟩
  rw [flatText_append, flatText_charPieces] at hsplit
  have hrest : flatText rest = s.dropWhile Char.isDigit := List.append_cancel_left hsplit
  generalize s.takeWhile Char.isDigit = digits at hne hdigits h hat
  have hhead : ∀ c ∈ (flatText rest).head?, c.isDigit = false := by
    intro c hc
    have hnot := List.head?_dropWhile_not Char.isDigit s
    rw [← hrest, Option.mem_def.1 hc] at hnot
    simpa using hnot
  refine ⟨digits, rest, rfl, hdigits, hne, hhead, ?_⟩
  have hsource : sourceText (.char '@' :: (charPieces (placeholderMark.tail ++ digits) ++ rest)) =
      placeholderMark ++ (digits ++ sourceText rest) := by
    rw [sourceText, sourceText_append, sourceText_charPieces]
    rfl
  have hwritten := mentionsBelow_eq_false_iff.1 h.mentions [] (digits ++ sourceText rest) hsource
  rw [takeWhile_isDigit_append ((head?_isDigit_iff rest).1 hhead),
    List.takeWhile_eq_self_iff.2 hdigits] at hwritten
  exact hwritten hne

/-- Of an unmistakable fragment in pieces, putting the groups back into the flat text gives the
source. -/
lemma restore_flatText {n : Nat} {q : QuoteState} {ps : List Piece} (hps : WellScanned q ps)
    (h : IsUnmistakable n q (sourceText ps)) (hlength : slots.length ≤ n)
    (hgroups : ∀ number source, (number, source) ∈ groupsOf ps →
      ∃ content, slots[number]? = some ⟨source, content⟩) :
    slots.restore (flatText ps) = sourceText ps := by
  induction hlen : ps.length using Nat.strongRecOn generalizing q ps with
  | ind k ih =>
    cases hps with
    | nil =>
      rw [flatText, sourceText, Slots.restore]
    | @group number source ps hsource hps =>
      obtain ⟨-, hrest, hdigit⟩ := h.group hsource
      obtain ⟨content, hslot⟩ := hgroups number source List.mem_cons_self
      have hne : digitsOf number ≠ [] := Nat.toDigits_ne_nil
      have htail := ih ps.length (by rw [← hlen]; simp) hps hrest
        (fun number source hmem => hgroups number source (List.mem_cons_of_mem _ hmem)) rfl
      rw [flatText, placeholder, List.append_assoc,
        restore_placeholder (fun _ => isDigit_of_mem_digitsOf) hne
          ((head?_isDigit_iff ps).2 hdigit),
        digitsValue_digitsOf, hslot, htail]
      rfl
    | @char _ c ps hopen hclose hps =>
      have hscan : WellScanned q (.char c :: ps) := .char hopen hclose hps
      by_cases hmark : placeholderMark <+: c :: flatText ps ∧
          ((c :: flatText ps).drop placeholderMark.length).takeWhile Char.isDigit ≠ []
      · -- The placeholder stays, and what is behind it is shorter by more than one piece.
        obtain ⟨digits, rest, hpieces, hdigits, hne, hhead, hvalue⟩ :=
          exists_written_placeholder h hmark.1 hmark.2
        rw [hpieces] at hscan h hgroups hlen ⊢
        rw [sourceText_append, sourceText_charPieces] at h ⊢
        rw [groupsOf_append, groupsOf_charPieces, List.nil_append] at hgroups
        have hlt : rest.length < k := by
          rw [← hlen]
          simp only [charPieces, List.length_append, List.length_map, placeholderMark]
          exact Nat.lt_add_of_pos_left (Nat.add_pos_left (by decide) _)
        have hnone : slots[digitsValue digits]? = none := List.getElem?_eq_none (by omega)
        have hscan' := hscan.of_append.2
        rw [sourceText_charPieces] at hscan'
        have htail := ih rest.length hlt hscan' h.right hgroups rfl
        rw [flatText_append, flatText_charPieces, List.append_assoc,
          restore_placeholder hdigits hne hhead, hnone, Option.elim_none, htail,
          List.append_assoc]
      · have htail := ih ps.length (by rw [← hlen]; simp) hps (h.right (s := [c])) hgroups rfl
        rw [flatText, restore_cons hmark, htail, sourceText]

end Restore

end RecordFilter.Proofs
