import Mathlib.Tactic.Common
import RecordFilter.Predicate.Parser
import RecordFilter.Text.Balance
import RecordFilter.Text.Literal

/-!
# Opaque stretches and closed groups

A stretch of text is opaque if none of its characters carries structure; a written literal is
such a stretch and ends outside. Everything that looks for structure passes over an opaque
stretch. A group is closed if its own parentheses match and it ends outside; these are exactly
the texts that the parser takes for the content of a pair of parentheses.
-/

namespace RecordFilter.Proofs
open RecordFilter.Text RecordFilter.Parser

/-- No character of a text, read from state `q`, carries structure. -/
def isOpaque (q : QuoteState) : List Char → Bool
  | [] => true
  | c :: s => !q.isStructural c && isOpaque (q.next c) s

/-- The parentheses of a text match, and no literal is left open at its end. -/
structure IsClosed (s : List Char) : Prop where
  balanced : openAfter? .outside 0 s = some 0
  after : QuoteState.outside.after s = .outside

lemma next_inside_of_plain {c : Char} (hq : c ≠ '\'') (hb : c ≠ '\\') :
    QuoteState.inside.next c = .inside := by
  simp [QuoteState.next, hq, hb]

/-- A character that is neither a quote nor a backslash with anything behind it. -/
lemma plain_of_not_special {d : Char} {s : List Char} (hquote : d = '\'' → s = [] → False)
    (hquote' : ∀ e t, d = '\'' → s = e :: t → False) (hbackslash : d = '\\' → s = [] → False)
    (hbackslash' : ∀ e t, d = '\\' → s = e :: t → False) : d ≠ '\'' ∧ d ≠ '\\' := by
  constructor
  · rintro rfl
    cases s with
    | nil => exact hquote rfl rfl
    | cons e s => exact hquote' e s rfl rfl
  · rintro rfl
    cases s with
    | nil => exact hbackslash rfl rfl
    | cons e s => exact hbackslash' e s rfl rfl

lemma isOpaque_cons_of_ne_outside {q : QuoteState} (hq : q ≠ .outside) (c : Char) (s : List Char) :
    isOpaque q (c :: s) = isOpaque (q.next c) s := by
  simp [isOpaque, QuoteState.isStructural, hq]

/-- The body of a written literal is read inside up to its closing quote. -/
lemma scan_encodeBody (v : List Char) :
    isOpaque .inside (Literal.encodeBody v) = true ∧
      QuoteState.inside.after (Literal.encodeBody v) = .outside := by
  induction v with
  | nil => decide
  | cons c v ih =>
    rw [Literal.encodeBody]
    split
    · -- The backslash that was added takes `c` out of consideration.
      have hesc : QuoteState.inside.next '\\' = .escaped := by decide
      rw [isOpaque_cons_of_ne_outside (by decide), QuoteState.after_cons, hesc,
        isOpaque_cons_of_ne_outside (by decide), QuoteState.after_cons]
      exact ih
    · next h =>
      by_cases hb : c = '\\'
      · -- A lone backslash takes the next character out, which is no quote and no backslash.
        subst hb
        cases v with
        | nil => simp [Literal.startsEscape] at h
        | cons d v =>
          have hd : ¬(d = '\'' ∨ d = '\\') := by simpa [Literal.startsEscape] using h
          have henc : Literal.encodeBody (d :: v) = d :: Literal.encodeBody v := by
            rw [Literal.encodeBody, if_neg (fun h' => hd (h'.imp_right And.left))]
          have hnext : QuoteState.inside.next d = .inside :=
            next_inside_of_plain (fun h' => hd (.inl h')) (fun h' => hd (.inr h'))
          have hesc : QuoteState.inside.next '\\' = .escaped := by decide
          rw [henc, isOpaque_cons_of_ne_outside (by decide), QuoteState.after_cons, hnext] at ih
          rw [henc, isOpaque_cons_of_ne_outside (by decide), QuoteState.after_cons, hesc,
            isOpaque_cons_of_ne_outside (by decide), QuoteState.after_cons]
          exact ih
      · have hnext : QuoteState.inside.next c = .inside :=
          next_inside_of_plain (fun h' => h (.inl h')) hb
        rw [isOpaque_cons_of_ne_outside (by decide), QuoteState.after_cons, hnext]
        exact ih

@[simp] lemma isOpaque_encode (v : List Char) : isOpaque .outside (Literal.encode v) = true := by
  rw [Literal.encode, isOpaque]
  exact (scan_encodeBody v).1

@[simp] lemma after_encode (v : List Char) :
    QuoteState.outside.after (Literal.encode v) = .outside := by
  rw [Literal.encode, QuoteState.after_cons]
  exact (scan_encodeBody v).2

lemma next_outside_of_ne {c : Char} (hc : c ≠ '\'') : QuoteState.outside.next c = .outside := by
  simp [QuoteState.next, hc]

lemma after_outside_of_no_quote {s : List Char} (h : '\'' ∉ s) :
    QuoteState.outside.after s = .outside := by
  induction s with
  | nil => rfl
  | cons c s ih =>
    rw [List.mem_cons, not_or] at h
    rw [QuoteState.after_cons, next_outside_of_ne (Ne.symm h.1)]
    exact ih h.2

/-- A text is a beginning of another one up to a character that it does not hold. -/
lemma prefix_append_cons_iff {w : List Char} {c : Char} (hc : c ∉ w) (s t : List Char) :
    w <+: s ++ c :: t ↔ w <+: s := by
  induction w generalizing s with
  | nil => simp
  | cons d w ih =>
    rw [List.mem_cons, not_or] at hc
    cases s with
    | nil => simp [Ne.symm hc.1]
    | cons e s => rw [List.cons_append, List.cons_prefix_cons, List.cons_prefix_cons, ih hc.2]

lemma next_opening : QuoteState.outside.next '(' = .outside :=
  next_outside_of_ne (by decide)

lemma next_closing : QuoteState.outside.next ')' = .outside :=
  next_outside_of_ne (by decide)

section Opaque

variable {q : QuoteState} {m : List Char}

lemma countStructural_of_isOpaque (hm : isOpaque q m = true) (c : Char) :
    countStructural c q m = 0 := by
  induction m generalizing q with
  | nil => rfl
  | cons d m ih =>
    simp only [isOpaque, Bool.and_eq_true, Bool.not_eq_true'] at hm
    simp only [countStructural, hm.1, Bool.false_eq_true, false_and, if_false, Nat.zero_add]
    exact ih hm.2

lemma cutFrom?_opaque_append (separators : List (List Char)) (hm : isOpaque q m = true)
    (s : List Char) :
    cutFrom? separators q (m ++ s) = (cutFrom? separators (q.after m) s).map
      fun cut => { cut with before := m ++ cut.before } := by
  induction m generalizing q with
  | nil => simp
  | cons c m ih =>
    simp only [isOpaque, Bool.and_eq_true, Bool.not_eq_true'] at hm
    rw [List.cons_append, cutFrom?]
    simp only [separatorAt?, hm.1, Bool.false_eq_true, if_false]
    rw [ih hm.2, Option.map_map, QuoteState.after_cons]
    rfl

lemma splitFrom_opaque_append (delimiter : Char) (hm : isOpaque q m = true) (s : List Char) :
    splitFrom delimiter q (m ++ s) =
      (splitFrom delimiter (q.after m) s).modifyHead (m ++ ·) := by
  induction m generalizing q with
  | nil => exact (congrFun List.modifyHead_id _).symm
  | cons c m ih =>
    simp only [isOpaque, Bool.and_eq_true, Bool.not_eq_true'] at hm
    simp only [List.cons_append, splitFrom, hm.1, Bool.false_and, Bool.false_eq_true, if_false]
    rw [ih hm.2, List.modifyHead_modifyHead, QuoteState.after_cons]
    rfl

lemma takeGroup?_opaque_append (hm : isOpaque q m = true) (depth : Nat) (s : List Char) :
    takeGroup? q depth (m ++ s) =
      (takeGroup? (q.after m) depth s).map fun (group, rest) => (m ++ group, rest) := by
  induction m generalizing q with
  | nil => simp
  | cons c m ih =>
    simp only [isOpaque, Bool.and_eq_true, Bool.not_eq_true'] at hm
    simp only [List.cons_append, takeGroup?, hm.1, Bool.false_eq_true, false_and, if_false]
    rw [ih hm.2, Option.map_map, QuoteState.after_cons]
    rfl

end Opaque

/-! ### Closed groups -/

/-- The content of a group ends at the first closing parenthesis that has no counterpart. -/
lemma takeGroup?_eq_some_iff {q : QuoteState} {depth : Nat} {s group rest : List Char} :
    takeGroup? q depth s = some (group, rest) ↔
      s = group ++ ')' :: rest ∧ openAfter? q depth group = some 0 ∧ q.after group = .outside := by
  induction s generalizing q depth group rest with
  | nil => simp [takeGroup?]
  | cons c s ih =>
    rw [takeGroup?]
    split
    · next hclose =>
      obtain ⟨hq, rfl, rfl⟩ := hclose
      have hout := (QuoteState.isStructural_iff.1 hq).1
      constructor
      · rintro ⟨⟩
        exact ⟨rfl, rfl, hout⟩
      · rintro ⟨hs, hopen, _⟩
        cases group with
        | nil =>
          cases hs
          rfl
        | cons d group =>
          obtain ⟨rfl, -⟩ := List.cons_eq_cons.1 hs
          simp [openAfter?, hq] at hopen
    · next hclose =>
      simp only [Option.map_eq_some_iff, Prod.exists, Prod.mk.injEq]
      constructor
      · rintro ⟨group, rest, hrec, rfl, rfl⟩
        obtain ⟨rfl, hopen, hafter⟩ := ih.1 hrec
        refine ⟨rfl, ?_, hafter⟩
        rw [openAfter?]
        split_ifs at hopen ⊢ <;> simp_all
      · rintro ⟨hs, hopen, hafter⟩
        cases group with
        | nil =>
          obtain ⟨rfl, -⟩ := List.cons_eq_cons.1 hs
          rw [openAfter?, Option.some.injEq] at hopen
          rw [QuoteState.after_nil] at hafter
          exact absurd ⟨by simp [hafter], rfl, hopen⟩ hclose
        | cons d group =>
          obtain ⟨rfl, rfl⟩ := List.cons_eq_cons.1 hs
          refine ⟨group, rest, ih.2 ⟨rfl, ?_, hafter⟩, rfl, rfl⟩
          rw [openAfter?] at hopen
          split_ifs at hopen ⊢ <;> simp_all

lemma takeGroup?_of_isClosed {group : List Char} (h : IsClosed group) (rest : List Char) :
    takeGroup? .outside 0 (group ++ ')' :: rest) = some (group, rest) :=
  takeGroup?_eq_some_iff.2 ⟨rfl, h.balanced, h.after⟩

lemma isClosed_of_takeGroup? {s group rest : List Char}
    (h : takeGroup? .outside 0 s = some (group, rest)) :
    IsClosed group ∧ s = group ++ ')' :: rest :=
  have ⟨hs, hbalanced, hafter⟩ := takeGroup?_eq_some_iff.1 h
  ⟨⟨hbalanced, hafter⟩, hs⟩

/-- An open group of a text whose parentheses match is closed later. -/
lemma exists_takeGroup?_of_openAfter? {q : QuoteState} {depth : Nat} {s : List Char}
    (h : openAfter? q (depth + 1) s = some 0) :
    ∃ group rest, takeGroup? q depth s = some (group, rest) ∧
      openAfter? .outside 0 rest = some 0 := by
  induction s generalizing q depth with
  | nil => simp [openAfter?] at h
  | cons c s ih =>
    rw [openAfter?] at h
    rw [takeGroup?]
    by_cases hopen : q.isStructural c = true ∧ c = '('
    · obtain ⟨hq, rfl⟩ := hopen
      rw [if_pos ⟨hq, rfl⟩] at h
      obtain ⟨group, rest, hrec, hrest⟩ := ih h
      exact ⟨'(' :: group, rest, by simp [hq, hrec], hrest⟩
    · rw [if_neg hopen] at h
      by_cases hclose : q.isStructural c = true ∧ c = ')'
      · obtain ⟨hq, rfl⟩ := hclose
        rw [if_pos ⟨hq, rfl⟩, if_neg (Nat.succ_ne_zero depth), Nat.add_sub_cancel] at h
        cases depth with
        | zero =>
          rw [QuoteState.next_of_isStructural hq] at h
          exact ⟨[], s, by simp [hq], h⟩
        | succ depth =>
          obtain ⟨group, rest, hrec, hrest⟩ := ih h
          exact ⟨')' :: group, rest, by simp [hq, hrec], hrest⟩
      · rw [if_neg hclose] at h
        obtain ⟨group, rest, hrec, hrest⟩ := ih h
        refine ⟨c :: group, rest, ?_, hrest⟩
        rw [if_neg (fun h' => hclose ⟨h'.1, h'.2.1⟩)]
        simp only [if_neg hopen, if_neg hclose, hrec, Option.map_some]

end RecordFilter.Proofs
