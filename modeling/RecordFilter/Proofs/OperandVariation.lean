import Mathlib.Tactic.Common
import RecordFilter.Proofs.LiteralVariation

/-!
# Comparisons that differ in one literal

Values, operands and comparisons are read alike from texts that are equal but for the content of
one literal: both readings fail for the same kind of reason, or they differ in the string that the
literal stands for and in nothing else.
-/

namespace RecordFilter.Proofs
open RecordFilter.Text RecordFilter.Parser RecordFilter.Number

variable {v v' : List Char}

/-- Both readings succeed with related results, or both fail with errors of one kind. -/
inductive Similar {α β : Type} (R : α → β → Prop) : Except Failure α → Except Failure β → Prop
  | ok {a : α} {b : β} (h : R a b) : Similar R (.ok a) (.ok b)
  | error {e e' : Failure} (h : e.kind = e'.kind) : Similar R (.error e) (.error e')

namespace Similar

variable {α β γ δ : Type} {R : α → β → Prop} {S : γ → δ → Prop}

lemma bind {x : Except Failure α} {y : Except Failure β} {f : α → Except Failure γ}
    {g : β → Except Failure δ} (h : Similar R x y) (hf : ∀ a b, R a b → Similar S (f a) (g b)) :
    Similar S (x >>= f) (y >>= g) := by
  cases h with
  | ok h => exact hf _ _ h
  | error h => exact .error h

lemma map {x : Except Failure α} {y : Except Failure β} {f : α → γ} {g : β → δ}
    (h : Similar R x y) (hf : ∀ a b, R a b → S (f a) (g b)) : Similar S (x.map f) (y.map g) := by
  cases h with
  | ok h => exact .ok (hf _ _ h)
  | error h => exact .error h

lemma refl {R : α → α → Prop} (hR : ∀ a, R a a) (x : Except Failure α) : Similar R x x := by
  cases x with
  | ok a => exact .ok (hR a)
  | error e => exact .error rfl

end Similar

/-- The scalars are equal, or they are both strings. -/
inductive ScalarVaries : Nat → Scalar → Scalar → Prop
  | same (value : Scalar) : ScalarVaries 0 value value
  | string (s t : String) : ScalarVaries 1 (.string s) (.string t)

/-- The operands are equal but for at most one string, which the number counts. -/
inductive OperandVaries : Nat → Operand Scalar → Operand Scalar → Prop
  | same (operand : Operand Scalar) : OperandVaries 0 operand operand
  | single (s t : String) : OperandVaries 1 (.single (.string s)) (.single (.string t))
  | list (before after : List Scalar) (s t : String) :
      OperandVaries 1 (.list (before ++ .string s :: after)) (.list (before ++ .string t :: after))

/-- The filters are equal but for as many strings as the number says. -/
inductive FilterVaries : Nat → Filter → Filter → Prop
  | same (p : Filter) : FilterVaries 0 p p
  | comparison {n : Nat} {operand operand' : Operand Scalar} (field : String)
      (comparator : Comparator) (h : OperandVaries n operand operand') :
      FilterVaries n (.comparison field comparator operand) (.comparison field comparator operand')
  | nested {n m : Nat} {subject subject' : Filter} {operand operand' : Operand Scalar}
      (comparator : Comparator) (hsubject : FilterVaries n subject subject')
      (hoperand : OperandVaries m operand operand') :
      FilterVaries (n + m) (.nested subject comparator operand)
        (.nested subject' comparator operand')
  | joined {n m : Nat} {left left' right right' : Filter} (connective : Connective)
      (hleft : FilterVaries n left left') (hright : FilterVaries m right right') :
      FilterVaries (n + m) (.joined connective left right) (.joined connective left' right')
  | negation {n : Nat} {inner inner' : Filter} (h : FilterVaries n inner inner') :
      FilterVaries n (.negation inner) (.negation inner')

lemma decodeBody_append_cons {s : List Char} (h : QuoteState.inside.after s = .outside) (c : Char)
    (t : List Char) : Literal.decodeBody (s ++ c :: t) = none := by
  fun_induction Literal.decodeBody s with
  | case1 => cases h
  | case2 => rfl
  | case3 d s => rfl
  | case4 => cases h
  | case5 d s hescape ih =>
    have hstate : QuoteState.inside.after ('\\' :: d :: s) = QuoteState.inside.after s := rfl
    rw [List.cons_append, List.cons_append, Literal.decodeBody_escape hescape, ih (hstate ▸ h),
      Option.map_none]
  | case6 d s hescape ih =>
    have hstate : QuoteState.inside.after ('\\' :: d :: s) = QuoteState.inside.after s := rfl
    rw [List.cons_append, List.cons_append, Literal.decodeBody_backslash hescape,
      Literal.decodeBody_cons_of_plain (fun h => hescape (.inl h)) (fun h => hescape (.inr h)),
      ih (hstate ▸ h), Option.map_none, Option.map_none]
  | case7 d s hquote hquote' hbackslash hbackslash' ih =>
    have hd := plain_of_not_special hquote hquote' hbackslash hbackslash'
    rw [QuoteState.after_cons, next_inside_of_plain hd.1 hd.2] at h
    rw [List.cons_append, Literal.decodeBody_cons_of_plain hd.1 hd.2, ih h, Option.map_none]

/-- A token with a written literal in it is a literal only if there is nothing else. -/
lemma decode_literal {before : List Char} (h : QuoteState.outside.after before = .outside)
    (v after : List Char) :
    Literal.decode (before ++ (Literal.encode v ++ after)) =
      if before = [] ∧ after = [] then some v else none := by
  cases before with
  | nil =>
    cases after with
    | nil =>
      rw [List.nil_append, List.append_nil, Literal.decode_encode]
      rfl
    | cons c after =>
      have hbody := decodeBody_append_cons (scan_encodeBody v).2 c after
      rw [if_neg (by simp)]
      exact hbody
  | cons c before =>
    rw [if_neg (by simp), List.cons_append]
    by_cases hc : c = '\''
    · subst hc
      exact decodeBody_append_cons h '\'' _
    · unfold Literal.decode
      split
      · next heq => exact absurd (List.cons_eq_cons.1 heq).1 hc
      · rfl

lemma quote_mem_spanDigits {s : List Char} (h : '\'' ∈ s) : '\'' ∈ (Numeral.spanDigits s).2 := by
  rw [← List.takeWhile_append_dropWhile (p := Char.isDigit) (l := s), List.mem_append] at h
  rcases h with h | h
  · exact absurd (List.all_eq_true.1 List.all_takeWhile _ h) (by decide)
  · exact h

lemma ofPlain?_of_quote {s : List Char} (h : '\'' ∈ s) : Numeral.ofPlain? s = none := by
  have hsign : '\'' ∈ (Numeral.readSign s).2 := by
    unfold Numeral.readSign
    split
    · simpa using h
    · exact h
  have hspan := quote_mem_spanDigits hsign
  unfold Numeral.ofPlain?
  dsimp only
  split
  · rfl
  · next heq =>
    rw [heq] at hspan
    cases hspan
  · next heq =>
    rw [heq] at hspan
    have hspan' := quote_mem_spanDigits (List.mem_of_ne_of_mem (by decide) hspan)
    split
    · rfl
    · next heq' =>
      rw [heq'] at hspan'
      cases hspan'
    · rfl
  · rfl

lemma dateParts?_of_quote {s : List Char} (h : '\'' ∈ s) : Scalar.dateParts? s = none := by
  unfold Scalar.dateParts?
  split
  · rw [if_neg]
    intro hdigits
    have hquote : '\''.isDigit = false := by decide
    simp only [List.all_cons, Bool.and_eq_true] at hdigits
    simp only [List.mem_cons, List.not_mem_nil, or_false] at h
    rcases h with rfl | rfl | rfl | rfl | h | rfl | rfl | h | rfl | rfl <;> simp_all
  · rfl

/-- A token with a quote, but not at its beginning, has no scalar form. -/
lemma ofTrimmed?_of_quote {s : List Char} (h : '\'' ∈ s) (hhead : s.head? ≠ some '\'')
    (policy : Policy) :
    Scalar.ofTrimmed? policy s =
      if policy = .lenient then some (.string (String.ofList s)) else none := by
  have hword : ∀ w : List Char, '\'' ∉ w → s ≠ w := by
    rintro w hw rfl
    exact hw h
  unfold Scalar.ofTrimmed?
  rw [if_neg (not_or.2 ⟨hword _ (by decide), hword _ (by decide)⟩), if_neg hhead,
    ofPlain?_of_quote h]
  dsimp only
  rw [if_neg (hword _ (by decide)), if_neg (hword _ (by decide)), dateParts?_of_quote h]
  cases policy <;> rfl

lemma head?_append_literal (before v after : List Char) :
    (before ++ (Literal.encode v ++ after)).head? = (before ++ ['\'']).head? := by
  cases before <;> rfl

/-- A token that begins with a quote is a string or nothing. -/
lemma ofTrimmed?_literal (policy : Policy) {before : List Char}
    (h : QuoteState.outside.after before = .outside)
    (hhead : (before ++ ['\'']).head? = some '\'') (v after : List Char) :
    Scalar.ofTrimmed? policy (before ++ (Literal.encode v ++ after)) =
      if before = [] ∧ after = [] then some (.string (String.ofList v)) else none := by
  have hmem := @quote_mem_literal v before after
  have hword : ¬(before ++ (Literal.encode v ++ after) = [] ∨
      before ++ (Literal.encode v ++ after) = "null".toList) := by
    rintro (heq | heq)
    · rw [heq] at hmem
      cases hmem
    · rw [heq] at hmem
      exact absurd hmem (by decide)
  have hquote := (head?_append_literal before v after).trans hhead
  unfold Scalar.ofTrimmed?
  rw [if_neg hword, if_pos hquote, decode_literal h]
  split <;> rfl

lemma ofTrimmed?_varies (policy : Policy) {n : Nat} {s s' : List Char}
    (h : TextVaries v v' .outside n s s') :
    (Scalar.ofTrimmed? policy s = none ∧ Scalar.ofTrimmed? policy s' = none) ∨
      ∃ value value', Scalar.ofTrimmed? policy s = some value ∧
        Scalar.ofTrimmed? policy s' = some value' ∧ ScalarVaries n value value' := by
  cases h with
  | same =>
    cases hvalue : Scalar.ofTrimmed? policy s with
    | none => exact .inl ⟨rfl, rfl⟩
    | some value => exact .inr ⟨value, value, rfl, rfl, .same value⟩
  | literal before after h =>
    by_cases hhead : (before ++ ['\'']).head? = some '\''
    · rw [ofTrimmed?_literal policy h hhead, ofTrimmed?_literal policy h hhead]
      split
      · exact .inr ⟨_, _, rfl, rfl, .string _ _⟩
      · exact .inl ⟨rfl, rfl⟩
    · have hread : ∀ v, Scalar.ofTrimmed? policy (before ++ (Literal.encode v ++ after)) =
          if policy = .lenient then
            some (.string (String.ofList (before ++ (Literal.encode v ++ after))))
          else none := by
        intro v
        apply ofTrimmed?_of_quote (quote_mem_literal before after)
        rw [head?_append_literal]
        exact hhead
      rw [hread, hread]
      cases policy with
      | strict => exact .inl ⟨rfl, rfl⟩
      | lenient => exact .inr ⟨_, _, rfl, rfl, .string _ _⟩

lemma ofToken_varies (policy : Policy) {n : Nat} {s s' : List Char}
    (h : TextVaries v v' .outside n s s') :
    Similar (ScalarVaries n) (Scalar.ofToken policy s) (Scalar.ofToken policy s') := by
  unfold Scalar.ofToken
  rcases ofTrimmed?_varies policy h.trim with ⟨hs, hs'⟩ | ⟨value, value', hs, hs', hvaries⟩
  · rw [hs, hs']
    exact .error rfl
  · rw [hs, hs']
    exact .ok hvaries

/-! ### Operands -/

lemma readElements_whole (policy : Policy) (whole whole' : List Char)
    (elements : List (List Char)) :
    Similar Eq (readElements policy whole elements) (readElements policy whole' elements) := by
  induction elements with
  | nil => exact .ok rfl
  | cons element elements ih =>
    rw [readElements, readElements]
    split
    · exact .error rfl
    · refine Similar.bind (R := Eq) (.refl (fun _ => rfl) _) ?_
      rintro value _ rfl
      refine Similar.bind ih ?_
      rintro values _ rfl
      exact .ok rfl

lemma trim_literal_ne_nil (before after v : List Char) :
    trim (before ++ (Literal.encode v ++ after)) ≠ [] := by
  rw [← List.append_assoc, trim_append_trimmed_append (trimmed_encode v) (List.cons_ne_nil _ _)]
  simp [Literal.encode]

/-- Lists with strings in the same place and equal otherwise. -/
def ElementVaries (values values' : List Scalar) : Prop :=
  ∃ before after s t, values = before ++ .string s :: after ∧ values' = before ++ .string t :: after

lemma readElements_literal (policy : Policy) (whole whole' : List Char) {x : List Char}
    (hx : QuoteState.outside.after x = .outside) (pre post : List (List Char)) (y : List Char) :
    Similar ElementVaries
      (readElements policy whole (pre ++ (x ++ (Literal.encode v ++ y)) :: post))
      (readElements policy whole' (pre ++ (x ++ (Literal.encode v' ++ y)) :: post)) := by
  induction pre with
  | nil =>
    rw [List.nil_append, List.nil_append, readElements, readElements,
      if_neg (trim_literal_ne_nil x y v), if_neg (trim_literal_ne_nil x y v')]
    refine Similar.bind (ofToken_varies policy (.literal x y hx)) ?_
    intro value value' hvaries
    cases hvaries with
    | string s t =>
      refine Similar.bind (readElements_whole policy whole whole' post) ?_
      rintro values _ rfl
      exact .ok ⟨[], values, s, t, rfl, rfl⟩
  | cons element pre ih =>
    rw [List.cons_append, List.cons_append, readElements, readElements]
    split
    · exact .error rfl
    · refine Similar.bind (R := Eq) (.refl (fun _ => rfl) _) ?_
      rintro value _ rfl
      refine Similar.bind ih ?_
      rintro values values' ⟨before, after, s, t, rfl, rfl⟩
      exact .ok ⟨value :: before, after, s, t, rfl, rfl⟩

lemma readOperand_varies (policy : Policy) (comparator : Comparator) {n : Nat} {s s' : List Char}
    (h : TextVaries v v' .outside n s s') :
    Similar (OperandVaries n) (readOperand policy comparator s)
      (readOperand policy comparator s') := by
  have hlone : ∀ {n : Nat} {value value' : Scalar}, ScalarVaries n value value' →
      OperandVaries n (.single value) (.single value') ∧
        OperandVaries n (.list [value]) (.list [value']) := by
    intro n value value' hvaries
    cases hvaries with
    | same => exact ⟨.same _, .same _⟩
    | string s t => exact ⟨.single s t, .list [] [] s t⟩
  unfold readOperand
  split
  · rcases withoutBrackets?_varies h with ⟨hs, hs'⟩ | ⟨inner, inner', hs, hs', hinner⟩
    · rw [hs, hs']
      exact (ofToken_varies policy h).map fun _ _ hvaries => (hlone hvaries).2
    · rw [hs, hs']
      dsimp only
      cases hinner with
      | same =>
        split
        · exact .ok (.same _)
        · refine (readElements_whole policy s s' _).map ?_
          rintro values _ rfl
          exact .same _
      | literal before after hbefore =>
        obtain ⟨pre, x, y, post, hsplit, hx⟩ := exists_splitFrom_literal ',' hbefore after
        rw [ite_self] at hx
        rw [if_neg (trim_literal_ne_nil _ _ _), if_neg (trim_literal_ne_nil _ _ _), split, split,
          hsplit, hsplit]
        refine (readElements_literal policy s s' hx pre post y).map ?_
        rintro values values' ⟨before, after, s, t, rfl, rfl⟩
        exact .list before after s t
  · exact (ofToken_varies policy h).map fun _ _ hvaries => (hlone hvaries).1

/-- A comparison is read alike; the slots only show in messages. -/
lemma readComparison_varies (policy : Policy) (slots slots' : Slots) {n : Nat} {s s' : List Char}
    (h : TextVaries v v' .outside n s s') :
    Similar (FilterVaries n) (readComparison policy slots s) (readComparison policy slots' s') := by
  unfold readComparison
  dsimp only
  rcases ofText?_varies h with ⟨hs, hs'⟩ | ⟨field, comparator, token, token', hs, hs', htoken⟩
  · rw [hs, hs']
    exact .error rfl
  · have hmark : ∀ w ∈ [placeholderMark], '\'' ∉ w := by decide
    rw [hs, hs']
    dsimp only
    rw [isSome_cut?_varies hmark htoken]
    split
    · exact .error rfl
    · split
      · exact .error rfl
      · exact (readOperand_varies policy comparator htoken).bind fun _ _ hoperand =>
          .ok (.comparison _ comparator hoperand)

end RecordFilter.Proofs
