import Mathlib.Data.List.Find
import RecordFilter.Proofs.FlatForms

/-!
# Texts that differ in one literal

Two runs of the reader are compared on texts that are equal but for the content of one literal
(`TextVaries`). Every scan of the text treats both alike: it cuts them at the same place, and
leaves the literal whole in one of the parts. The number with a variation counts the literals that
vary, none or one, so the parts of a text share its number between them.
-/

namespace RecordFilter.Proofs
open RecordFilter.Text RecordFilter.Parser RecordFilter.Number

variable {v v' : List Char}

/-- Read from state `q`, the texts are equal, or they have literals of `v` and of `v'` in the same
place outside other literals. -/
inductive TextVaries (v v' : List Char) (q : QuoteState) : Nat → List Char → List Char → Prop
  | same (s : List Char) : TextVaries v v' q 0 s s
  | literal (before after : List Char) (h : q.after before = .outside) :
      TextVaries v v' q 1 (before ++ (Literal.encode v ++ after))
        (before ++ (Literal.encode v' ++ after))

lemma TextVaries.cons {q : QuoteState} {n : Nat} {s s' : List Char} (c : Char)
    (h : TextVaries v v' (q.next c) n s s') : TextVaries v v' q n (c :: s) (c :: s') := by
  cases h with
  | same => exact .same _
  | literal before after h => exact .literal (c :: before) after h

lemma TextVaries.append {n : Nat} {s s' : List Char} (h : TextVaries v v' .outside n s s')
    {q : QuoteState} {before : List Char} (hbefore : q.after before = .outside) :
    TextVaries v v' q n (before ++ s) (before ++ s') := by
  induction before generalizing q with
  | nil =>
    rw [QuoteState.after_nil] at hbefore
    rw [hbefore]
    exact h
  | cons c before ih => exact (ih hbefore).cons c

lemma quote_mem_literal (before after : List Char) :
    '\'' ∈ before ++ (Literal.encode v ++ after) := by
  simp [Literal.encode]

lemma TextVaries.trim {n : Nat} {s s' : List Char} (h : TextVaries v v' .outside n s s') :
    TextVaries v v' .outside n (Text.trim s) (Text.trim s') := by
  cases h with
  | same => exact .same _
  | literal before after h =>
    obtain ⟨x, hx, hbefore⟩ := exists_eq_append_trimStart before
    have hstart : QuoteState.outside.after (trimStart before) = .outside := by
      rw [hbefore, QuoteState.after_append, after_of_blanks hx] at h
      exact h
    have htrim : ∀ v, Text.trim (before ++ (Literal.encode v ++ after)) =
        trimStart before ++ (Literal.encode v ++ trimEnd after) := by
      intro v
      rw [← List.append_assoc, trim_append_trimmed_append (trimmed_encode v) (List.cons_ne_nil _ _),
        List.append_assoc]
    rw [htrim, htrim]
    exact .literal _ _ hstart

lemma placeholderNumber?_of_quote {s : List Char} (h : '\'' ∈ s) : placeholderNumber? s = none := by
  rw [Option.eq_none_iff_forall_ne_some]
  intro number hnumber
  obtain ⟨digits, rfl, -, hdigits, -⟩ := placeholderNumber?_eq_some_iff.1 hnumber
  rcases List.mem_append.1 h with h | h
  · exact absurd h (by decide)
  · exact absurd (List.all_eq_true.1 hdigits _ h) (by decide)

lemma afterNegation?_varies {n : Nat} {s s' : List Char} (h : TextVaries v v' .outside n s s') :
    (afterNegation? s = none ∧ afterNegation? s' = none) ∨
      ∃ rest rest', afterNegation? s = some rest ∧ afterNegation? s' = some rest' ∧
        TextVaries v v' .outside n rest rest' := by
  cases h with
  | same =>
    cases hnot : afterNegation? s with
    | none => exact .inl ⟨rfl, rfl⟩
    | some rest => exact .inr ⟨rest, rest, rfl, rfl, .same rest⟩
  | literal before after h =>
    have hbegins : ∀ v, negationMark <+: before ++ (Literal.encode v ++ after) ↔
        negationMark <+: before :=
      fun v => prefix_append_cons_iff (by decide) before _
    by_cases hmark : negationMark <+: before
    · obtain ⟨rest, rfl⟩ := hmark
      have hrest : QuoteState.outside.after rest = .outside := h
      refine .inr ⟨_, _, afterNegation?_eq_some_iff.2 (List.append_assoc _ _ _),
        afterNegation?_eq_some_iff.2 (List.append_assoc _ _ _), .literal rest after hrest⟩
    · have hnone : ∀ v, afterNegation? (before ++ (Literal.encode v ++ after)) = none := by
        intro v
        rw [Option.eq_none_iff_forall_ne_some]
        intro rest hrest
        exact hmark ((hbegins v).1 ⟨rest, (afterNegation?_eq_some_iff.1 hrest).symm⟩)
      exact .inl ⟨hnone v, hnone v'⟩

lemma separatorAt?_append_cons {texts : List (List Char)} {c : Char} (hc : ∀ w ∈ texts, c ∉ w)
    (q : QuoteState) (d : Char) (s t : List Char) :
    separatorAt? texts q (d :: (s ++ c :: t)) = separatorAt? texts q (d :: s) := by
  rw [separatorAt?, separatorAt?]
  split
  · apply List.find?_congr
    intro w hw
    rw [Bool.eq_iff_iff, List.isPrefixOf_iff_prefix, List.isPrefixOf_iff_prefix]
    exact prefix_append_cons_iff (hc w hw) (d :: s) t
  · rfl

/-- A text is cut in its part before a character that no separator holds, or after that part. -/
lemma cutFrom?_append_cons {texts : List (List Char)} {c : Char} (hc : ∀ w ∈ texts, c ∉ w)
    (q : QuoteState) (s t : List Char) :
    cutFrom? texts q (s ++ c :: t) = match cutFrom? texts q s with
      | some cut => some { cut with after := cut.after ++ c :: t }
      | none => (cutFrom? texts (q.after s) (c :: t)).map fun cut =>
          { cut with before := s ++ cut.before } := by
  induction s generalizing q with
  | nil => simp [cutFrom?]
  | cons d s ih =>
    rw [List.cons_append, cutFrom?, cutFrom?, separatorAt?_append_cons hc]
    cases hsep : separatorAt? texts q (d :: s) with
    | some separator =>
      have hle := (separatorAt?_eq_some hsep).2.length_le
      simp only
      rw [← List.cons_append, List.drop_append_of_le_length hle]
    | none =>
      simp only
      rw [ih]
      cases cutFrom? texts (q.next d) s with
      | some cut => rfl
      | none => simp [Function.comp_def]

/-- Texts with a varying literal are cut alike, and the literal goes to one of the sides. -/
lemma cut?_varies {texts : List (List Char)} (htexts : ∀ w ∈ texts, '\'' ∉ w) {n : Nat}
    {s s' : List Char} (h : TextVaries v v' .outside n s s') :
    (cut? texts s = none ∧ cut? texts s' = none) ∨
      ∃ cut cut' n₁ n₂, cut? texts s = some cut ∧ cut? texts s' = some cut' ∧
        cut.separator = cut'.separator ∧ TextVaries v v' .outside n₁ cut.before cut'.before ∧
        TextVaries v v' .outside n₂ cut.after cut'.after ∧ n₁ + n₂ = n := by
  cases h with
  | same =>
    cases hcut : cut? texts s with
    | none => exact .inl ⟨rfl, rfl⟩
    | some cut => exact .inr ⟨cut, cut, 0, 0, rfl, rfl, rfl, .same _, .same _, rfl⟩
  | literal before after h =>
    have happend : ∀ v, cut? texts (before ++ (Literal.encode v ++ after)) =
        match cut? texts before with
        | some cut => some { cut with after := cut.after ++ (Literal.encode v ++ after) }
        | none => (cut? texts after).map fun cut =>
            { cut with before := before ++ (Literal.encode v ++ cut.before) } := by
      intro v
      have hliteral := cutFrom?_opaque_append texts (isOpaque_encode v) after
      rw [after_encode, Literal.encode, List.cons_append] at hliteral
      rw [cut?, Literal.encode, List.cons_append, cutFrom?_append_cons htexts, h, hliteral, ← cut?,
        ← cut?, Option.map_map]
      rfl
    rw [happend, happend]
    cases hcut : cut? texts before with
    | some cut =>
      obtain ⟨hs, hmem, hbefore⟩ := cutFrom?_eq_some hcut
      have hafter : QuoteState.outside.after cut.after = .outside := by
        rw [hs, QuoteState.after_append, QuoteState.after_append, hbefore,
          after_outside_of_no_quote (htexts _ hmem)] at h
        exact h
      exact .inr ⟨_, _, 0, 1, rfl, rfl, rfl, .same _, .literal _ _ hafter, rfl⟩
    | none =>
      cases cut? texts after with
      | some cut => exact .inr ⟨_, _, 1, 0, rfl, rfl, rfl, .literal _ _ h, .same _, rfl⟩
      | none => exact .inl ⟨rfl, rfl⟩

lemma isSome_cut?_varies {texts : List (List Char)} (htexts : ∀ w ∈ texts, '\'' ∉ w) {n : Nat}
    {s s' : List Char} (h : TextVaries v v' .outside n s s') :
    (cut? texts s).isSome = (cut? texts s').isSome := by
  rcases cut?_varies htexts h with ⟨h, h'⟩ | ⟨cut, cut', _, _, h, h', -⟩
  · rw [h, h']
  · rw [h, h']
    rfl

lemma splitAtConnective?_varies {n : Nat} {s s' : List Char}
    (h : TextVaries v v' .outside n s s') :
    (splitAtConnective? s = none ∧ splitAtConnective? s' = none) ∨
      ∃ connective left right left' right' n₁ n₂,
        splitAtConnective? s = some ⟨connective, left, right⟩ ∧
        splitAtConnective? s' = some ⟨connective, left', right'⟩ ∧
        TextVaries v v' .outside n₁ left left' ∧ TextVaries v v' .outside n₂ right right' ∧
        n₁ + n₂ = n := by
  have htexts : ∀ w ∈ separators.map Prod.snd, '\'' ∉ w := by decide
  unfold splitAtConnective?
  rcases cut?_varies htexts h with ⟨h, h'⟩ | ⟨cut, cut', n₁, n₂, h, h', hsep, hleft, hright, hn⟩
  · rw [h, h']
    exact .inl ⟨rfl, rfl⟩
  · rw [h, h']
    simp only [bind, Option.bind, ← hsep]
    cases separators.find? (·.2 == cut.separator) with
    | none => exact .inl ⟨rfl, rfl⟩
    | some found =>
      exact .inr ⟨found.1, cut.before, cut.after, cut'.before, cut'.after, n₁, n₂, rfl, rfl, hleft,
        hright, hn⟩

/-- A group is closed in a part of a text, or after it. -/
lemma takeGroup?_append (q : QuoteState) (depth : Nat) (s : List Char) :
    (∃ group rest, ∀ t, takeGroup? q depth (s ++ t) = some (group, rest ++ t)) ∨
      ∃ depth', ∀ t, takeGroup? q depth (s ++ t) =
        (takeGroup? (q.after s) depth' t).map fun (group, rest) => (s ++ group, rest) := by
  induction s generalizing q depth with
  | nil => exact .inr ⟨depth, fun t => by simp⟩
  | cons c s ih =>
    by_cases hclose : q.isStructural c = true ∧ c = ')' ∧ depth = 0
    · refine .inl ⟨[], s, fun t => ?_⟩
      rw [List.cons_append, takeGroup?, if_pos hclose]
    · rcases ih (q.next c) (if q.isStructural c = true ∧ c = '(' then depth + 1
        else if q.isStructural c = true ∧ c = ')' then depth - 1 else depth) with
        ⟨group, rest, h⟩ | ⟨depth', h⟩
      · refine .inl ⟨c :: group, rest, fun t => ?_⟩
        rw [List.cons_append, takeGroup?, if_neg hclose]
        simp only [h, Option.map_some]
      · refine .inr ⟨depth', fun t => ?_⟩
        rw [List.cons_append, takeGroup?, if_neg hclose]
        simp only [h, Option.map_map, QuoteState.after_cons]
        rfl

/-- Texts with a varying literal start with like groups, and the literal is in the group or after
it. -/
lemma takeGroup?_varies {n : Nat} {s s' : List Char} (h : TextVaries v v' .outside n s s') :
    (takeGroup? .outside 0 s = none ∧ takeGroup? .outside 0 s' = none) ∨
      ∃ group rest group' rest' n₁ n₂, takeGroup? .outside 0 s = some (group, rest) ∧
        takeGroup? .outside 0 s' = some (group', rest') ∧
        TextVaries v v' .outside n₁ group group' ∧ TextVaries v v' .outside n₂ rest rest' ∧
        n₁ + n₂ = n := by
  cases h with
  | same =>
    cases htake : takeGroup? .outside 0 s with
    | none => exact .inl ⟨rfl, rfl⟩
    | some taken =>
      exact .inr ⟨taken.1, taken.2, taken.1, taken.2, 0, 0, rfl, rfl, .same _, .same _, rfl⟩
  | literal before after h =>
    rcases takeGroup?_append .outside 0 before with ⟨group, rest, htake⟩ | ⟨depth, htake⟩
    · have hnil := htake []
      rw [List.append_nil, List.append_nil] at hnil
      obtain ⟨hclosed, rfl⟩ := isClosed_of_takeGroup? hnil
      have hrest : QuoteState.outside.after rest = .outside := by
        rw [QuoteState.after_append, hclosed.after, QuoteState.after_cons, next_closing] at h
        exact h
      exact .inr ⟨_, _, _, _, 0, 1, htake _, htake _, .same _, .literal _ _ hrest, rfl⟩
    · have hliteral : ∀ v, takeGroup? .outside 0 (before ++ (Literal.encode v ++ after)) =
          (takeGroup? .outside depth after).map fun (group, rest) =>
            (before ++ (Literal.encode v ++ group), rest) := by
        intro v
        rw [htake, h, takeGroup?_opaque_append (isOpaque_encode v), after_encode, Option.map_map]
        rfl
      rw [hliteral, hliteral]
      cases takeGroup? .outside depth after with
      | none => exact .inl ⟨rfl, rfl⟩
      | some taken => exact .inr ⟨_, _, _, _, 1, 0, rfl, rfl, .literal _ _ h, .same _, rfl⟩

/-! ### Written comparisons -/

lemma exists_of_append_eq_append {before rest x t : List Char} (hx : '\'' ∉ x)
    (h : before ++ '\'' :: rest = x ++ t) : ∃ a, before = x ++ a ∧ t = a ++ '\'' :: rest := by
  rcases List.append_eq_append_iff.1 h with ⟨a, hxeq, hrest⟩ | ⟨a, hbefore, ht⟩
  · cases a with
    | nil => exact ⟨[], by rw [hxeq, List.append_nil, List.append_nil], hrest.symm⟩
    | cons c a =>
      obtain ⟨rfl, -⟩ := List.cons_eq_cons.1 hrest
      exact absurd (by rw [hxeq]; simp) hx
  · exact ⟨a, hbefore, ht⟩

lemma writtenAs_literal {before after field token : List Char} {comparator : Comparator}
    (h : QuoteState.outside.after before = .outside)
    (hwritten : WrittenAs (before ++ (Literal.encode v ++ after)) field comparator token)
    (v' : List Char) : ∃ token',
      WrittenAs (before ++ (Literal.encode v' ++ after)) field comparator token' ∧
      TextVaries v v' .outside 1 token token' := by
  obtain ⟨x, hs, -, hquote, hany⟩ := hwritten.exists_before
  obtain ⟨a, rfl, rfl⟩ := exists_of_append_eq_append hquote hs
  rw [QuoteState.after_append, after_outside_of_no_quote hquote] at h
  refine ⟨a ++ (Literal.encode v' ++ after), ?_, .literal a after h⟩
  rw [List.append_assoc]
  apply hany
  · simp [Literal.encode]
  · intro c hc
    cases a with
    | nil =>
      cases hc
      decide
    | cons d a =>
      cases hc
      exact hwritten.head_token c rfl

lemma ofText?_varies {n : Nat} {s s' : List Char} (h : TextVaries v v' .outside n s s') :
    (WrittenComparison.ofText? s = none ∧ WrittenComparison.ofText? s' = none) ∨
      ∃ field comparator token token',
        WrittenComparison.ofText? s = some ⟨field, comparator, token⟩ ∧
        WrittenComparison.ofText? s' = some ⟨field, comparator, token'⟩ ∧
        TextVaries v v' .outside n token token' := by
  cases h with
  | same =>
    cases hwritten : WrittenComparison.ofText? s with
    | none => exact .inl ⟨rfl, rfl⟩
    | some written => exact .inr ⟨_, _, _, _, rfl, rfl, .same _⟩
  | literal before after h =>
    cases hwritten : WrittenComparison.ofText? (before ++ (Literal.encode v ++ after)) with
    | some written =>
      obtain ⟨token', hwritten', hvaries⟩ := writtenAs_literal h (writtenAs_of_ofText? hwritten) v'
      exact .inr ⟨_, _, _, _, rfl, ofText?_of_writtenAs hwritten', hvaries⟩
    | none =>
      refine .inl ⟨rfl, Option.eq_none_iff_forall_ne_some.2 fun written hwritten' => ?_⟩
      obtain ⟨token, hback, -⟩ := writtenAs_literal h (writtenAs_of_ofText? hwritten') v
      rw [ofText?_of_writtenAs hback] at hwritten
      cases hwritten

lemma withoutBrackets?_varies {n : Nat} {s s' : List Char} (h : TextVaries v v' .outside n s s') :
    (withoutBrackets? s = none ∧ withoutBrackets? s' = none) ∨
      ∃ inner inner', withoutBrackets? s = some inner ∧ withoutBrackets? s' = some inner' ∧
        TextVaries v v' .outside n inner inner' := by
  cases h with
  | same =>
    cases hinner : withoutBrackets? s with
    | none => exact .inl ⟨rfl, rfl⟩
    | some inner => exact .inr ⟨inner, inner, rfl, rfl, .same _⟩
  | literal before after h =>
    cases before with
    | nil => exact .inl ⟨rfl, rfl⟩
    | cons c before =>
      by_cases hc : c = '['
      · subst hc
        rcases List.eq_nil_or_concat after with rfl | ⟨after, d, rfl⟩
        · have hnone : ∀ v,
              withoutBrackets? ('[' :: (before ++ (Literal.encode v ++ []))) = none := by
            intro v
            obtain ⟨s, hs⟩ := encode_concat v
            rw [withoutBrackets?, List.append_nil, hs, ← List.append_assoc, List.getLast?_concat,
              if_neg (by decide)]
          exact .inl ⟨hnone v, hnone v'⟩
        · rw [List.concat_eq_append]
          have hlast : ∀ v, withoutBrackets?
              ('[' :: (before ++ (Literal.encode v ++ (after ++ [d])))) =
                if d = ']' then some (before ++ (Literal.encode v ++ after)) else none := by
            intro v
            rw [withoutBrackets?, ← List.append_assoc, ← List.append_assoc, List.getLast?_concat,
              List.dropLast_concat, List.append_assoc]
            simp only [Option.some.injEq]
          rw [List.cons_append, List.cons_append, hlast, hlast]
          split
          · exact .inr ⟨_, _, rfl, rfl, .literal before after h⟩
          · exact .inl ⟨rfl, rfl⟩
      · have hhead : ∀ v, withoutBrackets? (c :: before ++ (Literal.encode v ++ after)) = none :=
          fun v => withoutBrackets?_of_head fun hhead => hc (Option.some.inj hhead)
        exact .inl ⟨hhead v, hhead v'⟩

/-- The pieces of a split: those before the one with the literal, that one, and those after it. -/
lemma exists_splitFrom_literal (delimiter : Char) {q : QuoteState} {before : List Char}
    (h : q.after before = .outside) (after : List Char) :
    ∃ pre x y post, (∀ v, splitFrom delimiter q (before ++ (Literal.encode v ++ after)) =
        pre ++ (x ++ (Literal.encode v ++ y)) :: post) ∧
      (if pre = [] then q else .outside).after x = .outside := by
  induction before generalizing q with
  | nil =>
    rw [QuoteState.after_nil] at h
    subst h
    cases hsplit : splitFrom delimiter .outside after with
    | nil => exact absurd hsplit (splitFrom_ne_nil _ _ _)
    | cons y post =>
      refine ⟨[], [], y, post, fun v => ?_, rfl⟩
      rw [List.nil_append, splitFrom_opaque_append delimiter (isOpaque_encode v), after_encode,
        hsplit]
      rfl
  | cons c before ih =>
    obtain ⟨pre, x, y, post, hsplit, hx⟩ := ih (q := q.next c) h
    by_cases hdelimiter : (q.isStructural c && c == delimiter) = true
    · refine ⟨[] :: pre, x, y, post, fun v => ?_, ?_⟩
      · rw [List.cons_append, splitFrom, if_pos hdelimiter, hsplit]
        rfl
      · rw [Bool.and_eq_true] at hdelimiter
        rw [QuoteState.next_of_isStructural hdelimiter.1, ite_self] at hx
        rw [if_neg (List.cons_ne_nil _ _), hx]
    · cases pre with
      | nil =>
        refine ⟨[], c :: x, y, post, fun v => ?_, ?_⟩
        · rw [List.cons_append, splitFrom, if_neg hdelimiter, hsplit]
          rfl
        · exact hx
      | cons piece pre =>
        refine ⟨(c :: piece) :: pre, x, y, post, fun v => ?_, ?_⟩
        · rw [List.cons_append, splitFrom, if_neg hdelimiter, hsplit]
          rfl
        · exact hx

end RecordFilter.Proofs
