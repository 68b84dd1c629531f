import Mathlib.Logic.Function.Iterate
import Mathlib.Order.Filter.AtTopBot.Basic
import Mathlib.Order.Filter.Finite
import RecordFilter.Proofs.ResolvedParts

/-!
# How reading a fragment ends

A step of reading asks for the groups of a fragment and for the parts of what is left of it. A
placeholder can be longer than its group, so these parts can be longer than the fragment. But the
groups are gone from them: a part has fewer parentheses outside literals than the fragment, or the
fragment has none and the part is shorter. Reading by steps therefore comes to an end, and it ends
with what the reader of fragments finds (`reading_terminates`).
-/

namespace RecordFilter.Proofs
open RecordFilter.Text RecordFilter.Parser RecordFilter.Number

/-- What is made of a reader rests on finitely many of its answers, to fragments of which `P` holds. -/
def DependsOn {α : Type} (P : List Char → Prop) (read : Reader) (f : Reader → α) : Prop :=
  ∃ questions : List (List Char × Slots), (∀ question ∈ questions, P question.1) ∧
    ∀ read' : Reader, (∀ question ∈ questions,
      read' question.1 question.2 = read question.1 question.2) → f read' = f read

namespace DependsOn

variable {P Q : List Char → Prop} {read : Reader}

lemma const {α : Type} (a : α) : DependsOn P read fun _ => a :=
  ⟨[], by simp, fun _ _ => rfl⟩

lemma ask {fragment : List Char} (h : P fragment) (slots : Slots) :
    DependsOn P read fun read => read fragment slots :=
  ⟨[(fragment, slots)], by simpa using h, fun _ hagree => hagree _ List.mem_cons_self⟩

lemma mono {α : Type} {f : Reader → α} (h : DependsOn P read f)
    (hPQ : ∀ fragment, P fragment → Q fragment) : DependsOn Q read f := by
  obtain ⟨questions, hquestions, hsame⟩ := h
  exact ⟨questions, fun question hmem => hPQ _ (hquestions question hmem), hsame⟩

/-- Only what `read` leads to is asked for in the second place. -/
lemma bind {α β : Type} {f : Reader → Except Failure α} {g : Reader → α → Except Failure β}
    (hf : DependsOn P read f) (hg : ∀ a, f read = .ok a → DependsOn P read fun read => g read a) :
    DependsOn P read fun read => f read >>= g read := by
  obtain ⟨first, hfirst, hsame⟩ := hf
  cases hresult : f read with
  | error failure =>
    refine ⟨first, hfirst, fun read' hagree => ?_⟩
    dsimp only
    rw [hsame read' hagree, hresult]
    rfl
  | ok a =>
    obtain ⟨second, hsecond, hsame'⟩ := hg a hresult
    refine ⟨first ++ second, fun question hmem => ?_, fun read' hagree => ?_⟩
    · exact (List.mem_append.1 hmem).elim (hfirst question) (hsecond question)
    · have hleft := hsame read' fun question hmem =>
        hagree question (List.mem_append_left _ hmem)
      have hright := hsame' read' fun question hmem =>
        hagree question (List.mem_append_right _ hmem)
      dsimp only at hright ⊢
      rw [hleft, hresult]
      exact hright

end DependsOn

/-- `source` is the text of a group that stands outside literals and all other groups, in a text
that is read from state `q`. -/
def HasGroup (q : QuoteState) (s source : List Char) : Prop :=
  IsClosed source ∧ ∃ before after, s = before ++ '(' :: (source ++ ')' :: after) ∧
    openAfter? q 0 before = some 0 ∧ q.after before = .outside

namespace HasGroup

variable {q : QuoteState} {s source : List Char}

lemma here (h : IsClosed source) (rest : List Char) :
    HasGroup .outside ('(' :: (source ++ ')' :: rest)) source :=
  ⟨h, [], rest, rfl, rfl, rfl⟩

lemma char {c : Char} (hopen : ¬(q.isStructural c = true ∧ c = '('))
    (hclose : ¬(q.isStructural c = true ∧ c = ')')) (h : HasGroup (q.next c) s source) :
    HasGroup q (c :: s) source := by
  obtain ⟨hsource, before, after, rfl, hbefore, hafter⟩ := h
  refine ⟨hsource, c :: before, after, rfl, ?_, hafter⟩
  rw [openAfter?, if_neg hopen, if_neg hclose, hbefore]

lemma behind {first : List Char} (hfirst : IsClosed first) (h : HasGroup .outside s source) :
    HasGroup .outside ('(' :: (first ++ ')' :: s)) source := by
  obtain ⟨hsource, before, after, rfl, hbefore, hafter⟩ := h
  refine ⟨hsource, '(' :: (first ++ ')' :: before), after, by simp, ?_, ?_⟩
  · rw [openAfter?_group hfirst, hbefore]
  · rw [after_group hfirst, hafter]

lemma length_lt (h : HasGroup q s source) : source.length < s.length := by
  obtain ⟨-, before, after, rfl, -⟩ := h
  simp only [List.length_append, List.length_cons]
  omega

lemma countParentheses_lt (h : HasGroup q s source) :
    countParentheses .outside source < countParentheses q s := by
  obtain ⟨hsource, before, after, rfl, -, hafter⟩ := h
  rw [countParentheses_append, hafter, countParentheses_group hsource]
  omega

end HasGroup

/-- The fragments that one step of reading asks for: the groups of the fragment, and the parts of what
is left once they are replaced. -/
inductive Consults (read : Reader) (fragment : List Char) : List Char → Prop
  | group {source : List Char} (h : HasGroup .outside (trim fragment) source) :
      Consults read fragment source
  | part {slots slots' : Slots} {flat part : List Char}
      (hflat : resolveGroups read (trim fragment) slots = .ok (flat, slots'))
      (hpart : IsNextPart (trim flat) part) : Consults read fragment part

section Steps

variable (policy : Policy) (read : Reader)

lemma dependsOn_resolveWith (whole : List Char) (q : QuoteState) (s : List Char) (slots : Slots) :
    DependsOn (HasGroup q s) read fun read => resolveWith read whole q s slots := by
  induction scanCase q s generalizing slots with
  | nil q =>
    simp only [resolveWith]
    exact .const _
  | char hopen hclose _ ih =>
    simp only [resolveWith_char hopen hclose]
    exact ((ih slots).mono fun _ h => h.char hopen hclose).bind fun _ _ => .const _
  | closing s =>
    simp only [resolveWith_closing]
    exact .const _
  | unclosed htake =>
    simp only [resolveWith_unclosed htake]
    exact .const _
  | group hsource _ ih =>
    simp only [resolveWith_group hsource]
    exact (DependsOn.ask (.here hsource _) slots).bind fun _ _ =>
      ((ih _).mono fun _ h => h.behind hsource).bind fun _ _ => .const _

/-- A step of reading asks for nothing but groups and parts. -/
theorem dependsOn_readStep (s : List Char) (slots : Slots) :
    DependsOn (Consults read s) read fun read => readStep policy read s slots := by
  have hgroups : DependsOn (Consults read s) read fun read => resolveGroups read (trim s) slots := by
    simp only [resolveGroups_eq_resolveWith]
    exact (dependsOn_resolveWith read _ _ _ slots).mono fun _ h => .group h
  simp only [readStep]
  refine hgroups.bind ?_
  rintro ⟨flat, slots₁⟩ hflat
  dsimp only
  cases placeholderNumber? (trim flat) with
  | some number => exact .const _
  | none =>
    dsimp only
    cases hnot : afterNegation? (trim flat) with
    | some rest =>
      exact (DependsOn.ask (.part hflat (.negated hnot)) slots₁).bind fun _ _ => .const _
    | none =>
      dsimp only
      cases hsplit : splitAtConnective? (trim flat) with
      | some split =>
        exact (DependsOn.ask (.part hflat (.left hsplit)) slots₁).bind fun left _ =>
          (DependsOn.ask (.part hflat (.right hsplit)) left.2).bind fun _ _ => .const _
      | none => exact .const _

end Steps

/-- How many parentheses a fragment has outside literals, and how many characters. -/
def fragmentSize (s : List Char) : Nat × Nat :=
  (countParentheses .outside s, s.length)

/-- The first fragment has fewer parentheses outside literals, or as many and fewer characters. -/
def IsSmaller (part fragment : List Char) : Prop :=
  Prod.Lex (· < ·) (· < ·) (fragmentSize part) (fragmentSize fragment)

lemma isSmaller_iff {part fragment : List Char} :
    IsSmaller part fragment ↔
      countParentheses .outside part < countParentheses .outside fragment ∨
        countParentheses .outside part = countParentheses .outside fragment ∧
          part.length < fragment.length := by
  rw [IsSmaller, Prod.lex_iff, fragmentSize, fragmentSize]

lemma wellFounded_isSmaller : WellFounded IsSmaller :=
  InvImage.wf fragmentSize (Nat.lt_wfRel.wf.prod_lex Nat.lt_wfRel.wf)

/-- Whatever reads the groups, what a step asks for is smaller than the fragment. -/
theorem Consults.isSmaller {read : Reader} {fragment part : List Char}
    (h : Consults read fragment part) : IsSmaller part fragment := by
  rw [isSmaller_iff, ← countParentheses_trim fragment]
  cases h with
  | group h => exact .inl h.countParentheses_lt
  | @part slots slots' flat _ hflat hpart =>
    have hnone : countParentheses .outside part = 0 := by
      have hle := hpart.countParentheses_le
      rw [countParentheses_trim, countParentheses_of_resolveGroups hflat] at hle
      exact Nat.le_zero.1 hle
    rcases Nat.eq_zero_or_pos (countParentheses .outside (trim fragment)) with hzero | hpos
    · -- Without groups the parts are cut from the fragment itself.
      rw [resolveGroups_of_countParentheses hzero] at hflat
      cases hflat
      have hlt := hpart.length_lt
      have htrim := length_trim_le fragment
      rw [trim_trim] at hlt
      exact .inr ⟨by rw [hnone, hzero], by omega⟩
    · exact .inl (by omega)

section ReadFragment

variable {policy : Policy} {s : List Char} {slots : Slots}

lemma readFlat_trim : readFlat policy (trim s) slots = readFlat policy s slots := by
  conv_lhs => rw [readFlat, trim_trim]
  conv_rhs => rw [readFlat]

/-- A fragment without groups is read by its words. -/
lemma readFragment_of_countParentheses (h : countParentheses .outside s = 0) :
    readFragment policy s slots = readFlat policy s slots := by
  rw [readFragment, ← resolveWith_readFragment,
    resolveWith_of_countParentheses (by rw [countParentheses_trim, h])]
  exact readFlat_trim

lemma IsNextPart.readFragment {flat part : List Char} (h : IsNextPart (trim flat) part)
    (hflat : countParentheses .outside flat = 0) :
    readFragment policy part slots = readFlat policy part slots := by
  have hle := h.countParentheses_le
  rw [countParentheses_trim, hflat] at hle
  exact readFragment_of_countParentheses (Nat.le_zero.1 hle)

end ReadFragment

/-- What is left of a fragment is read by its words as it is if its parts are read as fragments. -/
lemma readStep_readFragment_of_resolve {policy : Policy} {s flat : List Char} {slots slots' : Slots}
    (hflat : resolve policy (trim s) slots = .ok (flat, slots')) :
    readStep policy (readFragment policy) s slots = readFlat policy flat slots' := by
  have hgroups : resolveGroups (readFragment policy) (trim s) slots = .ok (flat, slots') := by
    rw [resolveGroups_readFragment, hflat]
  have hpart : ∀ {part : List Char}, IsNextPart (trim flat) part → ∀ slots,
      readFragment policy part slots = readFlat policy part slots :=
    fun h _ => h.readFragment (countParentheses_of_resolveGroups hgroups)
  rw [readStep, hgroups]
  simp only [bind, Except.bind]
  cases hnumber : placeholderNumber? (trim flat) with
  | some number =>
    rw [readFlat_placeholder hnumber]
    dsimp only
    cases slots'.take? number <;> rfl
  | none =>
    cases hnot : afterNegation? (trim flat) with
    | some rest =>
      rw [readFlat_negation hnumber hnot]
      simp only [hpart (.negated hnot)]
      rfl
    | none =>
      cases hsplit : splitAtConnective? (trim flat) with
      | some split =>
        rw [readFlat_joined hnumber hnot hsplit]
        simp only [hpart (.left hsplit), hpart (.right hsplit)]
        rfl
      | none =>
        rw [readFlat_comparison hnumber hnot hsplit]
        rfl

/-- If its parts are read as fragments of their own, a fragment is read all the same. -/
theorem readStep_readFragment (policy : Policy) :
    readStep policy (readFragment policy) = readFragment policy := by
  funext s slots
  rw [readFragment, ← resolve]
  cases hflat : resolve policy (trim s) slots with
  | error failure =>
    rw [readStep, resolveGroups_readFragment, hflat]
    rfl
  | ok result => exact readStep_readFragment_of_resolve hflat

/-- Enough steps read a fragment, whatever the reader is that they start from. -/
theorem exists_depth (policy : Policy) (s : List Char) (slots : Slots) :
    ∃ depth, ∀ n ≥ depth, ∀ read : Reader,
      (readStep policy)^[n] read s slots = readFragment policy s slots := by
  induction s using wellFounded_isSmaller.induction generalizing slots with
  | _ s ih =>
    obtain ⟨questions, hquestions, hsame⟩ := dependsOn_readStep policy (readFragment policy) s slots
    have hanswers : ∀ᶠ n in Filter.atTop, ∀ question ∈ questions, ∀ read : Reader,
        (readStep policy)^[n] read question.1 question.2 =
          readFragment policy question.1 question.2 := by
      refine (Filter.eventually_all_finite questions.finite_toSet).2 fun question hmem => ?_
      exact Filter.eventually_atTop.2 (ih _ (hquestions question hmem).isSmaller _)
    obtain ⟨depth, hdepth⟩ := Filter.eventually_atTop.1 hanswers
    refine ⟨depth + 1, fun n hn read => ?_⟩
    obtain ⟨m, rfl⟩ := Nat.exists_eq_add_of_le' (Nat.le_of_add_left_le hn)
    have hstep : readStep policy ((readStep policy)^[m] read) s slots =
        readStep policy (readFragment policy) s slots :=
      hsame _ fun question hmem => hdepth m (by omega) question hmem read
    rw [Function.iterate_succ_apply', hstep, readStep_readFragment]

/-- The comparison `A eq 1` is read from any slots and takes nothing out of them. -/
lemma readFragment_comparison (policy : Policy) (slots : Slots) :
    readFragment policy "A eq 1".toList slots =
      .ok (.comparison "A" .equal (.single (.integer 1)), slots) := by
  have hcomparison : readComparison policy slots "A eq 1".toList =
      .ok (.comparison "A" .equal (.single (.integer 1))) := by
    cases policy <;> rfl
  have htrim : trim "A eq 1".toList = "A eq 1".toList := by decide
  rw [readFragment_of_countParentheses (by decide),
    readFlat_comparison (by decide) (by decide) (by decide), htrim, hcomparison]
  rfl

lemma resolve_longer (policy : Policy) {slots : Slots} (h : 1000 ≤ slots.length) :
    ∃ flat slots', resolve policy "(A eq 1)".toList slots = .ok (flat, slots') ∧
      "(A eq 1)".toList.length < flat.length := by
  have hclosed : IsClosed "A eq 1".toList := ⟨by decide, by decide⟩
  have hresolve : resolve policy "(A eq 1)".toList slots = .ok (placeholder slots.length,
      slots.bind "A eq 1".toList (.comparison "A" .equal (.single (.integer 1)))) := by
    have hgroup : resolve policy "(A eq 1)".toList slots = _ :=
      resolveFrom_group hclosed [] slots
    rw [hgroup]
    simp only [readFragment_comparison, bind, Except.bind, resolveFrom, pure, Except.pure,
      List.append_nil]
  refine ⟨_, _, hresolve, ?_⟩
  have hdigits : 3 < (digitsOf slots.length).length := by
    rw [← Nat.not_le, digitsOf, Nat.length_toDigits_le_iff (by decide) (by decide)]
    omega
  rw [placeholder, List.length_append]
  have hmark : placeholderMark.length = 5 := by decide
  have hsource : "(A eq 1)".toList.length = 8 := by decide
  omega

/-! ### The recursion ends -/

/-- Replacing the groups of a fragment leaves no parenthesis outside literals, neither in the text nor
in any part of it: such a part binds no group and comes back as it was, and whether it is scanned
for groups at all makes no difference. So a step of reading asks only for smaller fragments, and
enough steps from any reader read what the parser reads, though a placeholder may be longer than the
group it stands for. -/
theorem reading_terminates (policy : Policy) :
    (∀ s slots flat slots', resolve policy s slots = .ok (flat, slots') →
      ∀ part, IsPart flat part →
        (∀ r ∈ scan part, r.isStructural = true → r.char ≠ '(' ∧ r.char ≠ ')') ∧
        ∀ slots, resolve policy part slots = .ok (part, slots)) ∧
    (∀ read s slots, resolveGroups read s slots = resolveWith read s .outside s slots) ∧
    resolveGroups (readFragment policy) = resolve policy ∧
    WellFounded IsSmaller ∧
    (∀ read s slots, DependsOn (IsSmaller · s) read fun read => readStep policy read s slots) ∧
    (∀ s slots, ∃ depth, ∀ n ≥ depth, ∀ read,
      (readStep policy)^[n] read s slots = readFragment policy s slots) ∧
    ∀ slots : Slots, 1000 ≤ slots.length →
      ∃ flat slots', resolve policy "(A eq 1)".toList slots = .ok (flat, slots') ∧
        "(A eq 1)".toList.length < flat.length := by
  refine ⟨fun s slots flat slots' hflat part hpart => ?_, resolveGroups_eq_resolveWith, ?_,
    wellFounded_isSmaller, fun read s slots => ?_, exists_depth policy,
    fun _ => resolve_longer policy⟩
  · rw [← resolveGroups_readFragment] at hflat
    have hnone : countParentheses .outside part = 0 :=
      hpart.countParentheses_eq_zero (countParentheses_of_resolveGroups hflat)
    refine ⟨(countParentheses_eq_zero_iff 0 .outside part).1 hnone, fun slots => ?_⟩
    rw [← resolveGroups_readFragment, resolveGroups_of_countParentheses hnone]
  · funext s slots
    exact resolveGroups_readFragment policy s slots
  · exact (dependsOn_readStep policy read s slots).mono fun _ h => h.isSmaller

/-- The parenthesis in the literal is none of the structure; both the negated placeholder and the
comparison behind the connective are parts of what is left of the text. -/
theorem reading_terminates_negatedGroup :
    resolve .strict "not (A eq 1) and B eq '('".toList [] =
        .ok ("not @Sub_0 and B eq '('".toList,
          [⟨"A eq 1".toList, some (.comparison "A" .equal (.single (.integer 1)))⟩]) ∧
      IsPart "not @Sub_0 and B eq '('".toList "B eq '('".toList ∧
      ∀ slots, resolve .strict "B eq '('".toList slots = .ok ("B eq '('".toList, slots) := by
  have hresolve : resolve .strict "not (A eq 1) and B eq '('".toList [] =
      .ok ("not @Sub_0 and B eq '('".toList,
        [⟨"A eq 1".toList, some (.comparison "A" .equal (.single (.integer 1)))⟩]) := by
    decide +kernel
  have hsplit : splitAtConnective? "@Sub_0 and B eq '('".toList =
      some ⟨.and, "@Sub_0".toList, "B eq '('".toList⟩ := rfl
  have hpart : IsPart "not @Sub_0 and B eq '('".toList "B eq '('".toList :=
    .next (.next .self (.negated (by decide))) (.right hsplit)
  exact ⟨hresolve, hpart, ((reading_terminates .strict).1 _ _ _ _ hresolve _ hpart).2⟩

end RecordFilter.Proofs
