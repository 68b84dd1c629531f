import RecordFilter.Proofs.ScannedText

/-!
# Literals in the scan

The scan finds the end of a literal by its states, the reader of literals by the characters alone.
Both find the same end (`decode_scanned`), also where a literal has more backslashes than it needs,
or a backslash that stands for itself. A literal that was written therefore never shows in the scan
of what surrounds it (`scan_around_literal`).
-/

namespace RecordFilter.Proofs
open RecordFilter.Text

/-- A written literal carries no structure and closes itself: none of its characters is read as
structure, the text stands outside behind it, and the rest is read as it is read alone. -/
theorem scan_around_literal {before : List Char} (h : QuoteState.outside.after before = .outside)
    (v after : List Char) :
    ∃ readings, scan (before ++ (Literal.encode v ++ after)) =
        scan before ++ (readings ++
          (scan after).map (moved (byteLength (before ++ Literal.encode v)))) ∧
      readings.map Reading.char = Literal.encode v ∧
      (∀ r ∈ readings, r.isStructural = false) ∧
      QuoteState.outside.after (before ++ Literal.encode v) = .outside := by
  have hafter : QuoteState.outside.after (before ++ Literal.encode v) = .outside := by
    rw [QuoteState.after_append, h, after_encode]
  have hbefore : scan (before ++ Literal.encode v) =
      scan before ++ scanFrom (byteLength before) .outside (Literal.encode v) := by
    rw [scan, scan, scanFrom_append, h, Nat.zero_add]
  refine ⟨scanFrom (byteLength before) .outside (Literal.encode v), ?_, map_char_scanFrom _ _ _,
    (isOpaque_iff _ _ _).1 (isOpaque_encode v), hafter⟩
  rw [← List.append_assoc, scan_append hafter, hbefore, List.append_assoc]

/-- A path that ends in a backslash, as the value of the first of two comparisons: only the last of
its backslashes is escaped. -/
theorem scan_around_literal_path :
    QuoteState.outside.after "Path eq ".toList = .outside ∧
      Literal.encode "C:\\temp\\".toList = "'C:\\temp\\\\'".toList ∧
      ∃ readings, scan ("Path eq ".toList ++
          (Literal.encode "C:\\temp\\".toList ++ " or Name eq 'é'".toList)) =
        scan "Path eq ".toList ++ (readings ++ (scan " or Name eq 'é'".toList).map
          (moved (byteLength ("Path eq ".toList ++ Literal.encode "C:\\temp\\".toList)))) ∧
      readings.map Reading.char = Literal.encode "C:\\temp\\".toList ∧
      (∀ r ∈ readings, r.isStructural = false) ∧
      QuoteState.outside.after ("Path eq ".toList ++ Literal.encode "C:\\temp\\".toList) =
        .outside := by
  have hbefore : QuoteState.outside.after "Path eq ".toList = .outside := by decide
  exact ⟨hbefore, by decide, scan_around_literal hbefore _ _⟩

/-! ### Literals by their states -/

/-- For the scan a text is one literal: its first character is a quote, all that follow are read in
the literal, and there the last one closes it. -/
structure IsOneLiteral (s : List Char) : Prop where
  head : s.head? = some '\''
  one_lt_length : 1 < s.length
  later : ∀ r ∈ (scan s).tail, r.state = .inside ∨ r.state = .escaped
  after : QuoteState.outside.after s = .outside

/-- Of each backslash with a quote or another backslash behind it, from left to right, only the
second character is left. -/
def unescape : List Char → List Char
  | [] => []
  | '\\' :: '\'' :: s => '\'' :: unescape s
  | '\\' :: '\\' :: s => '\\' :: unescape s
  | c :: s => c :: unescape s

lemma unescape_pair {c : Char} (h : c = '\'' ∨ c = '\\') (s : List Char) :
    unescape ('\\' :: c :: s) = c :: unescape s := by
  rcases h with rfl | rfl <;> rfl

lemma unescape_cons {c : Char} (h : c ≠ '\\') (s : List Char) :
    unescape (c :: s) = c :: unescape s := by
  rw [unescape]
  · rintro t rfl
    exact absurd rfl h
  · rintro t rfl
    exact absurd rfl h

lemma unescape_backslash {c : Char} (h : ¬(c = '\'' ∨ c = '\\')) (s : List Char) :
    unescape ('\\' :: c :: s) = '\\' :: c :: unescape s := by
  rw [unescape, unescape_cons (fun hc => h (.inr hc))]
  · intro t _ heq
    exact h (.inl (List.cons_eq_cons.1 heq).1)
  · intro t _ heq
    exact h (.inr (List.cons_eq_cons.1 heq).1)

/-- Read from within a literal, a text stays in it and closes it with its last character. -/
def ClosesLast (offset : Nat) (s : List Char) : Prop :=
  (∀ r ∈ scanFrom offset .inside s, r.state ≠ .outside) ∧ QuoteState.inside.after s = .outside

/-- A backslash and the character behind it are both read in the literal. -/
lemma closesLast_escape_iff (offset : Nat) (c : Char) (s : List Char) :
    ClosesLast offset ('\\' :: c :: s) ↔
      ClosesLast (offset + '\\'.utf8Size + c.utf8Size) s := by
  have hescaped : QuoteState.inside.next '\\' = .escaped := rfl
  have hinside : QuoteState.escaped.next c = .inside := rfl
  simp [ClosesLast, scanFrom, hescaped, hinside]

lemma closesLast_plain_iff {c : Char} (hq : c ≠ '\'') (hb : c ≠ '\\') (offset : Nat)
    (s : List Char) : ClosesLast offset (c :: s) ↔ ClosesLast (offset + c.utf8Size) s := by
  simp [ClosesLast, scanFrom, next_inside_of_plain hq hb]

lemma not_closesLast_nil (offset : Nat) : ¬ClosesLast offset [] :=
  fun h => nomatch h.2

/-- After the opening quote the reader of literals accepts what the scan closes with the last
character. -/
lemma isSome_decodeBody_iff (offset : Nat) (s : List Char) :
    (Literal.decodeBody s).isSome = true ↔ ClosesLast offset s := by
  fun_induction Literal.decodeBody s generalizing offset with
  | case1 => simp [not_closesLast_nil]
  | case2 => simp [ClosesLast, scanFrom, QuoteState.next]
  | case3 c s => simp [ClosesLast, scanFrom, QuoteState.next]
  | case4 => simp [ClosesLast, scanFrom, QuoteState.next]
  | case5 c s _ ih =>
    rw [Option.isSome_map, closesLast_escape_iff]
    exact ih _
  | case6 c s _ ih =>
    rw [Option.isSome_map, closesLast_escape_iff]
    exact ih _
  | case7 c s hquote hquote' hbackslash hbackslash' ih =>
    obtain ⟨hq, hb⟩ := plain_of_not_special hquote hquote' hbackslash hbackslash'
    rw [Option.isSome_map, closesLast_plain_iff hq hb]
    exact ih _

/-- What is read of a literal is the text up to its closing quote without the escapes. -/
lemma exists_body_of_decodeBody {s v : List Char} (h : Literal.decodeBody s = some v) :
    ∃ body, s = body ++ ['\''] ∧ v = unescape body := by
  fun_induction Literal.decodeBody s generalizing v with
  | case1 => cases h
  | case2 =>
    cases h
    exact ⟨[], rfl, rfl⟩
  | case3 => cases h
  | case4 => cases h
  | case5 c s hescape ih =>
    obtain ⟨w, hw, rfl⟩ := Option.map_eq_some_iff.1 h
    obtain ⟨body, rfl, rfl⟩ := ih hw
    exact ⟨'\\' :: c :: body, rfl, (unescape_pair hescape body).symm⟩
  | case6 c s hplain ih =>
    obtain ⟨w, hw, rfl⟩ := Option.map_eq_some_iff.1 h
    obtain ⟨body, rfl, rfl⟩ := ih hw
    exact ⟨'\\' :: c :: body, rfl, (unescape_backslash hplain body).symm⟩
  | case7 c s hquote hquote' hbackslash hbackslash' ih =>
    obtain ⟨w, hw, rfl⟩ := Option.map_eq_some_iff.1 h
    obtain ⟨body, rfl, rfl⟩ := ih hw
    have hplain := plain_of_not_special hquote hquote' hbackslash hbackslash'
    exact ⟨c :: body, rfl, (unescape_cons hplain.2 body).symm⟩

lemma isOneLiteral_cons_iff (s : List Char) :
    IsOneLiteral ('\'' :: s) ↔ ClosesLast '\''.utf8Size s := by
  have hstates : ∀ q : QuoteState, q = .inside ∨ q = .escaped ↔ q ≠ .outside := by
    intro q
    cases q <;> simp
  have hscan : (scan ('\'' :: s)).tail = scanFrom '\''.utf8Size .inside s := rfl
  have hafter : QuoteState.outside.after ('\'' :: s) = QuoteState.inside.after s := rfl
  constructor
  · rintro ⟨-, -, hlater, hclosed⟩
    simp only [hscan, hstates] at hlater
    exact ⟨hlater, hclosed⟩
  · intro h
    have hne : s ≠ [] := by
      rintro rfl
      exact not_closesLast_nil _ h
    refine ⟨rfl, ?_, ?_, h.2⟩
    · have hpos := List.length_pos_iff.2 hne
      rw [List.length_cons]
      omega
    · simp only [hscan, hstates]
      exact h.1

lemma isSome_decode_iff (s : List Char) :
    (Literal.decode s).isSome = true ↔ IsOneLiteral s := by
  by_cases hhead : s.head? = some '\''
  · obtain ⟨t, rfl⟩ := List.head?_eq_some_iff.1 hhead
    rw [isOneLiteral_cons_iff]
    exact isSome_decodeBody_iff _ t
  · have hnone : Literal.decode s = none := by
      unfold Literal.decode
      split
      · exact absurd rfl hhead
      · rfl
    rw [hnone]
    constructor
    · intro h
      cases h
    · intro h
      exact absurd h.head hhead

/-- A text is read as a literal if it is one for the scan, and then it stands for what is between
its quotes without the escapes. -/
theorem decode_scanned (s : List Char) :
    ((Literal.decode s).isSome = true ↔ IsOneLiteral s) ∧
      ∀ v, Literal.decode s = some v →
        ∃ body, s = '\'' :: (body ++ ['\'']) ∧ v = unescape body := by
  refine ⟨isSome_decode_iff s, fun v h => ?_⟩
  unfold Literal.decode at h
  split at h
  · obtain ⟨body, rfl, hv⟩ := exists_body_of_decodeBody h
    exact ⟨body, rfl, hv⟩
  · cases h

/-- An escaped quote does not close the literal, a backslash before a letter is kept, and an escaped
backslash at the end takes nothing from the closing quote. -/
theorem decode_scanned_escapes :
    IsOneLiteral "'O\\'Brien\\n\\\\'".toList ∧
      Literal.decode "'O\\'Brien\\n\\\\'".toList = some "O'Brien\\n\\".toList ∧
      (∃ body, "'O\\'Brien\\n\\\\'".toList = '\'' :: (body ++ ['\'']) ∧
        "O'Brien\\n\\".toList = unescape body) ∧
      Literal.decode "'O\\'Brien\\n\\'".toList = none ∧
      ¬IsOneLiteral "'O\\'Brien\\n\\'".toList := by
  have hread : Literal.decode "'O\\'Brien\\n\\\\'".toList = some "O'Brien\\n\\".toList := by decide
  have hopen : Literal.decode "'O\\'Brien\\n\\'".toList = none := by decide
  refine ⟨(decode_scanned _).1.1 (by rw [hread, Option.isSome_some]), hread,
    (decode_scanned _).2 _ hread, hopen, fun h => ?_⟩
  have hsome := (decode_scanned _).1.2 h
  rw [hopen] at hsome
  cases hsome

end RecordFilter.Proofs
