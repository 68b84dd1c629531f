import RecordFilter.Predicate.Grammar
import RecordFilter.Proofs.OpaqueText

/-!
# Fragments in pieces

A fragment whose parentheses match is a sequence of pieces: characters, and the groups between
them. The same pieces make up the text as it was written (`sourceText`) and the text in which
placeholders stand for the groups (`flatText`). Replacing the groups of a fragment succeeds
exactly if the fragment has such pieces and each of its groups can be read in turn
(`resolveFrom_eq_ok_iff`).
-/

namespace RecordFilter.Proofs
open RecordFilter.Text RecordFilter.Parser

/-- A character of a fragment, or a group of it with the number of its slot. -/
inductive Piece where
  | char (c : Char)
  | group (number : Nat) (source : List Char)

/-- The fragment as it was written. -/
def sourceText : List Piece → List Char
  | [] => []
  | .char c :: ps => c :: sourceText ps
  | .group _ source :: ps => '(' :: (source ++ ')' :: sourceText ps)

/-- The fragment with placeholders for its groups. -/
def flatText : List Piece → List Char
  | [] => []
  | .char c :: ps => c :: flatText ps
  | .group number _ :: ps => placeholder number ++ flatText ps

/-- The groups of a fragment with their numbers. -/
def groupsOf : List Piece → List (Nat × List Char)
  | [] => []
  | .char _ :: ps => groupsOf ps
  | .group number source :: ps => (number, source) :: groupsOf ps

/-- The pieces of characters alone. -/
def charPieces (s : List Char) : List Piece := s.map .char

/-- Read from state `q`, the groups among the pieces are closed and stand outside literals, and
no other parenthesis stands there. -/
inductive WellScanned : QuoteState → List Piece → Prop
  | nil (q : QuoteState) : WellScanned q []
  | char {q : QuoteState} {c : Char} {ps : List Piece}
      (hopen : ¬(q.isStructural c = true ∧ c = '('))
      (hclose : ¬(q.isStructural c = true ∧ c = ')'))
      (hps : WellScanned (q.next c) ps) : WellScanned q (.char c :: ps)
  | group {number : Nat} {source : List Char} {ps : List Piece} (hsource : IsClosed source)
      (hps : WellScanned .outside ps) : WellScanned .outside (.group number source :: ps)

/-- The groups among the pieces are read one after the other and bound to their numbers, which
leads from the first slots to the second. -/
inductive Binds (policy : Policy) : List Piece → Slots → Slots → Prop
  | nil (slots : Slots) : Binds policy [] slots slots
  | char {c : Char} {ps : List Piece} {slots slots' : Slots} (hps : Binds policy ps slots slots') :
      Binds policy (.char c :: ps) slots slots'
  | group {source : List Char} {content : Filter} {ps : List Piece} {slots slots₁ slots' : Slots}
      (hread : readFragment policy source slots = .ok (content, slots₁))
      (hps : Binds policy ps (slots₁.bind source content) slots') :
      Binds policy (.group slots₁.length source :: ps) slots slots'

@[simp] lemma sourceText_append (ps qs : List Piece) :
    sourceText (ps ++ qs) = sourceText ps ++ sourceText qs := by
  induction ps with
  | nil => rfl
  | cons p ps ih => cases p <;> simp [sourceText, ih]

@[simp] lemma flatText_append (ps qs : List Piece) :
    flatText (ps ++ qs) = flatText ps ++ flatText qs := by
  induction ps with
  | nil => rfl
  | cons p ps ih => cases p <;> simp [flatText, ih]

@[simp] lemma groupsOf_append (ps qs : List Piece) :
    groupsOf (ps ++ qs) = groupsOf ps ++ groupsOf qs := by
  induction ps with
  | nil => rfl
  | cons p ps ih => cases p <;> simp [groupsOf, ih]

@[simp] lemma sourceText_charPieces (s : List Char) : sourceText (charPieces s) = s := by
  induction s with
  | nil => rfl
  | cons c s ih => exact congrArg (c :: ·) ih

@[simp] lemma flatText_charPieces (s : List Char) : flatText (charPieces s) = s := by
  induction s with
  | nil => rfl
  | cons c s ih => exact congrArg (c :: ·) ih

@[simp] lemma groupsOf_charPieces (s : List Char) : groupsOf (charPieces s) = [] := by
  induction s with
  | nil => rfl
  | cons c s ih => exact ih

lemma eq_charPieces_of_groupsOf_eq_nil {ps : List Piece} (h : groupsOf ps = []) :
    ps = charPieces (sourceText ps) := by
  induction ps with
  | nil => rfl
  | cons p ps ih =>
    cases p with
    | char c => exact congrArg (Piece.char c :: ·) (ih h)
    | group number source => cases h

lemma exists_charPieces_of_prefix_sourceText {w : List Char} (hw : '(' ∉ w) {ps : List Piece}
    (h : w <+: sourceText ps) : ∃ rest, ps = charPieces w ++ rest := by
  induction w generalizing ps with
  | nil => exact ⟨ps, rfl⟩
  | cons c w ih =>
    rw [List.mem_cons, not_or] at hw
    cases ps with
    | nil => simp [sourceText] at h
    | cons p ps =>
      cases p with
      | char d =>
        obtain ⟨rfl, htail⟩ := List.cons_prefix_cons.1 h
        obtain ⟨rest, rfl⟩ := ih hw.2 htail
        exact ⟨rest, rfl⟩
      | group number source => exact absurd (List.cons_prefix_cons.1 h).1.symm hw.1

lemma exists_charPieces_of_prefix_flatText {w : List Char} (hw : '@' ∉ w) {ps : List Piece}
    (h : w <+: flatText ps) : ∃ rest, ps = charPieces w ++ rest := by
  induction w generalizing ps with
  | nil => exact ⟨ps, rfl⟩
  | cons c w ih =>
    rw [List.mem_cons, not_or] at hw
    cases ps with
    | nil => simp [flatText] at h
    | cons p ps =>
      cases p with
      | char d =>
        obtain ⟨rfl, htail⟩ := List.cons_prefix_cons.1 h
        obtain ⟨rest, rfl⟩ := ih hw.2 htail
        exact ⟨rest, rfl⟩
      | group number source => exact absurd (List.cons_prefix_cons.1 h).1.symm hw.1

/-- The two texts have the same beginnings among the texts in which no placeholder and no group
begins. -/
lemma prefix_flatText_iff {w : List Char} (hmark : '@' ∉ w) (hopen : '(' ∉ w) (ps : List Piece) :
    w <+: flatText ps ↔ w <+: sourceText ps := by
  constructor
  · intro h
    obtain ⟨rest, rfl⟩ := exists_charPieces_of_prefix_flatText hmark h
    simp
  · intro h
    obtain ⟨rest, rfl⟩ := exists_charPieces_of_prefix_sourceText hopen h
    simp

lemma isDigit_of_mem_digitsOf {c : Char} {n : Nat} (h : c ∈ Number.digitsOf n) :
    c.isDigit = true :=
  Nat.isDigit_of_mem_toDigits (by decide) (by decide) h

lemma quote_not_mem_placeholder (number : Nat) : '\'' ∉ placeholder number := by
  intro h
  rcases List.mem_append.1 h with h | h
  · exact absurd h (by decide)
  · exact absurd (isDigit_of_mem_digitsOf h) (by decide)

@[simp] lemma after_placeholder (number : Nat) :
    QuoteState.outside.after (placeholder number) = .outside :=
  after_outside_of_no_quote (quote_not_mem_placeholder number)

lemma after_group {source : List Char} (h : IsClosed source) (s : List Char) :
    QuoteState.outside.after ('(' :: (source ++ ')' :: s)) = QuoteState.outside.after s := by
  rw [QuoteState.after_cons, next_opening, QuoteState.after_append, h.after, QuoteState.after_cons,
    next_closing]

namespace WellScanned

variable {q : QuoteState} {ps qs : List Piece}

lemma of_char {c : Char} (h : WellScanned q (.char c :: ps)) : WellScanned (q.next c) ps := by
  cases h with
  | char _ _ hps => exact hps

lemma append (h : WellScanned q ps) (h' : WellScanned (q.after (sourceText ps)) qs) :
    WellScanned q (ps ++ qs) := by
  induction h with
  | nil => exact h'
  | char hopen hclose _ ih => exact .char hopen hclose (ih h')
  | group hsource _ ih =>
    rw [sourceText, after_group hsource] at h'
    exact .group hsource (ih h')

lemma of_append (h : WellScanned q (ps ++ qs)) :
    WellScanned q ps ∧ WellScanned (q.after (sourceText ps)) qs := by
  induction ps generalizing q with
  | nil => exact ⟨.nil q, h⟩
  | cons p ps ih =>
    cases h with
    | char hopen hclose hps =>
      obtain ⟨hleft, hright⟩ := ih hps
      exact ⟨.char hopen hclose hleft, hright⟩
    | group hsource hps =>
      obtain ⟨hleft, hright⟩ := ih hps
      refine ⟨.group hsource hleft, ?_⟩
      rw [sourceText, after_group hsource]
      exact hright

lemma isClosed_of_mem_groupsOf (h : WellScanned q ps) {number : Nat} {source : List Char}
    (hmem : (number, source) ∈ groupsOf ps) : IsClosed source := by
  induction h with
  | nil => cases hmem
  | char _ _ _ ih => exact ih hmem
  | group hsource _ ih =>
    rcases List.mem_cons.1 hmem with heq | hmem
    · cases heq
      exact hsource
    · exact ih hmem

end WellScanned

/-- More open parentheses before a text stay open through it. -/
lemma openAfter?_add {q : QuoteState} {depth depth' : Nat} {s : List Char}
    (h : openAfter? q depth s = some depth') (k : Nat) :
    openAfter? q (depth + k) s = some (depth' + k) := by
  induction s generalizing q depth with
  | nil =>
    cases h
    rfl
  | cons c s ih =>
    rw [openAfter?] at h ⊢
    split at h
    · next hopen =>
      rw [if_pos hopen, Nat.add_right_comm]
      exact ih h
    · next hopen =>
      rw [if_neg hopen]
      split at h
      · next hclose =>
        split at h
        · cases h
        · next hpos =>
          rw [if_pos hclose, if_neg (by omega), Nat.sub_add_comm (Nat.one_le_iff_ne_zero.2 hpos)]
          exact ih h
      · next hclose =>
        rw [if_neg hclose]
        exact ih h

lemma openAfter?_of_countStructural {q : QuoteState} {s : List Char}
    (hopen : countStructural '(' q s = 0) (hclose : countStructural ')' q s = 0) (depth : Nat) :
    openAfter? q depth s = some depth := by
  induction s generalizing q with
  | nil => rfl
  | cons c s ih =>
    rw [countStructural, Nat.add_eq_zero_iff] at hopen hclose
    rw [openAfter?, if_neg (by simpa using hopen.1), if_neg (by simpa using hclose.1)]
    exact ih hopen.2 hclose.2

lemma openAfter?_group {source : List Char} (h : IsClosed source) (depth : Nat) (s : List Char) :
    openAfter? .outside depth ('(' :: (source ++ ')' :: s)) = openAfter? .outside depth s := by
  have hsource := openAfter?_add h.balanced (depth + 1)
  rw [Nat.zero_add] at hsource
  rw [openAfter?, if_pos (by decide), next_opening, openAfter?_append, hsource, Option.bind_some,
    h.after, openAfter?, if_neg (by decide), if_pos (by decide), if_neg (Nat.succ_ne_zero depth),
    next_closing, Nat.add_sub_cancel]

lemma WellScanned.openAfter?_sourceText {q : QuoteState} {ps : List Piece} (h : WellScanned q ps)
    (depth : Nat) : openAfter? q depth (sourceText ps) = some depth := by
  induction h with
  | nil => rfl
  | char hopen hclose _ ih => rw [sourceText, openAfter?, if_neg hopen, if_neg hclose, ih]
  | group hsource _ ih => rw [sourceText, openAfter?_group hsource, ih]

/-- What the scan for groups meets in a text that it reads from state `q`. A group is passed over as a
whole, and the text after it is read from outside. -/
inductive ScanCase : QuoteState → List Char → Prop
  | nil (q : QuoteState) : ScanCase q []
  | char {q : QuoteState} {c : Char} {s : List Char}
      (hopen : ¬(q.isStructural c = true ∧ c = '('))
      (hclose : ¬(q.isStructural c = true ∧ c = ')')) (hs : ScanCase (q.next c) s) : ScanCase q (c :: s)
  | closing (s : List Char) : ScanCase .outside (')' :: s)
  | unclosed {s : List Char} (h : takeGroup? .outside 0 s = none) : ScanCase .outside ('(' :: s)
  | group {source rest : List Char} (hsource : IsClosed source) (hrest : ScanCase .outside rest) :
      ScanCase .outside ('(' :: (source ++ ')' :: rest))

/-- Every text is scanned in one of these ways. -/
lemma scanCase (q : QuoteState) (s : List Char) : ScanCase q s := by
  induction hlen : s.length using Nat.strongRecOn generalizing q s with
  | ind n ih =>
    subst hlen
    cases s with
    | nil => exact .nil q
    | cons c s =>
      by_cases hopen : q.isStructural c = true ∧ c = '('
      · obtain ⟨hq, rfl⟩ := hopen
        obtain ⟨rfl, -⟩ := QuoteState.isStructural_iff.1 hq
        cases htake : takeGroup? .outside 0 s with
        | none => exact .unclosed htake
        | some taken =>
          obtain ⟨hsource, rfl⟩ := isClosed_of_takeGroup? htake
          exact .group hsource (ih _ (by simp; omega) _ _ rfl)
      · by_cases hclose : q.isStructural c = true ∧ c = ')'
        · obtain ⟨hq, rfl⟩ := hclose
          obtain ⟨rfl, -⟩ := QuoteState.isStructural_iff.1 hq
          exact .closing s
        · exact .char hopen hclose (ih _ (by simp) _ _ rfl)

/-- A text whose parentheses match comes in pieces. -/
theorem exists_pieces_of_openAfter? {q : QuoteState} {s : List Char}
    (h : openAfter? q 0 s = some 0) : ∃ ps, WellScanned q ps ∧ sourceText ps = s := by
  induction scanCase q s with
  | nil q => exact ⟨[], .nil q, rfl⟩
  | @char q c s hopen hclose _ ih =>
    rw [openAfter?, if_neg hopen, if_neg hclose] at h
    obtain ⟨ps, hps, rfl⟩ := ih h
    exact ⟨.char c :: ps, .char hopen hclose hps, rfl⟩
  | closing s =>
    rw [openAfter?, if_neg (by decide), if_pos (by decide), if_pos rfl] at h
    cases h
  | unclosed htake =>
    rw [openAfter?, if_pos (by decide), next_opening] at h
    obtain ⟨source, rest, htaken, -⟩ := exists_takeGroup?_of_openAfter? h
    rw [htake] at htaken
    cases htaken
  | @group source rest hsource _ ih =>
    rw [openAfter?_group hsource] at h
    obtain ⟨ps, hps, rfl⟩ := ih h
    exact ⟨.group 0 source :: ps, .group hsource hps, rfl⟩

/-! ### Replacing the groups -/

lemma bind_eq_ok_iff {ε α β : Type} {x : Except ε α} {f : α → Except ε β} {b : β} :
    (x >>= f) = .ok b ↔ ∃ a, x = .ok a ∧ f a = .ok b := by
  cases x with
  | error e => simp [bind, Except.bind]
  | ok a => simp [bind, Except.bind]

lemma bind_eq_error_iff {ε α β : Type} {x : Except ε α} {f : α → Except ε β} {e : ε} :
    (x >>= f) = .error e ↔ x = .error e ∨ ∃ a, x = .ok a ∧ f a = .error e := by
  cases x with
  | error e => simp [bind, Except.bind]
  | ok a => simp [bind, Except.bind]

section Resolve

variable {policy : Policy} {whole : List Char}

lemma resolveFrom_char {q : QuoteState} {c : Char} (hopen : ¬(q.isStructural c = true ∧ c = '('))
    (hclose : ¬(q.isStructural c = true ∧ c = ')')) (s : List Char) (slots : Slots) :
    resolveFrom policy whole q (c :: s) slots = do
      let (flat, slots) ← resolveFrom policy whole (q.next c) s slots
      return (c :: flat, slots) := by
  rw [resolveFrom, if_neg hopen, if_neg hclose]

lemma resolveFrom_closing (s : List Char) (slots : Slots) :
    resolveFrom policy whole .outside (')' :: s) slots =
      .error (.unmatchedParentheses (String.ofList whole)) := by
  rw [resolveFrom, if_neg (by decide), if_pos (by decide)]

lemma resolveFrom_unclosed {s : List Char} (h : takeGroup? .outside 0 s = none) (slots : Slots) :
    resolveFrom policy whole .outside ('(' :: s) slots =
      .error (.unmatchedParentheses (String.ofList whole)) := by
  rw [resolveFrom, if_pos (by decide)]
  split
  · rfl
  · next htake =>
    rw [h] at htake
    cases htake

lemma resolveFrom_group {source : List Char} (h : IsClosed source) (rest : List Char)
    (slots : Slots) :
    resolveFrom policy whole .outside ('(' :: (source ++ ')' :: rest)) slots = do
      let (content, slots) ← readFragment policy source slots
      let (flat, slots') ← resolveFrom policy whole .outside rest (slots.bind source content)
      return (placeholder slots.length ++ flat, slots') := by
  rw [resolveFrom, if_pos (by decide)]
  split
  · next htake =>
    rw [takeGroup?_of_isClosed h] at htake
    cases htake
  · next htake =>
    rw [takeGroup?_of_isClosed h] at htake
    cases htake
    rfl

/-- Replacing the groups succeeds exactly if the fragment comes in pieces of which each group can
be read. -/
theorem resolveFrom_eq_ok_iff {q : QuoteState} {s flat : List Char} {slots slots' : Slots} :
    resolveFrom policy whole q s slots = .ok (flat, slots') ↔
      ∃ ps, WellScanned q ps ∧ sourceText ps = s ∧ flatText ps = flat ∧
        Binds policy ps slots slots' := by
  constructor
  · intro h
    induction scanCase q s generalizing flat slots with
    | nil q =>
      rw [resolveFrom] at h
      cases h
      exact ⟨[], .nil q, rfl, rfl, .nil _⟩
    | @char q c s hopen hclose _ ih =>
      rw [resolveFrom_char hopen hclose] at h
      obtain ⟨⟨flat', slots₁⟩, hrest, h⟩ := bind_eq_ok_iff.1 h
      cases h
      obtain ⟨ps, hps, rfl, rfl, hbinds⟩ := ih hrest
      exact ⟨.char c :: ps, .char hopen hclose hps, rfl, rfl, .char hbinds⟩
    | closing s =>
      rw [resolveFrom_closing] at h
      cases h
    | unclosed htake =>
      rw [resolveFrom_unclosed htake] at h
      cases h
    | @group source rest hsource _ ih =>
      rw [resolveFrom_group hsource] at h
      obtain ⟨⟨content, slots₁⟩, hread, h⟩ := bind_eq_ok_iff.1 h
      obtain ⟨⟨flat', slots₂⟩, hrest, h⟩ := bind_eq_ok_iff.1 h
      cases h
      obtain ⟨ps, hps, rfl, rfl, hbinds⟩ := ih hrest
      exact ⟨.group slots₁.length source :: ps, .group hsource hps, rfl, rfl,
        .group hread hbinds⟩
  · rintro ⟨ps, hps, rfl, rfl, hbinds⟩
    induction hps generalizing slots with
    | nil q =>
      cases hbinds
      rw [sourceText, resolveFrom]
      rfl
    | char hopen hclose _ ih =>
      cases hbinds with
      | char hbinds =>
        rw [sourceText, resolveFrom_char hopen hclose, ih hbinds]
        rfl
    | group hsource _ ih =>
      cases hbinds with
      | group hread hbinds =>
        have hrest := ih hbinds
        rw [sourceText, resolveFrom_group hsource, hread]
        simp only [bind, Except.bind, hrest]
        rfl

end Resolve

end RecordFilter.Proofs
