import Mathlib.Tactic.Common
import RecordFilter.Proofs.FlatForms
import RecordFilter.Proofs.FragmentPieces

/-!
# The forms of a grammatical fragment

The grammar reads a fragment as a group, a negation, two fragments with a connective between them,
or a comparison. This file opens that reading by one equation for each form, and shows that the
source and the flat text of a fragment in pieces are trimmed and split at the same places.
-/

namespace RecordFilter.Proofs
open RecordFilter.Text RecordFilter.Parser

section Read

variable {policy : Policy} {s : List Char}

lemma isBalanced_iff : isBalanced s = true ↔ openAfter? .outside 0 s = some 0 := by
  rw [isBalanced, beq_iff_eq]

lemma read?_trim (policy : Policy) (s : List Char) :
    Grammar.read? policy (trim s) = Grammar.read? policy s := by
  conv_lhs => rw [Grammar.read?]
  conv_rhs => rw [Grammar.read?]
  rw [trim_trim]

lemma read?_unbalanced (h : isBalanced (trim s) = false) : Grammar.read? policy s = none := by
  rw [Grammar.read?]
  simp [h]

lemma read?_group {group : List Char} (h : isBalanced (trim s) = true)
    (hgroup : Grammar.group? (trim s) = some group) :
    Grammar.read? policy s = Grammar.read? policy group := by
  conv_lhs => rw [Grammar.read?]
  simp only [h, Bool.not_true, Bool.false_eq_true, if_false]
  split
  · next hgroup' =>
    rw [hgroup] at hgroup'
    cases hgroup'
    rfl
  · next hgroup' =>
    rw [hgroup] at hgroup'
    cases hgroup'

lemma read?_negation {rest : List Char} (h : isBalanced (trim s) = true)
    (hgroup : Grammar.group? (trim s) = none) (hnot : afterNegation? (trim s) = some rest) :
    Grammar.read? policy s = (Grammar.read? policy rest).map .negation := by
  conv_lhs => rw [Grammar.read?]
  simp only [h, Bool.not_true, Bool.false_eq_true, if_false]
  split
  · next hgroup' =>
    rw [hgroup] at hgroup'
    cases hgroup'
  · split
    · next hnot' =>
      rw [hnot] at hnot'
      cases hnot'
      rfl
    · next hnot' =>
      rw [hnot] at hnot'
      cases hnot'

lemma read?_joined {connective : Connective} {left right : List Char}
    (h : isBalanced (trim s) = true) (hgroup : Grammar.group? (trim s) = none)
    (hnot : afterNegation? (trim s) = none)
    (hsplit : Grammar.splitFrom? .outside (trim s) = some ⟨connective, left, right⟩) :
    Grammar.read? policy s = do
      let left ← Grammar.read? policy left
      let right ← Grammar.read? policy right
      return .joined connective left right := by
  conv_lhs => rw [Grammar.read?]
  simp only [h, Bool.not_true, Bool.false_eq_true, if_false]
  split
  · next hgroup' =>
    rw [hgroup] at hgroup'
    cases hgroup'
  · split
    · next hnot' =>
      rw [hnot] at hnot'
      cases hnot'
    · split
      · next hsplit' =>
        rw [hsplit] at hsplit'
        cases hsplit'
        rfl
      · next hsplit' =>
        rw [hsplit] at hsplit'
        cases hsplit'

lemma read?_comparison (h : isBalanced (trim s) = true) (hgroup : Grammar.group? (trim s) = none)
    (hnot : afterNegation? (trim s) = none)
    (hsplit : Grammar.splitFrom? .outside (trim s) = none) :
    Grammar.read? policy s = Grammar.readComparison? policy (trim s) := by
  conv_lhs => rw [Grammar.read?]
  simp only [h, Bool.not_true, Bool.false_eq_true, if_false]
  split
  · next hgroup' =>
    rw [hgroup] at hgroup'
    cases hgroup'
  · split
    · next hnot' =>
      rw [hnot] at hnot'
      cases hnot'
    · split
      · next hsplit' =>
        rw [hsplit] at hsplit'
        cases hsplit'
      · rfl

end Read

lemma group?_eq_some_iff {s group : List Char} :
    Grammar.group? s = some group ↔ s = '(' :: (group ++ [')']) ∧ IsClosed group := by
  constructor
  · intro h
    unfold Grammar.group? at h
    split at h
    · split at h
      · next htake =>
        cases h
        obtain ⟨hclosed, rfl⟩ := isClosed_of_takeGroup? htake
        exact ⟨rfl, hclosed⟩
      · cases h
    · cases h
  · rintro ⟨rfl, hclosed⟩
    simp [Grammar.group?, takeGroup?_of_isClosed hclosed []]

lemma eq_singleton_of_group? {ps : List Piece} {group : List Char} (hps : WellScanned .outside ps)
    (h : Grammar.group? (sourceText ps) = some group) : ∃ number, ps = [.group number group] := by
  obtain ⟨hs, hclosed⟩ := group?_eq_some_iff.1 h
  cases hps with
  | nil => cases hs
  | char hopen _ _ =>
    obtain ⟨rfl, -⟩ := List.cons_eq_cons.1 hs
    exact absurd ⟨by decide, rfl⟩ hopen
  | @group number source ps hsource =>
    have htake := takeGroup?_of_isClosed hsource (sourceText ps)
    rw [(List.cons_eq_cons.1 hs).2, takeGroup?_of_isClosed hclosed] at htake
    obtain ⟨rfl, hrest⟩ := Prod.mk.inj (Option.some.inj htake)
    cases ps with
    | nil => exact ⟨number, rfl⟩
    | cons p ps => cases p <;> cases hrest

lemma exists_pieces_of_read? {policy : Policy} {s : List Char} {p : Filter}
    (h : Grammar.read? policy s = some p) :
    ∃ ps, WellScanned .outside ps ∧ sourceText ps = trim s := by
  apply exists_pieces_of_openAfter?
  rw [← isBalanced_iff, ← Bool.not_eq_false]
  intro hunbalanced
  rw [read?_unbalanced hunbalanced] at h
  cases h

lemma connectiveAt?_of_ne {c : Char} (hc : c ≠ ' ') (q : QuoteState) (s : List Char) :
    Grammar.connectiveAt? q (c :: s) = none := by
  simp [Grammar.connectiveAt?, separators, Ne.symm hc]

lemma separatorAt?_of_ne {c : Char} (hc : c ≠ ' ') (q : QuoteState) (s : List Char) :
    separatorAt? (separators.map Prod.snd) q (c :: s) = none := by
  simp [separatorAt?, separators, Ne.symm hc]

lemma mem_separators_of_connectiveAt? {q : QuoteState} {s separator : List Char}
    {connective : Connective} (h : Grammar.connectiveAt? q s = some (connective, separator)) :
    (connective, separator) ∈ separators ∧ separator <+: s ∧ q = .outside := by
  unfold Grammar.connectiveAt? at h
  split at h
  · cases h
  · split at h
    · next hq =>
      have hpre := List.find?_some h
      exact ⟨List.mem_of_find?_eq_some h, List.isPrefixOf_iff_prefix.1 hpre,
        (QuoteState.isStructural_iff.1 hq).1⟩
    · cases h

/-- Where the source has a connective, the flat text has its separator. -/
lemma separatorAt?_flatText (q : QuoteState) (c : Char) (ps : List Piece) :
    separatorAt? (separators.map Prod.snd) q (c :: flatText ps) =
      (Grammar.connectiveAt? q (c :: sourceText ps)).map Prod.snd := by
  have hbegins : ∀ w : List Char, '@' ∉ w → '(' ∉ w →
      w.isPrefixOf (c :: flatText ps) = w.isPrefixOf (c :: sourceText ps) := by
    intro w hmark hopen
    rw [Bool.eq_iff_iff, List.isPrefixOf_iff_prefix, List.isPrefixOf_iff_prefix]
    exact prefix_flatText_iff hmark hopen (.char c :: ps)
  have hand := hbegins " and ".toList (by decide) (by decide)
  have hor := hbegins " or ".toList (by decide) (by decide)
  unfold separatorAt? Grammar.connectiveAt?
  dsimp only
  split
  · simp only [separators, List.map_cons, List.map_nil, List.find?_cons, List.find?_nil, hand, hor]
    split
    · rfl
    · split <;> rfl
  · rfl

/-- A fragment in pieces that was split at a connective. -/
structure PieceSplit where
  connective : Connective
  separator : List Char
  left : List Piece
  right : List Piece

/-- Splits a fragment in pieces at its first connective outside literals and groups. -/
def splitPieces? (q : QuoteState) : List Piece → Option PieceSplit
  | [] => none
  | .char c :: ps =>
    match Grammar.connectiveAt? q (c :: sourceText ps) with
    | some (connective, separator) =>
      some ⟨connective, separator, [], (.char c :: ps).drop separator.length⟩
    | none =>
      (splitPieces? (q.next c) ps).map fun split => { split with left := .char c :: split.left }
  | .group number source :: ps =>
    (splitPieces? .outside ps).map fun split =>
      { split with left := .group number source :: split.left }

lemma parenthesis_not_mem_separator {connective : Connective} {separator : List Char}
    (h : (connective, separator) ∈ separators) : '(' ∉ separator := by
  rcases separator_eq_of_mem h with rfl | rfl <;> decide

/-- The pieces that begin with a connective are the characters of its separator and a rest. -/
lemma eq_append_drop_of_connectiveAt? {q : QuoteState} {c : Char} {ps : List Piece}
    {connective : Connective} {separator : List Char}
    (h : Grammar.connectiveAt? q (c :: sourceText ps) = some (connective, separator)) :
    .char c :: ps = charPieces separator ++ (.char c :: ps).drop separator.length := by
  obtain ⟨hmem, hpre, -⟩ := mem_separators_of_connectiveAt? h
  obtain ⟨rest, heq⟩ := @exists_charPieces_of_prefix_sourceText _
    (parenthesis_not_mem_separator hmem) (.char c :: ps) hpre
  have hlength : (charPieces separator).length = separator.length := List.length_map _
  rw [heq, ← hlength, List.drop_left]

lemma splitPieces?_eq_some {q : QuoteState} {ps : List Piece} {split : PieceSplit}
    (hps : WellScanned q ps) (h : splitPieces? q ps = some split) :
    ps = split.left ++ (charPieces split.separator ++ split.right) ∧
      (split.connective, split.separator) ∈ separators ∧
      q.after (sourceText split.left) = .outside := by
  induction hps generalizing split with
  | nil => cases h
  | @char q c ps _ _ _ ih =>
    rw [splitPieces?] at h
    split at h
    · next connective separator hconnective =>
      cases h
      obtain ⟨hmem, -, hq⟩ := mem_separators_of_connectiveAt? hconnective
      exact ⟨eq_append_drop_of_connectiveAt? hconnective, hmem, hq⟩
    · obtain ⟨split', hsplit', rfl⟩ := Option.map_eq_some_iff.1 h
      obtain ⟨heq, hmem, hafter⟩ := ih hsplit'
      exact ⟨congrArg (.char c :: ·) heq, hmem, hafter⟩
  | @group number source ps hsource _ ih =>
    obtain ⟨split', hsplit', rfl⟩ := Option.map_eq_some_iff.1 h
    obtain ⟨heq, hmem, hafter⟩ := ih hsplit'
    refine ⟨congrArg (.group number source :: ·) heq, hmem, ?_⟩
    rw [sourceText, after_group hsource]
    exact hafter

lemma splitFrom?_sourceText {q : QuoteState} {ps : List Piece} (hps : WellScanned q ps) :
    Grammar.splitFrom? q (sourceText ps) = (splitPieces? q ps).map fun split =>
      ⟨split.connective, sourceText split.left, sourceText split.right⟩ := by
  induction hps with
  | nil => rw [sourceText, Grammar.splitFrom?, splitPieces?, Option.map_none]
  | @char q c ps hopen _ _ ih =>
    rw [sourceText, Grammar.splitFrom?, splitPieces?]
    cases hconnective : Grammar.connectiveAt? q (c :: sourceText ps) with
    | some found =>
      have hrest := congrArg sourceText (eq_append_drop_of_connectiveAt? hconnective)
      rw [sourceText, sourceText_append, sourceText_charPieces] at hrest
      dsimp only
      rw [Option.map_some, hrest, List.drop_left]
      rfl
    | none =>
      dsimp only
      rw [if_neg hopen, ih, Option.map_map, Option.map_map]
      rfl
  | @group number source ps hsource _ ih =>
    rw [sourceText, Grammar.splitFrom?, connectiveAt?_of_ne (by decide), splitPieces?]
    dsimp only
    rw [if_pos (by decide)]
    split
    · next htake =>
      rw [takeGroup?_of_isClosed hsource] at htake
      cases htake
    · next htake =>
      rw [takeGroup?_of_isClosed hsource] at htake
      cases htake
      rw [ih, Option.map_map, Option.map_map]
      rfl

lemma cutFrom?_append_of_not_mem {w : List Char} (hquote : '\'' ∉ w) (hblank : ' ' ∉ w)
    (s : List Char) :
    cutFrom? (separators.map Prod.snd) .outside (w ++ s) =
      (cutFrom? (separators.map Prod.snd) .outside s).map fun cut =>
        { cut with before := w ++ cut.before } := by
  induction w with
  | nil => simp
  | cons c w ih =>
    rw [List.mem_cons, not_or] at hquote hblank
    rw [List.cons_append, cutFrom?, separatorAt?_of_ne (Ne.symm hblank.1)]
    dsimp only
    rw [next_outside_of_ne (Ne.symm hquote.1), ih hquote.2 hblank.2, Option.map_map]
    rfl

lemma not_isBlank_of_isDigit {c : Char} (h : c.isDigit = true) : isBlank c = false := by
  rw [Bool.eq_false_iff]
  intro hblank
  have hword : isWordChar c = true := isWordChar_of_isAlphanum (by simp [Char.isAlphanum, h])
  rw [isWordChar_of_isBlank hblank] at hword
  cases hword

lemma not_isBlank_of_mem_placeholder {c : Char} {number : Nat} (h : c ∈ placeholder number) :
    isBlank c = false := by
  rcases List.mem_append.1 h with h | h
  · have hmark : ∀ c ∈ placeholderMark, isBlank c = false := by decide
    exact hmark c h
  · exact not_isBlank_of_isDigit (isDigit_of_mem_digitsOf h)

lemma blank_not_mem_placeholder (number : Nat) : ' ' ∉ placeholder number :=
  fun h => absurd (not_isBlank_of_mem_placeholder h) (by decide)

lemma cutFrom?_flatText {q : QuoteState} {ps : List Piece} (hps : WellScanned q ps) :
    cutFrom? (separators.map Prod.snd) q (flatText ps) = (splitPieces? q ps).map fun split =>
      ⟨flatText split.left, split.separator, flatText split.right⟩ := by
  induction hps with
  | nil => rfl
  | @char q c ps _ _ _ ih =>
    rw [flatText, cutFrom?, separatorAt?_flatText, splitPieces?]
    cases hconnective : Grammar.connectiveAt? q (c :: sourceText ps) with
    | some found =>
      have hrest := congrArg flatText (eq_append_drop_of_connectiveAt? hconnective)
      rw [flatText, flatText_append, flatText_charPieces] at hrest
      simp only [Option.map_some]
      rw [hrest, List.drop_left]
      rfl
    | none =>
      simp only [Option.map_none]
      rw [ih, Option.map_map, Option.map_map]
      rfl
  | @group number source ps _ _ ih =>
    rw [flatText, splitPieces?, cutFrom?_append_of_not_mem (quote_not_mem_placeholder number)
      (blank_not_mem_placeholder number), ih, Option.map_map, Option.map_map]
    rfl

lemma find?_separators {connective : Connective} {separator : List Char}
    (h : (connective, separator) ∈ separators) :
    separators.find? (·.2 == separator) = some (connective, separator) := by
  simp only [separators, List.mem_cons, Prod.mk.injEq, List.not_mem_nil, or_false] at h
  rcases h with ⟨rfl, rfl⟩ | ⟨rfl, rfl⟩ <;> decide

/-- The parser splits the flat text as the pieces are split. -/
lemma splitAtConnective?_flatText {ps : List Piece} (hps : WellScanned .outside ps) :
    splitAtConnective? (flatText ps) = (splitPieces? .outside ps).map fun split =>
      ⟨split.connective, flatText split.left, flatText split.right⟩ := by
  rw [splitAtConnective?, cut?, cutFrom?_flatText hps]
  cases hsplit : splitPieces? .outside ps with
  | none => rfl
  | some split =>
    obtain ⟨-, hmem, -⟩ := splitPieces?_eq_some hps hsplit
    simp only [Option.map_some, bind, Option.bind, find?_separators hmem]
    rfl

/-- The pieces after a leading negation, in the source and in the flat text alike. -/
lemma exists_pieces_of_afterNegation? {ps : List Piece} {rest : List Char}
    (h : afterNegation? (sourceText ps) = some rest) :
    ∃ qs, ps = charPieces negationMark ++ qs ∧ rest = sourceText qs ∧
      afterNegation? (flatText ps) = some (flatText qs) := by
  have hs := afterNegation?_eq_some_iff.1 h
  have hpre : negationMark <+: sourceText ps := ⟨rest, hs.symm⟩
  obtain ⟨qs, rfl⟩ := exists_charPieces_of_prefix_sourceText (by decide) hpre
  rw [sourceText_append, sourceText_charPieces] at hs
  refine ⟨qs, rfl, (List.append_cancel_left hs).symm, ?_⟩
  rw [afterNegation?_eq_some_iff, flatText_append, flatText_charPieces]

lemma afterNegation?_flatText_eq_none {ps : List Piece}
    (h : afterNegation? (sourceText ps) = none) : afterNegation? (flatText ps) = none := by
  by_contra hsome
  obtain ⟨rest, hrest⟩ := Option.ne_none_iff_exists'.1 hsome
  have hpre : negationMark <+: flatText ps := ⟨rest, (afterNegation?_eq_some_iff.1 hrest).symm⟩
  obtain ⟨rest', hrest'⟩ := (prefix_flatText_iff (by decide) (by decide) ps).1 hpre
  rw [afterNegation?_eq_some_iff.2 hrest'.symm] at h
  cases h

/-- The piece is a blank character. -/
def Piece.isBlank : Piece → Bool
  | .char c => Text.isBlank c
  | .group _ _ => false

lemma exists_blanks_of_isBlank {ps : List Piece} (h : ∀ p ∈ ps, p.isBlank = true) :
    ∃ x, Blanks x ∧ ps = charPieces x := by
  induction ps with
  | nil => exact ⟨[], by simp [Blanks], rfl⟩
  | cons p ps ih =>
    obtain ⟨x, hx, rfl⟩ := ih fun p hp => h p (List.mem_cons_of_mem _ hp)
    have hp := h p List.mem_cons_self
    cases p with
    | char c => exact ⟨c :: x, List.forall_mem_cons.2 ⟨hp, hx⟩, rfl⟩
    | group number source => cases hp

/-- Pieces are their core between blank characters. -/
lemma exists_core_pieces (ps : List Piece) :
    ∃ x y ts, Blanks x ∧ Blanks y ∧ ps = charPieces x ++ (ts ++ charPieces y) ∧
      (∀ p ∈ ts.head?, p.isBlank = false) ∧ ∀ p ∈ ts.getLast?, p.isBlank = false := by
  have hfront : ∀ ps : List Piece, ∃ x rest, Blanks x ∧ ps = charPieces x ++ rest ∧
      ∀ p ∈ rest.head?, p.isBlank = false := by
    intro ps
    obtain ⟨x, hx, heq⟩ := @exists_blanks_of_isBlank (ps.takeWhile Piece.isBlank)
      (List.all_eq_true.1 List.all_takeWhile)
    refine ⟨x, ps.dropWhile Piece.isBlank, hx, ?_, ?_⟩
    · rw [← heq, List.takeWhile_append_dropWhile]
    · intro p hp
      have h := List.head?_dropWhile_not Piece.isBlank ps
      rw [Option.mem_def.1 hp] at h
      simpa using h
  obtain ⟨x, rest, hx, hps, hhead⟩ := hfront ps
  obtain ⟨y, ts, hy, hrest, hlast⟩ := hfront rest.reverse
  have hrest' : rest = ts.reverse ++ charPieces y.reverse := by
    rw [← List.reverse_reverse rest, hrest, List.reverse_append, charPieces, charPieces,
      List.map_reverse]
  refine ⟨x, y.reverse, ts.reverse, hx, hy.reverse, by rw [hps, hrest'], ?_, ?_⟩
  · intro p hp
    apply hhead
    rw [hrest', List.head?_append, Option.mem_def.1 hp, Option.some_or]
    rfl
  · intro p hp
    rw [List.getLast?_reverse] at hp
    exact hlast p hp

lemma head?_texts {ps : List Piece} (h : ∀ p ∈ ps.head?, p.isBlank = false) :
    (∀ c ∈ (sourceText ps).head?, isBlank c = false) ∧
      ∀ c ∈ (flatText ps).head?, isBlank c = false := by
  cases ps with
  | nil => simp [sourceText, flatText]
  | cons p ps =>
    have hp := h p rfl
    cases p with
    | char c =>
      exact ⟨fun d hd => by cases hd; exact hp, fun d hd => by cases hd; exact hp⟩
    | group number source =>
      exact ⟨fun d hd => by cases hd; decide, fun d hd => by cases hd; decide⟩

lemma getLast?_texts {ps : List Piece} (h : ∀ p ∈ ps.getLast?, p.isBlank = false) :
    (∀ c ∈ (sourceText ps).getLast?, isBlank c = false) ∧
      ∀ c ∈ (flatText ps).getLast?, isBlank c = false := by
  rcases List.eq_nil_or_concat ps with rfl | ⟨qs, p, rfl⟩
  · simp [sourceText, flatText]
  · have hp := h p (by simp)
    rw [List.concat_eq_append, sourceText_append, flatText_append]
    cases p with
    | char c => simpa [sourceText, flatText, Piece.isBlank] using hp
    | group number source =>
      constructor
      · intro c hc
        have hlast : (sourceText qs ++ '(' :: (source ++ [')'])).getLast? = some ')' := by
          rw [← List.cons_append, ← List.append_assoc, List.getLast?_concat]
        cases hlast.symm.trans hc
        decide
      · intro c hc
        have hne : placeholder number ≠ [] := by simp [placeholder, placeholderMark]
        rw [flatText, flatText, List.append_nil, List.getLast?_append,
          List.getLast?_eq_some_getLast hne, Option.some_or, Option.mem_some_iff] at hc
        exact not_isBlank_of_mem_placeholder (hc ▸ List.getLast_mem hne)

/-- What trimming leaves of a fragment in pieces, of its source and of its flat text alike. -/
structure IsCore (ps ts : List Piece) : Prop where
  scanned : WellScanned .outside ts
  source : sourceText ts = trim (sourceText ps)
  flat : flatText ts = trim (flatText ps)
  groups : groupsOf ts = groupsOf ps

/-- The core of a fragment in pieces stands between blanks. -/
lemma exists_isCore_between {ps : List Piece} (hps : WellScanned .outside ps) :
    ∃ x y ts, Blanks x ∧ Blanks y ∧ ps = charPieces x ++ (ts ++ charPieces y) ∧ IsCore ps ts := by
  obtain ⟨x, y, ts, hx, hy, rfl, hhead, hlast⟩ := exists_core_pieces ps
  have hts := hps.of_append.2
  rw [sourceText_charPieces, after_of_blanks hx] at hts
  have hsource : Trimmed (sourceText ts) := ⟨(head?_texts hhead).1, (getLast?_texts hlast).1⟩
  have hflat : Trimmed (flatText ts) := ⟨(head?_texts hhead).2, (getLast?_texts hlast).2⟩
  refine ⟨x, y, ts, hx, hy, rfl, hts.of_append.1, ?_, ?_, by simp⟩
  · rw [sourceText_append, sourceText_append, sourceText_charPieces, sourceText_charPieces,
      ← List.append_assoc, trim_append_of_blanks hx hy, trim_eq_self hsource]
  · rw [flatText_append, flatText_append, flatText_charPieces, flatText_charPieces,
      ← List.append_assoc, trim_append_of_blanks hx hy, trim_eq_self hflat]

lemma exists_isCore {ps : List Piece} (hps : WellScanned .outside ps) : ∃ ts, IsCore ps ts := by
  obtain ⟨_, _, ts, -, -, -, hcore⟩ := exists_isCore_between hps
  exact ⟨ts, hcore⟩

/-! ### Forms -/

/-- The two sides of a fragment in pieces that was split at a connective. -/
structure PieceSplit.Splits (split : PieceSplit) (ps : List Piece) : Prop where
  left : WellScanned .outside split.left
  right : WellScanned .outside split.right
  source : sourceText ps = sourceText split.left ++ (split.separator ++ sourceText split.right)
  groups : groupsOf ps = groupsOf split.left ++ groupsOf split.right
  mem : (split.connective, split.separator) ∈ separators
  after : QuoteState.outside.after (sourceText split.left) = .outside

lemma splits_of_splitPieces? {ps : List Piece} {split : PieceSplit} (hps : WellScanned .outside ps)
    (h : splitPieces? .outside ps = some split) : split.Splits ps := by
  obtain ⟨heq, hmem, hafter⟩ := splitPieces?_eq_some hps h
  rw [heq] at hps ⊢
  have hrest := hps.of_append.2
  rw [hafter] at hrest
  have hright := hrest.of_append.2
  rw [sourceText_charPieces, after_separator hmem] at hright
  exact ⟨hps.of_append.1, hright, by simp, by simp, hmem, hafter⟩

/-- The form of a fragment in pieces and what the grammar reads it as. -/
inductive Form (policy : Policy) : List Piece → Prop
  | group {ps qs : List Piece} {number : Nat} (hcore : IsCore ps [.group number (sourceText qs)])
      (hread : Grammar.read? policy (sourceText ps) = Grammar.read? policy (sourceText qs))
      (hqs : Form policy qs) : Form policy ps
  | negation {ps qs : List Piece} (hcore : IsCore ps (charPieces negationMark ++ qs))
      (hgroup : Grammar.group? (sourceText (charPieces negationMark ++ qs)) = none)
      (hread : Grammar.read? policy (sourceText ps) =
        (Grammar.read? policy (sourceText qs)).map .negation)
      (hqs : Form policy qs) : Form policy ps
  | joined {ps ts : List Piece} {split : PieceSplit} (hcore : IsCore ps ts)
      (hgroup : Grammar.group? (sourceText ts) = none)
      (hnot : afterNegation? (sourceText ts) = none)
      (hsplit : splitPieces? .outside ts = some split)
      (hread : Grammar.read? policy (sourceText ps) = do
        let left ← Grammar.read? policy (sourceText split.left)
        let right ← Grammar.read? policy (sourceText split.right)
        return .joined split.connective left right)
      (hleft : Form policy split.left) (hright : Form policy split.right) : Form policy ps
  | comparison {ps ts : List Piece} (hcore : IsCore ps ts)
      (hgroup : Grammar.group? (sourceText ts) = none)
      (hnot : afterNegation? (sourceText ts) = none)
      (hsplit : splitPieces? .outside ts = none)
      (hread : Grammar.read? policy (sourceText ps) =
        Grammar.readComparison? policy (sourceText ts)) : Form policy ps

/-- Every fragment in pieces has a form. -/
theorem form_of_wellScanned (policy : Policy) {ps : List Piece} (hps : WellScanned .outside ps) :
    Form policy ps := by
  induction hlen : (sourceText ps).length using Nat.strongRecOn generalizing ps with
  | ind n ih =>
    obtain ⟨ts, hcore⟩ := exists_isCore hps
    have hbalanced : isBalanced (trim (sourceText ps)) = true := by
      rw [isBalanced_iff, ← hcore.source, hcore.scanned.openAfter?_sourceText]
    have hle := length_trim_le (sourceText ps)
    rw [← hcore.source] at hle
    cases hgroup : Grammar.group? (sourceText ts) with
    | some group =>
      have hlt := Grammar.length_lt_of_group? hgroup
      obtain ⟨number, rfl⟩ := eq_singleton_of_group? hcore.scanned hgroup
      obtain ⟨qs, hqs, rfl⟩ :=
        exists_pieces_of_openAfter? (group?_eq_some_iff.1 hgroup).2.balanced
      rw [hcore.source] at hgroup
      exact .group hcore (read?_group hbalanced hgroup) (ih _ (by omega) hqs rfl)
    | none =>
      have hgroup' : Grammar.group? (trim (sourceText ps)) = none := by rw [← hcore.source, hgroup]
      cases hnot : afterNegation? (sourceText ts) with
      | some rest =>
        have hlt := length_lt_of_afterNegation? hnot
        obtain ⟨qs, rfl, rfl, -⟩ := exists_pieces_of_afterNegation? hnot
        have hqs := hcore.scanned.of_append.2
        rw [sourceText_charPieces, after_negationMark] at hqs
        rw [hcore.source] at hnot
        exact .negation hcore hgroup (read?_negation hbalanced hgroup' hnot)
          (ih _ (by omega) hqs rfl)
      | none =>
        have hnot' : afterNegation? (trim (sourceText ps)) = none := by rw [← hcore.source, hnot]
        have hsplitFrom := splitFrom?_sourceText hcore.scanned
        cases hsplit : splitPieces? .outside ts with
        | some split =>
          rw [hsplit, Option.map_some] at hsplitFrom
          have hlt := Grammar.length_lt_of_splitFrom? hsplitFrom
          dsimp only at hlt
          have hsplits := splits_of_splitPieces? hcore.scanned hsplit
          rw [hcore.source] at hsplitFrom
          exact .joined hcore hgroup hnot hsplit (read?_joined hbalanced hgroup' hnot' hsplitFrom)
            (ih _ (by omega) hsplits.left rfl) (ih _ (by omega) hsplits.right rfl)
        | none =>
          rw [hsplit, Option.map_none, hcore.source] at hsplitFrom
          have hread := @read?_comparison policy _ hbalanced hgroup' hnot' hsplitFrom
          rw [← hcore.source] at hread
          exact .comparison hcore hgroup hnot hsplit hread

end RecordFilter.Proofs
