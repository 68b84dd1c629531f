import RecordFilter.Proofs.GrammarForms
import RecordFilter.Proofs.PlaceholderLinearity

/-!
# How a flat fragment is read

Whatever text a fragment in pieces has, the reader of its flat text takes one of four ways: it takes
a group, reads a negation, reads two fragments with a connective between them, or reads a
comparison. `FlatForm` says which way it takes, for every policy and all slots alike, so that a
statement about flat reading is proved by one case for each way.
-/

namespace RecordFilter.Proofs
open RecordFilter.Text RecordFilter.Parser RecordFilter.Number

/-- Pieces whose flat text begins no placeholder are the characters of that text. -/
lemma eq_charPieces_of_flatText {ps : List Piece} {s : List Char} (hs : '@' ∉ s)
    (h : flatText ps = s) : ps = charPieces s := by
  have hpre : s <+: flatText ps := h ▸ List.prefix_rfl
  obtain ⟨rest, rfl⟩ := exists_charPieces_of_prefix_flatText hs hpre
  rw [flatText_append, flatText_charPieces, List.append_right_eq_self] at h
  cases rest with
  | nil => rw [List.append_nil]
  | cons p rest => cases p <;> cases h

/-- A flat text that is exactly a placeholder was typed as it stands, or is a group that digits
follow. -/
lemma pieces_of_placeholderNumber? {ps : List Piece} {number : Nat}
    (h : placeholderNumber? (flatText ps) = some number) :
    ∃ digits, (∀ c ∈ digits, c.isDigit = true) ∧
      (ps = charPieces (placeholderMark ++ digits) ∧ digits ≠ [] ∧ number = digitsValue digits ∨
        ∃ slot source, ps = .group slot source :: charPieces digits ∧
          number = digitsValue (digitsOf slot ++ digits)) := by
  obtain ⟨digits, hflat, hne, hdigits, rfl⟩ := placeholderNumber?_eq_some_iff.1 h
  have hat := at_not_mem_of_digits hdigits
  cases ps with
  | nil => cases hflat
  | cons p ps =>
    cases p with
    | char c =>
      obtain ⟨rfl, htail⟩ := List.cons_eq_cons.1 hflat
      have htail' : '@' ∉ placeholderMark.tail ++ digits := by
        rw [List.mem_append, not_or]
        exact ⟨by decide, hat⟩
      refine ⟨digits, List.all_eq_true.1 hdigits, .inl ⟨?_, hne, rfl⟩⟩
      rw [eq_charPieces_of_flatText htail' htail]
      rfl
    | group slot source =>
      rw [flatText, placeholder, List.append_assoc] at hflat
      obtain rfl := List.append_cancel_left hflat
      rw [List.all_append, Bool.and_eq_true] at hdigits
      refine ⟨flatText ps, List.all_eq_true.1 hdigits.2, .inr ⟨slot, source, ?_, rfl⟩⟩
      rw [← eq_charPieces_of_flatText (at_not_mem_of_digits hdigits.2) rfl]

/-! ### The ways of reading -/

/-- What trimming leaves of a fragment in pieces, and that it took nothing but blanks. -/
structure IsCoreBetween (ps ts : List Piece) : Prop extends IsCore ps ts where
  between : ∃ x y, Blanks x ∧ Blanks y ∧ ps = charPieces x ++ (ts ++ charPieces y)

/-- The way in which the flat text of a fragment in pieces is read. -/
inductive FlatForm : List Piece → Prop
  | placeholder {ps ts : List Piece} {number : Nat} (hcore : IsCoreBetween ps ts)
      (hnumber : placeholderNumber? (flatText ts) = some number)
      (hread : ∀ policy slots, readFlat policy (flatText ps) slots = (slots.take? number).elim
        (.error (.unknownPlaceholder (String.ofList (flatText ts)))) .ok) : FlatForm ps
  | negation {ps qs : List Piece} (hcore : IsCoreBetween ps (charPieces negationMark ++ qs))
      (hread : ∀ policy slots, readFlat policy (flatText ps) slots = do
        let (inner, slots) ← readFlat policy (flatText qs) slots
        return (.negation inner, slots))
      (hqs : WellScanned .outside qs) (hinner : FlatForm qs) : FlatForm ps
  | joined {ps ts : List Piece} {split : PieceSplit} (hcore : IsCoreBetween ps ts)
      (hsplit : splitPieces? .outside ts = some split)
      (hread : ∀ policy slots, readFlat policy (flatText ps) slots = do
        let (left, slots) ← readFlat policy (flatText split.left) slots
        let (right, slots) ← readFlat policy (flatText split.right) slots
        return (.joined split.connective left right, slots))
      (hleft : FlatForm split.left) (hright : FlatForm split.right) : FlatForm ps
  | comparison {ps ts : List Piece} (hcore : IsCoreBetween ps ts)
      (hread : ∀ policy slots, readFlat policy (flatText ps) slots = do
        let comparison ← readComparison policy slots (flatText ts)
        return (comparison, slots)) : FlatForm ps

/-- The pieces after a negation that the flat text begins with. -/
lemma exists_pieces_of_afterNegation?_flatText {ps : List Piece} {rest : List Char}
    (h : afterNegation? (flatText ps) = some rest) :
    ∃ qs, ps = charPieces negationMark ++ qs ∧ rest = flatText qs := by
  have hflat := afterNegation?_eq_some_iff.1 h
  obtain ⟨qs, rfl⟩ := exists_charPieces_of_prefix_flatText (by decide) ⟨rest, hflat.symm⟩
  rw [flatText_append, flatText_charPieces] at hflat
  exact ⟨qs, rfl, (List.append_cancel_left hflat).symm⟩

/-- Every fragment in pieces is read in one of the four ways. -/
theorem flatForm_of_wellScanned {ps : List Piece} (hps : WellScanned .outside ps) : FlatForm ps := by
  induction hlen : (flatText ps).length using Nat.strongRecOn generalizing ps with
  | ind n ih =>
    obtain ⟨x, y, ts, hx, hy, hpieces, htrimmed⟩ := exists_isCore_between hps
    have hcore : IsCoreBetween ps ts := ⟨htrimmed, x, y, hx, hy, hpieces⟩
    have htrim := length_trim_le (flatText ps)
    rw [← hcore.flat] at htrim
    cases hnumber : placeholderNumber? (flatText ts) with
    | some number =>
      refine .placeholder hcore hnumber fun policy slots => ?_
      rw [readFlat_placeholder (hcore.flat ▸ hnumber), hcore.flat]
    | none =>
      cases hnot : afterNegation? (flatText ts) with
      | some rest =>
        have hlt := length_lt_of_afterNegation? hnot
        have hread := fun policy slots =>
          @readFlat_negation policy _ slots _ (hcore.flat ▸ hnumber) (hcore.flat ▸ hnot)
        obtain ⟨qs, rfl, rfl⟩ := exists_pieces_of_afterNegation?_flatText hnot
        have hqs := hcore.scanned.of_append.2
        rw [sourceText_charPieces, after_negationMark] at hqs
        exact .negation hcore hread hqs (ih _ (by omega) hqs rfl)
      | none =>
        have hsplitFlat := splitAtConnective?_flatText hcore.scanned
        cases hsplit : splitPieces? .outside ts with
        | some split =>
          rw [hsplit, Option.map_some] at hsplitFlat
          have hlt := length_lt_of_splitAtConnective? hsplitFlat
          dsimp only at hlt
          have hsplits := splits_of_splitPieces? hcore.scanned hsplit
          exact .joined hcore hsplit
            (fun policy slots => readFlat_joined (hcore.flat ▸ hnumber) (hcore.flat ▸ hnot)
              (hcore.flat ▸ hsplitFlat))
            (ih _ (by omega) hsplits.left rfl) (ih _ (by omega) hsplits.right rfl)
        | none =>
          rw [hsplit, Option.map_none] at hsplitFlat
          refine .comparison hcore fun policy slots => ?_
          rw [readFlat_comparison (hcore.flat ▸ hnumber) (hcore.flat ▸ hnot)
            (hcore.flat ▸ hsplitFlat), hcore.flat]

end RecordFilter.Proofs
