import RecordFilter.Proofs.FlatForms
import RecordFilter.Proofs.ScannedText
import RecordFilter.Proofs.Surroundings

/-!
# Cuts outside literals

A text is split at every delimiter, and cut at the first of several separators, that the scan reads
outside literals. A split loses nothing and leaves no delimiter to split at (`split_lossless`). A
search for a separator finds the leftmost one, the first in the list of those that start there, and
finds none only where there is none (`findSeparator?_leftmost`). Both pieces of a cut are read alone
as they are read in the text.
-/

namespace RecordFilter.Proofs
open RecordFilter.Text

lemma intercalate_modifyHead_cons (delimiter c : Char) {parts : List (List Char)} (h : parts ≠ []) :
    [delimiter].intercalate (parts.modifyHead (c :: ·)) = c :: [delimiter].intercalate parts := by
  obtain ⟨first, rest, rfl⟩ := List.exists_cons_of_ne_nil h
  cases rest with
  | nil => rw [List.modifyHead_cons, List.intercalate_singleton, List.intercalate_singleton]
  | cons second rest =>
    rw [List.modifyHead_cons, List.intercalate_cons_cons, List.intercalate_cons_cons]
    rfl

lemma intercalate_splitFrom (delimiter : Char) (q : QuoteState) (s : List Char) :
    [delimiter].intercalate (splitFrom delimiter q s) = s := by
  induction s generalizing q with
  | nil => rw [splitFrom, List.intercalate_singleton]
  | cons c s ih =>
    have hne := splitFrom_ne_nil delimiter (q.next c) s
    rw [splitFrom]
    split
    · next hcut =>
      obtain ⟨-, rfl⟩ : q.isStructural c = true ∧ c = delimiter := by simpa using hcut
      rw [List.intercalate_cons_of_ne_nil hne, ih]
      rfl
    · rw [intercalate_modifyHead_cons delimiter c hne, ih]

lemma length_splitFrom (delimiter : Char) (q : QuoteState) (s : List Char) :
    (splitFrom delimiter q s).length = countStructural delimiter q s + 1 := by
  induction s generalizing q with
  | nil => rfl
  | cons c s ih =>
    rw [splitFrom, countStructural]
    by_cases hcut : q.isStructural c = true ∧ c = delimiter
    · rw [if_pos (by simpa using hcut), if_pos hcut, List.length_cons, ih, Nat.add_comm 1]
    · rw [if_neg (by simpa using hcut), if_neg hcut, List.length_modifyHead, ih, Nat.zero_add]

/-- The first part is read from the state of the text and all others from outside, and in none of
them a delimiter is left. -/
lemma exists_parts_of_splitFrom (delimiter : Char) (q : QuoteState) (s : List Char) :
    ∃ first rest, splitFrom delimiter q s = first :: rest ∧
      countStructural delimiter q first = 0 ∧
      ∀ part ∈ rest, countStructural delimiter .outside part = 0 := by
  induction s generalizing q with
  | nil => exact ⟨[], [], rfl, rfl, by simp⟩
  | cons c s ih =>
    obtain ⟨first, rest, hparts, hfirst, hrest⟩ := ih (q.next c)
    rw [splitFrom, hparts]
    split
    · next hcut =>
      -- The part that follows a cut starts outside, as a text of its own does.
      rw [QuoteState.next_of_isStructural (Bool.and_eq_true_iff.1 hcut).1] at hfirst
      exact ⟨[], first :: rest, rfl, rfl, List.forall_mem_cons.2 ⟨hfirst, hrest⟩⟩
    · next hcut =>
      refine ⟨c :: first, rest, rfl, ?_, hrest⟩
      rw [countStructural, hfirst, if_neg (by simpa using hcut)]

/-- A split text is put together from its parts with the delimiter between them. It has one part
more than it has delimiters outside literals, and no part of it can be split again. -/
theorem split_lossless (delimiter : Char) (s : List Char) :
    [delimiter].intercalate (split delimiter s) = s ∧
    (split delimiter s).length =
      ((scan s).countP fun r => r.isStructural && r.char == delimiter) + 1 ∧
    ∀ part ∈ split delimiter s, split delimiter part = [part] := by
  refine ⟨intercalate_splitFrom delimiter .outside s, ?_, fun part hpart => ?_⟩
  · rw [split, length_splitFrom, countStructural_eq_countP delimiter 0, scan]
  · obtain ⟨first, rest, hparts, hfirst, hrest⟩ := exists_parts_of_splitFrom delimiter .outside s
    rw [split, hparts] at hpart
    rcases List.mem_cons.1 hpart with rfl | hpart
    · exact splitFrom_of_countStructural hfirst
    · exact splitFrom_of_countStructural (hrest part hpart)

/-- A literal with commas, one that stays open, and characters of more than one byte. -/
theorem split_lossless_openLiteral :
    split ',' "'a, b', é,'c, d".toList = ["'a, b'".toList, " é".toList, "'c, d".toList] ∧
      [','].intercalate (split ',' "'a, b', é,'c, d".toList) = "'a, b', é,'c, d".toList ∧
      ((scan "'a, b', é,'c, d".toList).countP fun r => r.isStructural && r.char == ',') = 2 ∧
      split ',' "'c, d".toList = ["'c, d".toList] := by
  have hparts : split ',' "'a, b', é,'c, d".toList =
      ["'a, b'".toList, " é".toList, "'c, d".toList] := by decide
  obtain ⟨hwhole, hlength, hagain⟩ := split_lossless ',' "'a, b', é,'c, d".toList
  rw [hparts] at hlength hagain
  exact ⟨hparts, hwhole, (Nat.succ.inj hlength).symm, hagain _ (by simp)⟩

/-! ### Searches -/

/-- A word stands in a text behind its first `offset` bytes. -/
def StandsAt (w s : List Char) (offset : Nat) : Prop :=
  ∃ before after, s = before ++ w ++ after ∧ byteLength before = offset

lemma standsAt_iff {w before after : List Char} :
    StandsAt w (before ++ after) (byteLength before) ↔ w <+: after := by
  constructor
  · rintro ⟨before', after', hs, hbytes⟩
    rw [List.append_assoc] at hs
    obtain rfl := eq_of_byteLength_eq hs hbytes.symm
    exact ⟨after', (List.append_cancel_left hs).symm⟩
  · rintro ⟨after', rfl⟩
    exact ⟨before, after', (List.append_assoc _ _ _).symm, rfl⟩

/-- The separator taken at a character outside literals is the first in the list that the text goes
on with. -/
lemma separatorAt?_eq_some_iff {separators : List String} {q : QuoteState} {c : Char}
    {s w : List Char} :
    separatorAt? (separators.map String.toList) q (c :: s) = some w ↔
      q.isStructural c = true ∧ ∃ separator, separator.toList = w ∧ w <+: c :: s ∧
        ∃ earlier later, separators = earlier ++ separator :: later ∧
          ∀ w' ∈ earlier, ¬w'.toList <+: c :: s := by
  rw [separatorAt?]
  by_cases hc : q.isStructural c = true
  · rw [if_pos hc, List.find?_map, Option.map_eq_some_iff]
    simp only [hc, true_and, List.find?_eq_some_iff_append, Function.comp_apply,
      List.isPrefixOf_iff_prefix, Bool.not_eq_true', Bool.eq_false_iff, ne_eq]
    constructor
    · rintro ⟨separator, ⟨hstarts, hfirst⟩, rfl⟩
      exact ⟨separator, rfl, hstarts, hfirst⟩
    · rintro ⟨separator, rfl, hstarts, hfirst⟩
      exact ⟨separator, ⟨hstarts, hfirst⟩, rfl⟩
  · simp [hc]

lemma separatorAt?_eq_none_iff {separators : List String} {q : QuoteState} {c : Char}
    {s : List Char} :
    separatorAt? (separators.map String.toList) q (c :: s) = none ↔
      (q.isStructural c = true → ∀ w ∈ separators, ¬w.toList <+: c :: s) := by
  rw [separatorAt?]
  by_cases hc : q.isStructural c = true
  · simp [hc]
  · simp [hc]

/-- No separator is taken at any of the first `length` characters of a text. -/
def FreeUpTo (separators : List (List Char)) (q : QuoteState) (s : List Char) (length : Nat) :
    Prop :=
  ∀ before c after, s = before ++ c :: after → before.length < length →
    separatorAt? separators (q.after before) (c :: after) = none

lemma FreeUpTo.cons {separators : List (List Char)} {q : QuoteState} {c : Char} {s : List Char}
    {length : Nat} (hc : separatorAt? separators q (c :: s) = none)
    (hs : FreeUpTo separators (q.next c) s length) :
    FreeUpTo separators q (c :: s) (length + 1) := by
  intro before d after heq hlt
  cases before with
  | nil =>
    obtain ⟨rfl, rfl⟩ := List.cons_eq_cons.1 heq
    exact hc
  | cons e before =>
    obtain ⟨rfl, rfl⟩ := List.cons_eq_cons.1 heq
    exact hs before d after rfl (Nat.lt_of_succ_lt_succ hlt)

lemma freeUpTo_of_cutFrom?_eq_none {separators : List (List Char)} {q : QuoteState} {s : List Char}
    (h : cutFrom? separators q s = none) : FreeUpTo separators q s s.length := by
  induction s generalizing q with
  | nil =>
    intro before c after heq
    simp at heq
  | cons c s ih =>
    rw [cutFrom?] at h
    split at h
    · cases h
    · next hc => exact .cons hc (ih (Option.map_eq_none_iff.1 h))

/-- A cut is made where a separator is taken, and none is taken before. -/
lemma freeUpTo_of_cutFrom?_eq_some {separators : List (List Char)} {q : QuoteState} {s : List Char}
    {cut : Cut} (h : cutFrom? separators q s = some cut) :
    separatorAt? separators (q.after cut.before) (cut.separator ++ cut.after) =
        some cut.separator ∧
      FreeUpTo separators q s cut.before.length := by
  induction s generalizing q cut with
  | nil => simp [cutFrom?] at h
  | cons c s ih =>
    rw [cutFrom?] at h
    split at h
    · next separator hsep =>
      cases h
      have hwhole : separator ++ (c :: s).drop separator.length = c :: s :=
        List.prefix_iff_eq_append.1 (separatorAt?_eq_some hsep).2
      refine ⟨?_, fun before d after _ hlt => absurd hlt (Nat.not_lt_zero _)⟩
      rw [QuoteState.after_nil, hwhole]
      exact hsep
    · next hc =>
      obtain ⟨cut', hcut', rfl⟩ := Option.map_eq_some_iff.1 h
      obtain ⟨htaken, hfree⟩ := ih hcut'
      exact ⟨htaken, hfree.cons hc⟩

/-- Nowhere among the first `length` characters of a text a separator stands outside literals. -/
lemma FreeUpTo.not_standsAt {separators : List String} {s : List Char} {length : Nat}
    (h : FreeUpTo (separators.map String.toList) .outside s length) {before after : List Char}
    {r : Reading} (hs : s = before ++ r.char :: after) (hoffset : r.offset = byteLength before)
    (hstate : r.state = QuoteState.outside.after before) (hlt : before.length < length)
    (hr : r.isStructural = true) {w : String} (hw : w ∈ separators) :
    ¬StandsAt w.toList s r.offset := by
  have hnone := h before r.char after hs hlt
  rw [← hstate, separatorAt?_eq_none_iff] at hnone
  rw [hs, hoffset, standsAt_iff]
  exact hnone hr w hw

/-- A text in three pieces: `separator` starts outside literals, it is the first in the list of
those that stand there, and at no character outside literals before it a separator starts. -/
structure IsFirstSeparator (separators : List String) (s before separator after : String) :
    Prop where
  text : s = before ++ separator ++ after
  outside : ∃ r ∈ scan s.toList, r.isStructural = true ∧ r.offset = before.utf8ByteSize ∧
    separator.toList.head? = some r.char
  first : ∃ earlier later, separators = earlier ++ separator :: later ∧
    ∀ w ∈ earlier, ¬StandsAt w.toList s.toList before.utf8ByteSize
  leftmost : ∀ r ∈ scan s.toList, r.isStructural = true → r.offset < before.utf8ByteSize →
    ∀ w ∈ separators, ¬StandsAt w.toList s.toList r.offset

namespace IsFirstSeparator

variable {separators : List String} {s before separator after : String}

lemma mem (h : IsFirstSeparator separators s before separator after) : separator ∈ separators := by
  obtain ⟨earlier, later, rfl, -⟩ := h.first
  exact List.mem_append_right _ List.mem_cons_self

lemma standsAt (h : IsFirstSeparator separators s before separator after) :
    StandsAt separator.toList s.toList before.utf8ByteSize := by
  refine ⟨before.toList, after.toList, ?_, byteLength_toList before⟩
  rw [h.text, String.toList_append, String.toList_append]

/-- At the character where it starts, the first separator stands. -/
lemma exists_reading (h : IsFirstSeparator separators s before separator after) :
    ∃ r ∈ scan s.toList, r.isStructural = true ∧ r.offset = before.utf8ByteSize ∧
      StandsAt separator.toList s.toList r.offset := by
  obtain ⟨r, hr, hstructural, hoffset, -⟩ := h.outside
  refine ⟨r, hr, hstructural, hoffset, ?_⟩
  rw [hoffset]
  exact h.standsAt

lemma after_before (h : IsFirstSeparator separators s before separator after) :
    QuoteState.outside.after before.toList = .outside := by
  obtain ⟨r, hr, hstructural, hoffset, -⟩ := h.outside
  obtain ⟨before', after', hs, hoffset', hstate⟩ := mem_scan_iff.1 hr
  rw [h.text, String.toList_append, String.toList_append, List.append_assoc] at hs
  rw [hoffset, ← byteLength_toList] at hoffset'
  rw [eq_of_byteLength_eq hs hoffset', ← hstate]
  exact (QuoteState.isStructural_iff.1 hstructural).1

/-- Behind a separator without quotes the text is read as it is read alone. -/
lemma scan_eq (h : IsFirstSeparator separators s before separator after)
    (hquote : '\'' ∉ separator.toList) :
    scan s.toList = scan (before ++ separator).toList ++
      (scan after.toList).map (moved (before ++ separator).utf8ByteSize) := by
  have hafter : QuoteState.outside.after (before ++ separator).toList = .outside := by
    rw [String.toList_append, QuoteState.after_append, h.after_before,
      after_outside_of_no_quote hquote]
  rw [h.text, String.toList_append, scan_append hafter, byteLength_toList]

variable {before' separator' after' : String}

lemma size_le (h : IsFirstSeparator separators s before separator after)
    (h' : IsFirstSeparator separators s before' separator' after') :
    before.utf8ByteSize ≤ before'.utf8ByteSize := by
  by_contra hlt
  obtain ⟨r, hr, hstructural, hoffset, hstands⟩ := h'.exists_reading
  exact h.leftmost r hr hstructural (by omega) separator' h'.mem hstands

/-- There is one first separator. -/
lemma unique (h : IsFirstSeparator separators s before separator after)
    (h' : IsFirstSeparator separators s before' separator' after') :
    before.utf8ByteSize = before'.utf8ByteSize ∧ separator = separator' := by
  have hsize := Nat.le_antisymm (h.size_le h') (h'.size_le h)
  refine ⟨hsize, ?_⟩
  obtain ⟨earlier, later, hlist, hfirst⟩ := h.first
  obtain ⟨earlier', later', hlist', hfirst'⟩ := h'.first
  -- Of two separators at one place, the later in the list is not the first that stands there.
  rcases append_cons_eq_append_cons (hlist.symm.trans hlist') with
    ⟨w, rfl, -⟩ | ⟨-, heq, -⟩ | ⟨w, rfl, -⟩
  · refine absurd h'.standsAt ?_
    rw [← hsize]
    exact hfirst _ (List.mem_append_right _ List.mem_cons_self)
  · exact heq
  · refine absurd h.standsAt ?_
    rw [hsize]
    exact hfirst' _ (List.mem_append_right _ List.mem_cons_self)

end IsFirstSeparator

section Search

variable {separators : List String} {s : String}

/-- What is found is the first separator. -/
lemma exists_isFirstSeparator (hne : ∀ w ∈ separators, w ≠ "") {separator : String} {offset : Nat}
    (h : findSeparator? separators s = some (offset, separator)) :
    ∃ before after, IsFirstSeparator separators s before separator after ∧
      before.utf8ByteSize = offset := by
  obtain ⟨⟨before, w, after⟩, hcut, heq⟩ := Option.map_eq_some_iff.1 h
  obtain ⟨rfl, rfl⟩ := Prod.mk.inj heq
  obtain ⟨htaken, hfree⟩ := freeUpTo_of_cutFrom?_eq_some hcut
  have hwhole : s.toList = before ++ (w ++ after) := by
    rw [← whole_of_cutFrom? hcut, Cut.whole, List.append_assoc]
  have hsize : (String.ofList before).utf8ByteSize = byteLength before := by
    rw [← byteLength_toList, String.toList_ofList]
  obtain ⟨word, hword, rfl⟩ := List.mem_map.1 (mem_separators_of_cutFrom? hcut)
  rw [String.ofList_toList]
  -- The separator has a first character, which is the one that is read outside.
  have hchars : word.toList ≠ [] := fun hnil => hne word hword (String.toList_eq_nil_iff.1 hnil)
  obtain ⟨c, rest, hcons⟩ := List.exists_cons_of_ne_nil hchars
  have hbehind : word.toList ++ after = c :: (rest ++ after) := by rw [hcons, List.cons_append]
  rw [hbehind] at htaken hwhole
  obtain ⟨hstructural, separator, hseparator, -, earlier, later, hlist, hfirst⟩ :=
    separatorAt?_eq_some_iff.1 htaken
  obtain rfl : separator = word := String.toList_inj.1 hseparator
  have hread : ⟨byteLength before, c, QuoteState.outside.after before⟩ ∈ scan s.toList :=
    mem_scan_iff.2 ⟨before, rest ++ after, hwhole, rfl, rfl⟩
  refine ⟨String.ofList before, String.ofList after, ?_, hsize⟩
  constructor
  · rw [← String.toList_inj, String.toList_append, String.toList_append, String.toList_ofList,
      String.toList_ofList, List.append_assoc, hbehind, hwhole]
  · exact ⟨_, hread, hstructural, hsize.symm, by rw [hcons, List.head?_cons]⟩
  · refine ⟨earlier, later, hlist, fun w hw => ?_⟩
    rw [hsize, hwhole, standsAt_iff]
    exact hfirst w hw
  · intro r hr hstructural hlt w hw
    obtain ⟨before', after', hs, hoffset, hstate⟩ := mem_scan_iff.1 hr
    rw [hsize, hoffset] at hlt
    have hshort := length_lt_of_byteLength_lt (hs.symm.trans hwhole) hlt
    exact hfree.not_standsAt hs hoffset hstate hshort hstructural hw

/-- A search that finds nothing passes over characters where no separator stands. -/
lemma not_standsAt_of_findSeparator?_eq_none (h : findSeparator? separators s = none) {r : Reading}
    (hr : r ∈ scan s.toList) (hstructural : r.isStructural = true) {w : String}
    (hw : w ∈ separators) : ¬StandsAt w.toList s.toList r.offset := by
  have hfree := freeUpTo_of_cutFrom?_eq_none (Option.map_eq_none_iff.1 h)
  obtain ⟨before, after, hs, hoffset, hstate⟩ := mem_scan_iff.1 hr
  have hshort : before.length < s.toList.length := by
    rw [hs, List.length_append, List.length_cons]
    omega
  exact hfree.not_standsAt hs hoffset hstate hshort hstructural hw

lemma findSeparator?_eq_none_iff (hne : ∀ w ∈ separators, w ≠ "") :
    findSeparator? separators s = none ↔ ∀ r ∈ scan s.toList, r.isStructural = true →
      ∀ w ∈ separators, ¬StandsAt w.toList s.toList r.offset := by
  constructor
  · intro h r hr hstructural w hw
    exact not_standsAt_of_findSeparator?_eq_none h hr hstructural hw
  · intro h
    rw [Option.eq_none_iff_forall_ne_some]
    rintro ⟨offset, separator⟩ hsome
    obtain ⟨before, after, hfirst, -⟩ := exists_isFirstSeparator hne hsome
    obtain ⟨r, hr, hstructural, -, hstands⟩ := hfirst.exists_reading
    exact h r hr hstructural separator hfirst.mem hstands

/-- If a text has a first separator, it is found: something is found, and there is no other. -/
lemma IsFirstSeparator.findSeparator?_eq_some (hne : ∀ w ∈ separators, w ≠ "")
    {before separator after : String} (h : IsFirstSeparator separators s before separator after) :
    findSeparator? separators s = some (before.utf8ByteSize, separator) := by
  cases hsearch : findSeparator? separators s with
  | none =>
    obtain ⟨r, hr, hstructural, -, hstands⟩ := h.exists_reading
    exact absurd hstands (not_standsAt_of_findSeparator?_eq_none hsearch hr hstructural h.mem)
  | some found =>
    obtain ⟨before', after', h', hsize⟩ := exists_isFirstSeparator hne hsearch
    obtain ⟨hsize', rfl⟩ := h.unique h'
    rw [hsize', hsize]

end Search

/-- A search finds the first separator, and finds nothing only where no separator starts outside
literals. Behind a separator without quotes the text is read as it is read alone. -/
theorem findSeparator?_leftmost {separators : List String} (hne : ∀ w ∈ separators, w ≠ "")
    (s : String) :
    (∀ offset separator, findSeparator? separators s = some (offset, separator) ↔
      ∃ before after, IsFirstSeparator separators s before separator after ∧
        before.utf8ByteSize = offset) ∧
    (findSeparator? separators s = none ↔
      ∀ r ∈ scan s.toList, r.isStructural = true → ∀ w ∈ separators,
        ¬StandsAt w.toList s.toList r.offset) ∧
    ∀ before separator after, IsFirstSeparator separators s before separator after →
      '\'' ∉ separator.toList →
      scan s.toList = scan (before ++ separator).toList ++
        (scan after.toList).map (moved (before ++ separator).utf8ByteSize) := by
  refine ⟨fun offset separator => ⟨exists_isFirstSeparator hne, ?_⟩,
    findSeparator?_eq_none_iff hne, fun before separator after hfirst => hfirst.scan_eq⟩
  rintro ⟨before, after, hfirst, rfl⟩
  exact hfirst.findSeparator?_eq_some hne

/-- A separator in a literal is passed over, and so is a field with a character of two bytes before
it. Where the only separator is in a literal, none is found. -/
theorem findSeparator?_leftmost_quotedConnective :
    (∀ w ∈ [" and ", " or "], w ≠ "") ∧
      findSeparator? [" and ", " or "] "é eq 'a and b' or B eq 3" = some (15, " or ") ∧
      (∃ before after,
        IsFirstSeparator [" and ", " or "] "é eq 'a and b' or B eq 3" before " or " after ∧
          before.utf8ByteSize = 15 ∧
          scan "é eq 'a and b' or B eq 3".toList = scan (before ++ " or ").toList ++
            (scan after.toList).map (moved (before ++ " or ").utf8ByteSize)) ∧
      findSeparator? [" and ", " or "] "A eq 'b or c'" = none ∧
      ∀ r ∈ scan "A eq 'b or c'".toList, r.isStructural = true → ∀ w ∈ [" and ", " or "],
        ¬StandsAt w.toList "A eq 'b or c'".toList r.offset := by
  have hne : ∀ w ∈ [" and ", " or "], w ≠ "" := by decide
  have hsome : findSeparator? [" and ", " or "] "é eq 'a and b' or B eq 3" = some (15, " or ") := by
    decide +kernel
  have hnone : findSeparator? [" and ", " or "] "A eq 'b or c'" = none := by decide +kernel
  obtain ⟨hfound, -, hread⟩ := findSeparator?_leftmost hne "é eq 'a and b' or B eq 3"
  obtain ⟨before, after, hfirst, hsize⟩ := (hfound _ _).1 hsome
  exact ⟨hne, hsome, ⟨before, after, hfirst, hsize, hread _ _ _ hfirst (by decide)⟩, hnone,
    (findSeparator?_leftmost hne "A eq 'b or c'").2.1.1 hnone⟩

end RecordFilter.Proofs
