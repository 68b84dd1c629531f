import RecordFilter.Proofs.OpaqueText

/-!
# The shortest literal of a text

A text has many literals, since every backslash in it may be written twice. All of them contain the
written one: it is left when the backslashes that are not needed are taken out. It is therefore the
shortest literal of its text, and no other one is as short.
-/

namespace RecordFilter.Proofs
open RecordFilter.Text

lemma encodeBody_cons_of_plain {c : Char} (h : ¬(c = '\'' ∨ c = '\\')) (v : List Char) :
    Literal.encodeBody (c :: v) = c :: Literal.encodeBody v := by
  rw [Literal.encodeBody, if_neg (fun h' => h (h'.imp_right And.left))]

/-- A character is written as itself, or with a backslash before it. -/
lemma encodeBody_cons_sublist (c : Char) (v : List Char) :
    (Literal.encodeBody (c :: v)).Sublist ('\\' :: c :: Literal.encodeBody v) := by
  rw [Literal.encodeBody]
  split
  · exact List.Sublist.refl _
  · exact List.sublist_cons_self _ _

/-- A backslash before a character that needs none stands for itself. -/
lemma encodeBody_backslash_cons {c : Char} (h : ¬(c = '\'' ∨ c = '\\')) (v : List Char) :
    Literal.encodeBody ('\\' :: c :: v) = '\\' :: c :: Literal.encodeBody v := by
  have hescape : Literal.startsEscape (c :: v) = false := by
    simpa [Literal.startsEscape, not_or] using h
  rw [Literal.encodeBody, if_neg (by simp [hescape]), encodeBody_cons_of_plain h]

/-- What is written after the opening quote is contained in whatever stands there in a literal of
the same text. -/
lemma encodeBody_sublist {s v : List Char} (h : Literal.decodeBody s = some v) :
    (Literal.encodeBody v).Sublist s := by
  fun_induction Literal.decodeBody s generalizing v with
  | case1 => cases h
  | case2 =>
    cases h
    exact List.Sublist.refl _
  | case3 => cases h
  | case4 => cases h
  | case5 c rest hescaped ih =>
    -- An escape is kept or loses its backslash.
    obtain ⟨w, hw, rfl⟩ := Option.map_eq_some_iff.1 h
    exact (encodeBody_cons_sublist c w).trans ((ih hw).cons_cons c |>.cons_cons '\\')
  | case6 c rest hplain ih =>
    obtain ⟨w, hw, rfl⟩ := Option.map_eq_some_iff.1 h
    rw [encodeBody_backslash_cons hplain]
    exact (ih hw).cons_cons c |>.cons_cons '\\'
  | case7 c rest hquote hquote' hbackslash hbackslash' ih =>
    obtain ⟨w, hw, rfl⟩ := Option.map_eq_some_iff.1 h
    have hplain := not_or.2 (plain_of_not_special hquote hquote' hbackslash hbackslash')
    rw [encodeBody_cons_of_plain hplain]
    exact (ih hw).cons_cons c

/-- The written literal of a text is contained in every literal of it. -/
lemma encode_sublist {l v : List Char} (h : Literal.decode l = some v) :
    (Literal.encode v).Sublist l := by
  unfold Literal.decode at h
  split at h
  · exact (encodeBody_sublist h).cons_cons '\''
  · cases h

/-- Every text is read back from the literal that is written for it. No literal of the text is
shorter, and none of the same length is another one. -/
theorem encode_isShortest (v : List Char) :
    Literal.decode (Literal.encode v) = some v ∧
      ∀ l, Literal.decode l = some v →
        (Literal.encode v).length ≤ l.length ∧
          (l.length = (Literal.encode v).length → l = Literal.encode v) := by
  refine ⟨Literal.decode_encode v, fun l h => ?_⟩
  have hsublist := encode_sublist h
  exact ⟨hsublist.length_le, fun hlength => (hsublist.eq_of_length hlength.symm).symm⟩

/-- The path `C:\temp\` ends in a backslash, which has to be escaped; the one before `t` need
not be. -/
theorem encode_isShortest_path :
    Literal.decode "'C:\\\\temp\\\\'".toList = some "C:\\temp\\".toList ∧
      (Literal.encode "C:\\temp\\".toList).length ≤ "'C:\\\\temp\\\\'".toList.length ∧
      Literal.decode "'C:\\temp\\\\'".toList = some "C:\\temp\\".toList ∧
      "'C:\\temp\\\\'".toList = Literal.encode "C:\\temp\\".toList := by
  have hlong : Literal.decode "'C:\\\\temp\\\\'".toList = some "C:\\temp\\".toList := by decide
  have hshort : Literal.decode "'C:\\temp\\\\'".toList = some "C:\\temp\\".toList := by decide
  have hshortest := (encode_isShortest "C:\\temp\\".toList).2
  exact ⟨hlong, (hshortest _ hlong).1, hshort, (hshortest _ hshort).2 (by decide)⟩

end RecordFilter.Proofs
