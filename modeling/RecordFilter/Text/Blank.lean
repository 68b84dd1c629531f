/-!
# Blank characters

The characters that separate words are those with the Unicode property White_Space.
This file holds the class and the trimming of a text at both ends. Trimming never makes
a text longer, which is what the recursions over trimmed fragments rest on.
-/

namespace RecordFilter.Text

/-- The character has the Unicode property White_Space. -/
def isBlank (c : Char) : Bool :=
  let n := c.toNat
  (9 ≤ n && n ≤ 13) || n == 0x20 || n == 0x85 || n == 0xA0 || n == 0x1680 ||
    (0x2000 ≤ n && n ≤ 0x200A) || n == 0x2028 || n == 0x2029 || n == 0x202F ||
    n == 0x205F || n == 0x3000

/-- The text without its leading blanks. -/
def trimStart (s : List Char) : List Char :=
  s.dropWhile isBlank

/-- The text without its trailing blanks. -/
def trimEnd (s : List Char) : List Char :=
  (s.reverse.dropWhile isBlank).reverse

/-- The text without blanks at either end. -/
def trim (s : List Char) : List Char :=
  trimEnd (trimStart s)

theorem isBlank_of_isWhitespace {c : Char} (h : c.isWhitespace = true) : isBlank c = true := by
  simp only [Char.isWhitespace, Bool.or_eq_true, decide_eq_true_eq] at h
  obtain ((rfl | rfl) | rfl) | rfl := h <;> decide

theorem length_trimStart_le (s : List Char) : (trimStart s).length ≤ s.length :=
  (List.dropWhile_sublist _).length_le

theorem length_trimEnd_le (s : List Char) : (trimEnd s).length ≤ s.length := by
  have h := (List.dropWhile_sublist isBlank (l := s.reverse)).length_le
  simpa [trimEnd] using h

theorem length_trim_le (s : List Char) : (trim s).length ≤ s.length :=
  Nat.le_trans (length_trimEnd_le _) (length_trimStart_le s)

end RecordFilter.Text
