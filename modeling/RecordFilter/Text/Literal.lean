/-!
# Quoted literals

A literal stands between single quotes. A backslash before a quote or another backslash stands
for that character; before anything else it stands for itself. `Literal.encode` writes a
backslash only where it would otherwise start an escape, and `Literal.decode` reads every
literal, also one with more backslashes than needed. Main statement: `decode_encode`.
-/

namespace RecordFilter.Text.Literal

/-- Reads on after the opening quote. The closing quote has to be the last character. -/
def decodeBody : List Char → Option (List Char)
  | [] => none
  | ['\''] => some []
  | '\'' :: _ :: _ => none
  | ['\\'] => none
  | '\\' :: c :: rest =>
    if c = '\'' ∨ c = '\\' then (decodeBody rest).map (c :: ·)
    else (decodeBody rest).map ('\\' :: c :: ·)
  | c :: rest => (decodeBody rest).map (c :: ·)

/-- The text that a literal stands for; `none` unless the whole of `s` is one literal. -/
def decode : List Char → Option (List Char)
  | '\'' :: rest => decodeBody rest
  | _ => none

/-- A backslash in front of `rest` and the closing quote would start an escape. -/
def startsEscape : List Char → Bool
  | [] => true
  | c :: _ => c == '\'' || c == '\\'

/-- Writes what follows the opening quote. -/
def encodeBody : List Char → List Char
  | [] => ['\'']
  | c :: rest =>
    if c = '\'' ∨ (c = '\\' ∧ startsEscape rest) then '\\' :: c :: encodeBody rest
    else c :: encodeBody rest

def encode (s : List Char) : List Char :=
  '\'' :: encodeBody s

theorem decodeBody_cons_of_plain {c : Char} (hq : c ≠ '\'') (hb : c ≠ '\\') (rest : List Char) :
    decodeBody (c :: rest) = (decodeBody rest).map (c :: ·) := by
  rw [decodeBody] <;> simp_all

theorem decodeBody_escape {c : Char} (h : c = '\'' ∨ c = '\\') (rest : List Char) :
    decodeBody ('\\' :: c :: rest) = (decodeBody rest).map (c :: ·) := by
  rw [decodeBody, if_pos h]

theorem decodeBody_backslash {c : Char} (h : ¬(c = '\'' ∨ c = '\\')) (rest : List Char) :
    decodeBody ('\\' :: c :: rest) = (decodeBody (c :: rest)).map ('\\' :: ·) := by
  rw [decodeBody, if_neg h, decodeBody_cons_of_plain (fun h' => h (.inl h')) (fun h' => h (.inr h')),
    Option.map_map]
  rfl

theorem decodeBody_encodeBody (s : List Char) : decodeBody (encodeBody s) = some s := by
  induction s with
  | nil => rfl
  | cons c rest ih =>
    rw [encodeBody]
    split
    · next h => rw [decodeBody_escape (h.imp_right And.left), ih, Option.map_some]
    · next h =>
      by_cases hb : c = '\\'
      · subst hb
        cases rest with
        | nil => simp [startsEscape] at h
        | cons d rest =>
          have hd : ¬(d = '\'' ∨ d = '\\') := by simpa [startsEscape] using h
          have henc : encodeBody (d :: rest) = d :: encodeBody rest := by
            rw [encodeBody, if_neg (fun h' => hd (h'.imp_right And.left))]
          rw [henc] at ih ⊢
          rw [decodeBody_backslash hd, ih, Option.map_some]
      · rw [decodeBody_cons_of_plain (fun h' => h (.inl h')) hb, ih, Option.map_some]

/-- A literal reads back as the text it was written for. -/
theorem decode_encode (s : List Char) : decode (encode s) = some s :=
  decodeBody_encodeBody s

end RecordFilter.Text.Literal
