import RecordFilter.Json.Basic

/-!
# JSON tokens

The lexical level of JSON: brackets, separators, strings, numbers and the three literal names.
Every token takes at least one character off the text (`length_lt_of_readToken?`), so reading all
tokens ends.
-/

namespace RecordFilter

open RecordFilter.Number

inductive JsonToken where
  | openBracket
  | closeBracket
  | openBrace
  | closeBrace
  | comma
  | colon
  | string (value : String)
  | atom (value : Json)

namespace JsonToken

/-- The characters that may stand between tokens. -/
def isGap (c : Char) : Bool :=
  c == ' ' || c == '\n' || c == '\t' || c == '\r'

/-- The value of a hexadecimal digit. -/
def hexValue? (c : Char) : Option Nat :=
  if '0' ≤ c ∧ c ≤ '9' then some (c.toNat - '0'.toNat)
  else if 'a' ≤ c ∧ c ≤ 'f' then some (c.toNat - 'a'.toNat + 10)
  else if 'A' ≤ c ∧ c ≤ 'F' then some (c.toNat - 'A'.toNat + 10)
  else none

/-- Reads four hexadecimal digits. -/
def readUnit? : List Char → Option (Nat × List Char)
  | a :: b :: c :: d :: s => do
    let a ← hexValue? a
    let b ← hexValue? b
    let c ← hexValue? c
    let d ← hexValue? d
    some (((a * 16 + b) * 16 + c) * 16 + d, s)
  | _ => none

/-- The character beyond 16 bits that a pair of units stands for. -/
def pairChar (high low : Nat) : Char :=
  Char.ofNat (0x10000 + (high - 0xD800) * 0x400 + (low - 0xDC00))

/-- Reads the second unit of a pair with the escape in front of it. -/
def readSecondUnit? : List Char → Option (Nat × List Char)
  | '\\' :: 'u' :: s => readUnit? s
  | _ => none

/-- Reads the character that is written as one or two units of 16 bits, after the `\u`. Half a
pair is no character. -/
def readUnits? (s : List Char) : Option (Char × List Char) := do
  let (high, s) ← readUnit? s
  if high < 0xD800 ∨ 0xDFFF < high then some (Char.ofNat high, s)
  else
    let (low, s) ← readSecondUnit? s
    if high < 0xDC00 ∧ 0xDC00 ≤ low ∧ low ≤ 0xDFFF then some (pairChar high low, s) else none

/-- Reads an escape after its backslash. -/
def readEscape? : List Char → Option (Char × List Char)
  | '"' :: s => some ('"', s)
  | '\\' :: s => some ('\\', s)
  | '/' :: s => some ('/', s)
  | 'b' :: s => some ('\x08', s)
  | 'f' :: s => some ('\x0c', s)
  | 'n' :: s => some ('\n', s)
  | 'r' :: s => some ('\r', s)
  | 't' :: s => some ('\t', s)
  | 'u' :: s => readUnits? s
  | _ => none

theorem length_lt_of_readUnit? {s rest : List Char} {n : Nat} (h : readUnit? s = some (n, rest)) :
    rest.length < s.length := by
  unfold readUnit? at h
  split at h
  · simp only [Option.bind_eq_bind, Option.bind_eq_some_iff] at h
    obtain ⟨_, _, _, _, _, _, _, _, h⟩ := h
    cases h
    simp only [List.length_cons]
    omega
  · cases h

theorem length_lt_of_readSecondUnit? {s rest : List Char} {n : Nat}
    (h : readSecondUnit? s = some (n, rest)) : rest.length < s.length := by
  unfold readSecondUnit? at h
  split at h
  · have := length_lt_of_readUnit? h
    simp only [List.length_cons]
    omega
  · cases h

theorem length_lt_of_readUnits? {s rest : List Char} {c : Char}
    (h : readUnits? s = some (c, rest)) : rest.length < s.length := by
  unfold readUnits? at h
  simp only [Option.bind_eq_bind, Option.bind_eq_some_iff] at h
  obtain ⟨⟨high, s₁⟩, hhigh, h⟩ := h
  have hlt := length_lt_of_readUnit? hhigh
  dsimp only at h
  split at h
  · simp only [Option.some.injEq, Prod.mk.injEq] at h
    exact h.2 ▸ hlt
  · obtain ⟨⟨low, s₂⟩, hlow, h⟩ := Option.bind_eq_some_iff.1 h
    have hlt' := length_lt_of_readSecondUnit? hlow
    dsimp only at h
    split at h
    · simp only [Option.some.injEq, Prod.mk.injEq] at h
      exact h.2 ▸ Nat.lt_trans hlt' hlt
    · cases h

theorem length_lt_of_readEscape? {s rest : List Char} {c : Char}
    (h : readEscape? s = some (c, rest)) : rest.length < s.length := by
  unfold readEscape? at h
  split at h
  case h_9 s =>
    have := length_lt_of_readUnits? h
    simp only [List.length_cons]
    omega
  all_goals cases h
  all_goals simp

/-- Reads a string after its opening quote; controls have to be escaped. -/
def readString? (s : List Char) : Option (List Char × List Char) :=
  match s with
  | [] => none
  | c :: s =>
    if c = '"' then some ([], s)
    else if c = '\\' then
      match _ : readEscape? s with
      | none => none
      | some (c, s) => (readString? s).map fun (text, rest) => (c :: text, rest)
    else if c.toNat < 0x20 then none
    else (readString? s).map fun (text, rest) => (c :: text, rest)
termination_by s.length
decreasing_by
  · have := length_lt_of_readEscape? ‹readEscape? _ = some _›
    simp only [List.length_cons]
    omega
  · simp

theorem length_lt_of_readString? {s text rest : List Char}
    (h : readString? s = some (text, rest)) : rest.length < s.length := by
  fun_induction readString? s generalizing text rest with
  | case1 => cases h
  | case2 => cases h; simp
  | case3 => cases h
  | case4 s c s' hescape _ ih =>
    obtain ⟨⟨text', rest'⟩, hrec, heq⟩ := Option.map_eq_some_iff.1 h
    cases heq
    have := ih hrec
    have := length_lt_of_readEscape? hescape
    simp only [List.length_cons]
    omega
  | case5 => cases h
  | case6 c s _ _ _ ih =>
    obtain ⟨⟨text', rest'⟩, hrec, heq⟩ := Option.map_eq_some_iff.1 h
    cases heq
    have := ih hrec
    simp only [List.length_cons]
    omega

def readName? (s : List Char) : Option (JsonToken × List Char) :=
  match s with
  | 'n' :: 'u' :: 'l' :: 'l' :: s => some (.atom .null, s)
  | 't' :: 'r' :: 'u' :: 'e' :: s => some (.atom (.boolean true), s)
  | 'f' :: 'a' :: 'l' :: 's' :: 'e' :: s => some (.atom (.boolean false), s)
  | _ => none

def readNumber? (s : List Char) : Option (JsonToken × List Char) := do
  let (x, s) ← Numeral.readStrict? s
  let n ← JsonNumber.ofNumeral? x
  some (.atom (.number n), s)

/-- Reads the token at the start of a text. -/
def readToken? (s : List Char) : Option (JsonToken × List Char) :=
  match s with
  | '[' :: s => some (.openBracket, s)
  | ']' :: s => some (.closeBracket, s)
  | '{' :: s => some (.openBrace, s)
  | '}' :: s => some (.closeBrace, s)
  | ',' :: s => some (.comma, s)
  | ':' :: s => some (.colon, s)
  | '"' :: s => (readString? s).map fun (text, rest) => (.string (String.ofList text), rest)
  | c :: _ => if c = '-' ∨ c.isDigit then readNumber? s else readName? s
  | [] => none

theorem length_lt_of_readName? {s rest : List Char} {t : JsonToken}
    (h : readName? s = some (t, rest)) : rest.length < s.length := by
  unfold readName? at h
  split at h
  all_goals cases h
  all_goals simp only [List.length_cons]
  all_goals omega

theorem length_lt_of_readNumber? {s rest : List Char} {t : JsonToken}
    (h : readNumber? s = some (t, rest)) : rest.length < s.length := by
  unfold readNumber? at h
  simp only [Option.bind_eq_bind, Option.bind_eq_some_iff] at h
  obtain ⟨⟨x, s'⟩, hnumeral, n, _, h⟩ := h
  cases h
  exact Numeral.length_lt_of_readStrict? hnumeral

theorem length_lt_of_readToken? {s rest : List Char} {t : JsonToken}
    (h : readToken? s = some (t, rest)) : rest.length < s.length := by
  unfold readToken? at h
  split at h
  case h_7 s =>
    obtain ⟨⟨text, rest'⟩, hstring, heq⟩ := Option.map_eq_some_iff.1 h
    cases heq
    have := length_lt_of_readString? hstring
    simp only [List.length_cons]
    omega
  case h_8 =>
    split at h
    · exact length_lt_of_readNumber? h
    · exact length_lt_of_readName? h
  all_goals cases h
  all_goals simp

def readTokens? (s : List Char) : Option (List JsonToken) :=
  match s with
  | [] => some []
  | c :: rest =>
    if isGap c then readTokens? rest
    else
      match _ : readToken? (c :: rest) with
      | none => none
      | some (t, rest) => (readTokens? rest).map (t :: ·)
termination_by s.length
decreasing_by
  · simp
  · exact length_lt_of_readToken? ‹readToken? _ = some _›

end JsonToken

end RecordFilter
