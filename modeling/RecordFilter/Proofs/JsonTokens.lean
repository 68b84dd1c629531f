import Mathlib.Algebra.Group.Int.Defs
import Mathlib.Algebra.Group.Nat.Defs
import Mathlib.Tactic.Common
import RecordFilter.Json.Printer
import RecordFilter.Json.Token
import RecordFilter.Proofs.ScalarRoundTrip

/-!
# JSON texts are read as their tokens

Both texts of a value, the compact and the indented one, are read as the same tokens, as long as the
numbers in it are whole and fit in 64 bits. A number ends where no character follows that could
continue it, and in both texts the separators see to that; so texts can be put together piece by
piece (`Lexes.append`).
-/

namespace RecordFilter.Proofs
open RecordFilter.Number RecordFilter.Json RecordFilter.JsonToken

/-- A value that its text keeps: the numbers in it are whole and fit in 64 bits, the names in an
object are in order, and its containers are nested at most `depth` deep. -/
inductive IsExact : Nat → Json → Prop
  | null {depth : Nat} : IsExact depth .null
  | boolean {depth : Nat} (b : Bool) : IsExact depth (.boolean b)
  | number {depth : Nat} {n : Int} (hmin : -2 ^ 63 ≤ n) (hmax : n < 2 ^ 64) :
      IsExact depth (.number (.whole n))
  | string {depth : Nat} (s : String) : IsExact depth (.string s)
  | array {depth : Nat} {items : List Json} (hitems : ∀ item ∈ items, IsExact depth item) :
      IsExact (depth + 1) (.array items)
  | object {depth : Nat} {members : List (String × Json)}
      (hnames : (members.map Prod.fst).Pairwise (· < ·))
      (hmembers : ∀ member ∈ members, IsExact depth member.2) :
      IsExact (depth + 1) (.object members)

mutual

/-- The tokens that a value is written with. -/
def tokens : Json → List JsonToken
  | .null => [.atom .null]
  | .boolean b => [.atom (.boolean b)]
  | .number x => [.atom (.number x)]
  | .string s => [.string s]
  | .array [] => [.openBracket, .closeBracket]
  | .array (item :: items) => .openBracket :: tokens item ++ itemTokens items ++ [.closeBracket]
  | .object [] => [.openBrace, .closeBrace]
  | .object ((name, value) :: members) =>
    .openBrace :: .string name :: .colon :: tokens value ++ memberTokens members ++ [.closeBrace]

/-- The tokens of items after the first one. -/
def itemTokens : List Json → List JsonToken
  | [] => []
  | item :: items => .comma :: tokens item ++ itemTokens items

/-- The tokens of members after the first one. -/
def memberTokens : List (String × Json) → List JsonToken
  | [] => []
  | (name, value) :: members =>
    .comma :: .string name :: .colon :: tokens value ++ memberTokens members

end

/-- No number goes on with this text. -/
def IsNumberEnd (s : List Char) : Prop :=
  ∀ c ∈ s.head?, c.isDigit = false ∧ c ≠ '.' ∧ c ≠ 'e' ∧ c ≠ 'E'

lemma IsNumberEnd.append {s t : List Char} (hs : IsNumberEnd s) (ht : IsNumberEnd t) :
    IsNumberEnd (s ++ t) := by
  cases s with
  | nil => exact ht
  | cons c s => exact hs

lemma isNumberEnd_nil : IsNumberEnd [] := by
  intro c hc
  cases hc

lemma isNumberEnd_cons {c : Char} (hc : c.isDigit = false ∧ c ≠ '.' ∧ c ≠ 'e' ∧ c ≠ 'E')
    (s : List Char) : IsNumberEnd (c :: s) := by
  intro c' hc'
  cases hc'
  exact hc

lemma readTokens?_cons {c : Char} {s rest : List Char} {t : JsonToken} (hc : isGap c = false)
    (h : readToken? (c :: s) = some (t, rest)) :
    readTokens? (c :: s) = (readTokens? rest).map (t :: ·) := by
  rw [readTokens?, if_neg (by simp [hc])]
  split
  · next hnone =>
    rw [h] at hnone
    cases hnone
  · next heq =>
    rw [h] at heq
    cases heq
    rfl

lemma readTokens?_gaps {s : List Char} (hs : ∀ c ∈ s, isGap c = true) (rest : List Char) :
    readTokens? (s ++ rest) = readTokens? rest := by
  induction s with
  | nil => rfl
  | cons c s ih =>
    rw [List.forall_mem_cons] at hs
    rw [List.cons_append, readTokens?, if_pos hs.1, ih hs.2]

/-- Puts a character in front of the text of a string. -/
def consText (c : Char) : List Char × List Char → List Char × List Char :=
  fun (text, rest) => (c :: text, rest)

lemma readString?_escape {c : Char} {s rest : List Char} (h : readEscape? s = some (c, rest)) :
    readString? ('\\' :: s) = (readString? rest).map (consText c) := by
  rw [readString?, if_neg (by decide), if_pos rfl]
  split
  · next hnone =>
    rw [h] at hnone
    cases hnone
  · next heq =>
    rw [h] at heq
    cases heq
    rfl

lemma readString?_plain {c : Char} (hquote : c ≠ '"') (hbackslash : c ≠ '\\')
    (hcontrol : ¬c.toNat < 0x20) (s : List Char) :
    readString? (c :: s) = (readString? s).map (consText c) := by
  rw [readString?, if_neg hquote, if_neg hbackslash, if_neg hcontrol]
  rfl

lemma hexValue?_digitChar {n : Nat} (h : n < 16) : hexValue? (Nat.digitChar n) = some n := by
  have hall : ∀ n < 16, hexValue? (Nat.digitChar n) = some n := by decide
  exact hall n h

/-- A control is read from its four hexadecimal digits. -/
lemma readEscape?_control {c : Char} (h : c.toNat < 0x20) (s : List Char) :
    readEscape? ('u' :: '0' :: '0' :: Nat.digitChar (c.toNat / 16) ::
      Nat.digitChar (c.toNat % 16) :: s) = some (c, s) := by
  have hzero : hexValue? '0' = some 0 := by decide
  have hhigh : hexValue? (Nat.digitChar (c.toNat / 16)) = some (c.toNat / 16) :=
    hexValue?_digitChar (by omega)
  have hlow : hexValue? (Nat.digitChar (c.toNat % 16)) = some (c.toNat % 16) :=
    hexValue?_digitChar (by omega)
  have hunit : readUnit? ('0' :: '0' :: Nat.digitChar (c.toNat / 16) ::
      Nat.digitChar (c.toNat % 16) :: s) = some (c.toNat, s) := by
    have hvalue : ((0 * 16 + 0) * 16 + c.toNat / 16) * 16 + c.toNat % 16 = c.toNat := by omega
    simp only [readUnit?, hzero, hhigh, hlow, Option.bind_eq_bind, Option.bind_some, hvalue]
  show readUnits? _ = _
  rw [readUnits?, hunit]
  show (if c.toNat < 0xD800 ∨ 0xDFFF < c.toNat then some (Char.ofNat c.toNat, s) else _) = _
  rw [if_pos (by omega), Char.ofNat_toNat]

/-- An escaped character is read back. -/
lemma readString?_escapeChar (c : Char) (s : List Char) :
    readString? (escapeChar c ++ s) = (readString? s).map (consText c) := by
  unfold escapeChar
  by_cases hquote : c = '"'
  · subst hquote
    exact readString?_escape rfl
  rw [if_neg hquote]
  by_cases hbackslash : c = '\\'
  · subst hbackslash
    exact readString?_escape rfl
  rw [if_neg hbackslash]
  by_cases hbackspace : c = '\x08'
  · subst hbackspace
    exact readString?_escape rfl
  rw [if_neg hbackspace]
  by_cases hformFeed : c = '\x0c'
  · subst hformFeed
    exact readString?_escape rfl
  rw [if_neg hformFeed]
  by_cases hnewline : c = '\n'
  · subst hnewline
    exact readString?_escape rfl
  rw [if_neg hnewline]
  by_cases hreturn : c = '\r'
  · subst hreturn
    exact readString?_escape rfl
  rw [if_neg hreturn]
  by_cases htab : c = '\t'
  · subst htab
    exact readString?_escape rfl
  rw [if_neg htab]
  by_cases hcontrol : c.toNat < 0x20
  · rw [if_pos hcontrol]
    exact readString?_escape (readEscape?_control hcontrol s)
  · rw [if_neg hcontrol]
    exact readString?_plain hquote hbackslash hcontrol s

lemma readString?_flatMap_escapeChar (text rest : List Char) :
    readString? (text.flatMap escapeChar ++ '"' :: rest) = some (text, rest) := by
  induction text with
  | nil =>
    rw [List.flatMap_nil, List.nil_append, readString?, if_pos rfl]
  | cons c text ih =>
    rw [List.flatMap_cons, List.append_assoc, readString?_escapeChar, ih]
    rfl

lemma exists_digitsOf (n : Nat) : ∃ c digits, digitsOf n = c :: digits ∧ c.isDigit = true := by
  have hne : digitsOf n ≠ [] := Nat.toDigits_ne_nil
  obtain ⟨c, digits, hdigits⟩ := List.exists_cons_of_ne_nil hne
  refine ⟨c, digits, hdigits, isDigit_digitsOf n c ?_⟩
  rw [hdigits]
  exact List.mem_cons_self

/-- The digits of a positive number do not start with a zero. -/
lemma exists_digitsOf_eq_cons {n : Nat} (h : n ≠ 0) :
    ∃ c digits, digitsOf n = c :: digits ∧ c ≠ '0' := by
  induction n using Nat.strongRecOn with
  | ind n ih =>
    unfold digitsOf
    by_cases hn : n < 10
    · have hdigit : ∀ n < 10, n ≠ 0 → Nat.digitChar n ≠ '0' := by decide
      rw [Nat.toDigits_of_lt_base hn]
      exact ⟨_, [], rfl, hdigit n hn h⟩
    · obtain ⟨c, digits, hdigits, hc⟩ := ih (n / 10) (by omega) (by omega)
      unfold digitsOf at hdigits
      rw [Nat.toDigits_of_base_le (by decide) (by omega), hdigits]
      exact ⟨c, digits ++ [Nat.digitChar (n % 10)], rfl, hc⟩

lemma readWhole?_digitsOf (n : Nat) {rest : List Char} (hrest : IsNumberEnd rest) :
    Numeral.readWhole? (digitsOf n ++ rest) = some (digitsOf n, rest) := by
  have hspan : Numeral.spanDigits (digitsOf n ++ rest) = (digitsOf n, rest) := by
    cases rest with
    | nil => rw [List.append_nil, spanDigits_of_digits (isDigit_digitsOf n)]
    | cons c rest => exact spanDigits_append_cons (isDigit_digitsOf n) (hrest c rfl).1 rest
  by_cases hn : n = 0
  · subst hn
    rfl
  · obtain ⟨c, digits, hdigits, hc⟩ := exists_digitsOf_eq_cons hn
    rw [hdigits, List.cons_append] at hspan ⊢
    unfold Numeral.readWhole?
    split
    · next heq =>
      cases heq
      exact absurd rfl hc
    · rw [hspan]

lemma readFraction?_of_isNumberEnd {rest : List Char} (h : IsNumberEnd rest) :
    Numeral.readFraction? rest = some (none, rest) := by
  unfold Numeral.readFraction?
  split
  · exact absurd rfl (h '.' rfl).2.1
  · rfl

lemma readExponent?_of_isNumberEnd {rest : List Char} (h : IsNumberEnd rest) :
    Numeral.readExponent? rest = some (none, rest) := by
  cases rest with
  | nil => rfl
  | cons c rest =>
    obtain ⟨-, -, he, hE⟩ := h c rfl
    rw [Numeral.readExponent?, if_neg (not_or.2 ⟨he, hE⟩)]

lemma readSign_integerText (n : Int) (rest : List Char) :
    Numeral.readSign (integerText n ++ rest) = (decide (n < 0), digitsOf n.natAbs ++ rest) := by
  unfold integerText
  by_cases hn : n < 0
  · rw [if_pos hn, decide_eq_true hn]
    rfl
  · rw [if_neg hn, decide_eq_false hn]
    obtain ⟨c, digits, hdigits, hc⟩ := exists_digitsOf n.natAbs
    rw [hdigits, List.cons_append, Numeral.readSign]
    rintro rest ⟨⟩
    exact absurd hc (by decide)

/-- An integer is read up to its end. -/
lemma readStrict?_integerText (n : Int) {rest : List Char} (hrest : IsNumberEnd rest) :
    Numeral.readStrict? (integerText n ++ rest) = some (integerNumeral n, rest) := by
  rw [Numeral.readStrict?, readSign_integerText]
  simp only [readWhole?_digitsOf _ hrest, readFraction?_of_isNumberEnd hrest,
    readExponent?_of_isNumberEnd hrest, Option.bind_eq_bind, Option.bind_some]
  rfl

/-- Digits are all taken if the number fits in a word. -/
lemma takeWord_of_lt {word : Nat} {digits : List Char}
    (h : Nat.ofDigitChars 10 digits word < 2 ^ 64) :
    JsonNumber.takeWord word digits = (Nat.ofDigitChars 10 digits word, []) := by
  induction digits generalizing word with
  | nil => rfl
  | cons c digits ih =>
    rw [Nat.ofDigitChars_cons] at h ⊢
    have hle := le_ofDigitChars digits (10 * word + (c.toNat - '0'.toNat))
    have hnext : 10 * word + (c.toNat - '0'.toNat) < Nat.pow 2 64 := Nat.lt_of_le_of_lt hle h
    rw [JsonNumber.takeWord, digitsValue_singleton, if_pos hnext, ih h]

lemma ofNumeral?_integerNumeral_whole {n : Int} (hmin : -2 ^ 63 ≤ n) (hmax : n < 2 ^ 64) :
    JsonNumber.ofNumeral? (integerNumeral n) = some (.whole n) := by
  have hword : JsonNumber.takeWord 0 (digitsOf n.natAbs) = (n.natAbs, []) := by
    have hvalue : Nat.ofDigitChars 10 (digitsOf n.natAbs) 0 = n.natAbs := digitsValue_digitsOf _
    rw [takeWord_of_lt (by rw [hvalue]; omega), hvalue]
  unfold JsonNumber.ofNumeral? integerNumeral
  simp only [hword, and_self, if_true]
  by_cases hn : n < 0
  · have hfits : ¬(n.natAbs = 0 ∨ Nat.pow 2 63 < n.natAbs) := by
      have hpow : Nat.pow 2 63 = 2 ^ 63 := rfl
      omega
    rw [decide_eq_true hn, if_pos rfl, if_neg hfits]
    congr 2
    omega
  · rw [decide_eq_false hn, if_neg (by decide)]
    congr 2
    omega

/-- A number starts with this character. -/
def OpensNumber (c : Char) : Prop :=
  c = '-' ∨ c.isDigit = true

instance (c : Char) : Decidable (OpensNumber c) := inferInstanceAs (Decidable (_ ∨ _))

lemma OpensNumber.ne {c d : Char} (hc : OpensNumber c) (hd : ¬OpensNumber d) : c ≠ d := by
  rintro rfl
  exact hd hc

lemma OpensNumber.isGap {c : Char} (hc : OpensNumber c) : isGap c = false := by
  simp only [JsonToken.isGap, Bool.or_eq_false_iff, beq_eq_false_iff_ne]
  exact ⟨⟨⟨hc.ne (by decide), hc.ne (by decide)⟩, hc.ne (by decide)⟩, hc.ne (by decide)⟩

lemma OpensNumber.readToken? {c : Char} (hc : OpensNumber c) (s : List Char) :
    readToken? (c :: s) = readNumber? (c :: s) := by
  rw [JsonToken.readToken?]
  · exact if_pos hc
  all_goals exact hc.ne (by decide)

lemma exists_integerText (n : Int) : ∃ c s, integerText n = c :: s ∧ OpensNumber c := by
  unfold integerText
  by_cases hn : n < 0
  · rw [if_pos hn]
    exact ⟨'-', _, rfl, .inl rfl⟩
  · rw [if_neg hn]
    obtain ⟨c, digits, hdigits, hc⟩ := exists_digitsOf n.natAbs
    exact ⟨c, digits, hdigits, .inr hc⟩

lemma readTokens?_integerText {n : Int} (hmin : -2 ^ 63 ≤ n) (hmax : n < 2 ^ 64)
    {rest : List Char} (hrest : IsNumberEnd rest) :
    readTokens? (integerText n ++ rest) =
      (readTokens? rest).map (.atom (.number (.whole n)) :: ·) := by
  obtain ⟨c, s, hs, hc⟩ := exists_integerText n
  have hread : readToken? (c :: (s ++ rest)) = some (.atom (.number (.whole n)), rest) := by
    rw [hc.readToken?, readNumber?, ← List.cons_append, ← hs, readStrict?_integerText n hrest]
    simp only [Option.bind_eq_bind, Option.bind_some, ofNumeral?_integerNumeral_whole hmin hmax]
  rw [hs, List.cons_append, readTokens?_cons hc.isGap hread]

/-- Whatever follows that does not continue a number, the text is read as these tokens. -/
def Lexes (s : List Char) (ts : List JsonToken) : Prop :=
  ∀ rest, IsNumberEnd rest → readTokens? (s ++ rest) = (readTokens? rest).map (ts ++ ·)

namespace Lexes

variable {s s' : List Char} {ts ts' : List JsonToken}

lemma nil : Lexes [] [] := by
  intro rest _
  cases h : readTokens? rest <;> simp [h]

lemma append (h : Lexes s ts) (h' : Lexes s' ts') (hend : IsNumberEnd s') :
    Lexes (s ++ s') (ts ++ ts') := by
  intro rest hrest
  rw [List.append_assoc, h _ (hend.append hrest), h' rest hrest, Option.map_map]
  congr 1
  funext tokens
  simp

/-- A token of one character, such as a bracket. -/
lemma mark {c : Char} {t : JsonToken} (hgap : isGap c = false)
    (h : ∀ rest, readToken? (c :: rest) = some (t, rest)) (hs : Lexes s ts) :
    Lexes (c :: s) (t :: ts) := by
  intro rest hrest
  rw [List.cons_append, readTokens?_cons hgap (h _), hs rest hrest, Option.map_map]
  rfl

lemma gaps (hgaps : ∀ c ∈ s', isGap c = true) (h : Lexes s ts) : Lexes (s' ++ s) ts := by
  intro rest hrest
  rw [List.append_assoc, readTokens?_gaps hgaps, h rest hrest]

lemma quoted (text : String) (h : Lexes s ts) :
    Lexes (Json.quoted text ++ s) (.string text :: ts) := by
  intro rest hrest
  have hread : readToken? ('"' :: (text.toList.flatMap escapeChar ++ '"' :: (s ++ rest))) =
      some (.string text, s ++ rest) := by
    show (readString? _).map _ = _
    rw [readString?_flatMap_escapeChar, Option.map_some]
    dsimp only
    rw [String.ofList_toList]
  have htext : Json.quoted text ++ s ++ rest =
      '"' :: (text.toList.flatMap escapeChar ++ '"' :: (s ++ rest)) := by
    simp [Json.quoted]
  rw [htext, readTokens?_cons (by decide) hread, h rest hrest, Option.map_map]
  rfl

lemma isNumberEnd_pieces {α : Type} (piece : α → List Char) (xs : List α) :
    IsNumberEnd (xs.flatMap fun x => ',' :: piece x) := by
  cases xs with
  | nil => exact isNumberEnd_nil
  | cons x xs => exact isNumberEnd_cons (by decide) _

/-- Pieces with a comma before each of them. -/
lemma pieces {α : Type} {piece : α → List Char} {pieceTokens : α → List JsonToken} {xs : List α}
    (h : ∀ x ∈ xs, Lexes (piece x) (pieceTokens x)) :
    Lexes (xs.flatMap fun x => ',' :: piece x) (xs.flatMap fun x => .comma :: pieceTokens x) := by
  induction xs with
  | nil => exact .nil
  | cons x xs ih =>
    rw [List.forall_mem_cons] at h
    obtain ⟨hx, hxs⟩ := h
    rw [List.flatMap_cons, List.flatMap_cons, List.cons_append, List.cons_append]
    exact .mark (by decide) (fun _ => rfl) (hx.append (ih hxs) (isNumberEnd_pieces piece xs))

/-- A first piece, further ones with commas between them, and the mark that closes them, which may
stand on a line of its own. -/
lemma enclosed {α : Type} {piece : α → List Char} {pieceTokens : α → List JsonToken} {x : α}
    {xs : List α} (h : ∀ y ∈ x :: xs, Lexes (piece y) (pieceTokens y)) {gap : List Char} {c : Char}
    {t : JsonToken} (hgap : ∀ c ∈ gap, isGap c = true) (hend : IsNumberEnd (gap ++ [c]))
    (hc : isGap c = false) (hmark : ∀ rest, readToken? (c :: rest) = some (t, rest)) :
    Lexes (piece x ++ (xs.flatMap fun y => ',' :: piece y) ++ (gap ++ [c]))
      (pieceTokens x ++ (xs.flatMap fun y => .comma :: pieceTokens y) ++ [t]) := by
  rw [List.forall_mem_cons] at h
  obtain ⟨hx, hxs⟩ := h
  exact (hx.append (.pieces hxs) (isNumberEnd_pieces piece xs)).append
    (.gaps hgap (.mark hc hmark .nil)) hend

end Lexes

/-! ### The texts of values -/

lemma itemTokens_eq (items : List Json) :
    itemTokens items = items.flatMap fun item => .comma :: tokens item := by
  induction items with
  | nil => rfl
  | cons item items ih => rw [itemTokens, ih, List.flatMap_cons]

lemma memberTokens_eq (members : List (String × Json)) :
    memberTokens members =
      members.flatMap fun (name, value) => .comma :: .string name :: .colon :: tokens value := by
  induction members with
  | nil => rfl
  | cons member members ih => rw [memberTokens, ih, List.flatMap_cons]

lemma compactItems_eq (items : List Json) :
    compactItems items = items.flatMap fun item => ',' :: compact item := by
  induction items with
  | nil => rfl
  | cons item items ih => rw [compactItems, ih, List.flatMap_cons]

lemma compactMembers_eq (members : List (String × Json)) :
    compactMembers members =
      members.flatMap fun (name, value) => ',' :: (quoted name ++ ':' :: compact value) := by
  induction members with
  | nil => rfl
  | cons member members ih => simp [compactMembers, ih]

lemma indentedItems_eq (level : Nat) (items : List Json) :
    indentedItems level items =
      items.flatMap fun item => ',' :: (lineStart level ++ indented level item) := by
  induction items with
  | nil => rfl
  | cons item items ih => simp [indentedItems, ih]

lemma indentedMembers_eq (level : Nat) (members : List (String × Json)) :
    indentedMembers level members = members.flatMap fun (name, value) =>
      ',' :: (lineStart level ++ (quoted name ++ ':' :: ' ' :: indented level value)) := by
  induction members with
  | nil => rfl
  | cons member members ih => simp [indentedMembers, ih]

lemma isGap_of_mem_lineStart {level : Nat} : ∀ c ∈ lineStart level, isGap c = true := by
  intro c hc
  rcases List.mem_cons.1 hc with rfl | hc
  · decide
  · rw [List.eq_of_mem_replicate hc]
    decide

/-- Values that are no containers have one text. -/
lemma lexes_null : Lexes "null".toList (tokens .null) := by
  intro rest _
  exact readTokens?_cons (by decide) rfl

lemma lexes_truthText (b : Bool) : Lexes (truthText b) (tokens (.boolean b)) := by
  intro rest _
  cases b with
  | false => exact readTokens?_cons (by decide) rfl
  | true => exact readTokens?_cons (by decide) rfl

lemma lexes_whole {n : Int} (hmin : -2 ^ 63 ≤ n) (hmax : n < 2 ^ 64) :
    Lexes (JsonNumber.whole n).text (tokens (.number (.whole n))) := by
  intro rest hrest
  have htext : (JsonNumber.whole n).text = integerText n := text_integerNumeral n
  rw [htext, readTokens?_integerText hmin hmax hrest]
  rfl

lemma lexes_quoted (s : String) : Lexes (quoted s) (tokens (.string s)) := by
  have h := Lexes.quoted s .nil
  rwa [List.append_nil] at h

/-- The compact text of a value is read as its tokens. -/
theorem lexes_compact {depth : Nat} {j : Json} (h : IsExact depth j) :
    Lexes (compact j) (tokens j) := by
  induction h with
  | null => exact lexes_null
  | boolean b => exact lexes_truthText b
  | number hmin hmax => exact lexes_whole hmin hmax
  | string s => exact lexes_quoted s
  | @array depth items _ ih =>
    cases items with
    | nil => exact .mark (by decide) (fun _ => rfl) (.mark (by decide) (fun _ => rfl) .nil)
    | cons item items =>
      have hbody := Lexes.enclosed ih (List.forall_mem_nil _) (isNumberEnd_cons (by decide) [])
        (by decide : isGap ']' = false) (fun _ => rfl)
      rw [compact, tokens, compactItems_eq, itemTokens_eq]
      exact .mark (by decide) (fun _ => rfl) hbody
  | @object depth members _ _ ih =>
    cases members with
    | nil => exact .mark (by decide) (fun _ => rfl) (.mark (by decide) (fun _ => rfl) .nil)
    | cons member members =>
      have hmember : ∀ m ∈ member :: members, Lexes (quoted m.1 ++ ':' :: compact m.2)
          (.string m.1 :: .colon :: tokens m.2) := by
        intro m hm
        exact .quoted m.1 (.mark (by decide) (fun _ => rfl) (ih m hm))
      have hbody := Lexes.enclosed hmember (List.forall_mem_nil _)
        (isNumberEnd_cons (by decide) []) (by decide : isGap '}' = false) (fun _ => rfl)
      rw [compact, tokens, compactMembers_eq, memberTokens_eq]
      simpa using Lexes.mark (by decide) (fun _ => rfl) hbody

/-- So is the indented one, at any level. -/
theorem lexes_indented {depth : Nat} {j : Json} (h : IsExact depth j) (level : Nat) :
    Lexes (indented level j) (tokens j) := by
  induction h generalizing level with
  | null => exact lexes_null
  | boolean b => exact lexes_truthText b
  | number hmin hmax => exact lexes_whole hmin hmax
  | string s => exact lexes_quoted s
  | @array depth items _ ih =>
    cases items with
    | nil => exact .mark (by decide) (fun _ => rfl) (.mark (by decide) (fun _ => rfl) .nil)
    | cons item items =>
      have hitem : ∀ i ∈ item :: items, Lexes (lineStart (level + 1) ++ indented (level + 1) i)
          (tokens i) := by
        intro i hi
        exact .gaps isGap_of_mem_lineStart (ih i hi (level + 1))
      have hbody := Lexes.enclosed hitem (@isGap_of_mem_lineStart level)
        (isNumberEnd_cons (by decide) _) (by decide : isGap ']' = false) (fun _ => rfl)
      rw [indented, tokens, indentedItems_eq, itemTokens_eq]
      simpa using Lexes.mark (by decide) (fun _ => rfl) hbody
  | @object depth members _ _ ih =>
    cases members with
    | nil => exact .mark (by decide) (fun _ => rfl) (.mark (by decide) (fun _ => rfl) .nil)
    | cons member members =>
      have hmember : ∀ m ∈ member :: members,
          Lexes (lineStart (level + 1) ++ (quoted m.1 ++ ':' :: ' ' :: indented (level + 1) m.2))
            (.string m.1 :: .colon :: tokens m.2) := by
        intro m hm
        have hvalue : Lexes ([' '] ++ indented (level + 1) m.2) (tokens m.2) :=
          .gaps (by decide) (ih m hm (level + 1))
        exact .gaps isGap_of_mem_lineStart (.quoted m.1 (.mark (by decide) (fun _ => rfl) hvalue))
      have hbody := Lexes.enclosed hmember (@isGap_of_mem_lineStart level)
        (isNumberEnd_cons (by decide) _) (by decide : isGap '}' = false) (fun _ => rfl)
      rw [indented, tokens, indentedMembers_eq, memberTokens_eq]
      simpa using Lexes.mark (by decide) (fun _ => rfl) hbody

end RecordFilter.Proofs
