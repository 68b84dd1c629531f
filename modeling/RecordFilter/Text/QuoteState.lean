/-!
# Quote state

A text is read once from left to right. A single quote opens a literal and the next one closes
it; inside a literal a backslash takes the following character out of consideration. The state
that a character is read in decides whether it can carry structure: `QuoteState.after` is that
state as a function of the text before, so a text may be cut wherever the state is `outside`
and each half read on its own.
-/

namespace RecordFilter.Text

/-- Where a character stands with respect to quoted literals. -/
inductive QuoteState where
  | outside
  | inside
  /-- In a literal, right after a backslash. -/
  | escaped
  deriving DecidableEq, Repr

namespace QuoteState

def next : QuoteState → Char → QuoteState
  | .outside, c => if c = '\'' then .inside else .outside
  | .inside, c => if c = '\'' then .outside else if c = '\\' then .escaped else .inside
  | .escaped, _ => .inside

/-- The state after reading `s` from state `q`. -/
def after (q : QuoteState) (s : List Char) : QuoteState :=
  s.foldl next q

/-- A character read in state `q` carries structure: it is not in a literal and is no quote. -/
def isStructural (q : QuoteState) (c : Char) : Bool :=
  q == .outside && c != '\''

@[simp] theorem after_nil (q : QuoteState) : q.after [] = q := rfl

@[simp] theorem after_cons (q : QuoteState) (c : Char) (s : List Char) :
    q.after (c :: s) = (q.next c).after s := rfl

@[simp] theorem after_append (q : QuoteState) (s t : List Char) :
    q.after (s ++ t) = (q.after s).after t := by
  simp [after]

@[simp] theorem isStructural_iff {q : QuoteState} {c : Char} :
    q.isStructural c = true ↔ q = .outside ∧ c ≠ '\'' := by
  simp [isStructural]

theorem next_of_isStructural {q : QuoteState} {c : Char} (h : q.isStructural c = true) :
    q.next c = .outside := by
  obtain ⟨rfl, hc⟩ := isStructural_iff.1 h
  simp [next, hc]

end QuoteState

/-- The number of bytes of a text in UTF-8. -/
def byteLength : List Char → Nat
  | [] => 0
  | c :: s => c.utf8Size + byteLength s

/-- A character with the state it was read in and the number of UTF-8 bytes before it. -/
structure Reading where
  offset : Nat
  char : Char
  state : QuoteState
  deriving DecidableEq, Repr

def Reading.isStructural (r : Reading) : Bool :=
  r.state.isStructural r.char

/-- The readings of a text that starts at byte `offset` in state `q`. -/
def scanFrom (offset : Nat) (q : QuoteState) : List Char → List Reading
  | [] => []
  | c :: s => ⟨offset, c, q⟩ :: scanFrom (offset + c.utf8Size) (q.next c) s

def scan (s : List Char) : List Reading :=
  scanFrom 0 .outside s

@[simp] theorem length_scanFrom (offset : Nat) (q : QuoteState) (s : List Char) :
    (scanFrom offset q s).length = s.length := by
  induction s generalizing offset q with
  | nil => rfl
  | cons c s ih => simp [scanFrom, ih]

theorem scanFrom_append (offset : Nat) (q : QuoteState) (s t : List Char) :
    scanFrom offset q (s ++ t) =
      scanFrom offset q s ++ scanFrom (offset + byteLength s) (q.after s) t := by
  induction s generalizing offset q with
  | nil => simp [scanFrom, byteLength]
  | cons c s ih => simp [scanFrom, byteLength, ih, Nat.add_assoc]

end RecordFilter.Text
