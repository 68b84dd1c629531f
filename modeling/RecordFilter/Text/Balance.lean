import RecordFilter.Text.QuoteState

/-!
# Balanced parentheses

Only parentheses outside literals count. A text is balanced when no closing parenthesis comes
without an opening one before it and none stays open.
-/

namespace RecordFilter.Text

/-- How many parentheses are open after a text that starts in state `q` with `depth` of them
open; `none` if one is closed too many. -/
def openAfter? (q : QuoteState) (depth : Nat) : List Char → Option Nat
  | [] => some depth
  | c :: s =>
    if q.isStructural c ∧ c = '(' then openAfter? (q.next c) (depth + 1) s
    else if q.isStructural c ∧ c = ')' then
      if depth = 0 then none else openAfter? (q.next c) (depth - 1) s
    else openAfter? (q.next c) depth s

/-- Every parenthesis outside literals has its counterpart. -/
def isBalanced (s : List Char) : Bool :=
  openAfter? .outside 0 s == some 0

/-- How often `c` occurs outside literals in a text that starts in state `q`. -/
def countStructural (c : Char) (q : QuoteState) : List Char → Nat
  | [] => 0
  | d :: s => (if q.isStructural d ∧ d = c then 1 else 0) + countStructural c (q.next d) s

theorem openAfter?_append (q : QuoteState) (depth : Nat) (s t : List Char) :
    openAfter? q depth (s ++ t) =
      (openAfter? q depth s).bind fun depth => openAfter? (q.after s) depth t := by
  induction s generalizing q depth with
  | nil => rfl
  | cons c s ih =>
    simp only [List.cons_append, openAfter?, QuoteState.after_cons]
    split
    · exact ih _ _
    · split
      · split
        · rfl
        · exact ih _ _
      · exact ih _ _

theorem countStructural_append (c : Char) (q : QuoteState) (s t : List Char) :
    countStructural c q (s ++ t) = countStructural c q s + countStructural c (q.after s) t := by
  induction s generalizing q with
  | nil => simp [countStructural]
  | cons d s ih => simp [countStructural, ih, Nat.add_assoc]

end RecordFilter.Text
