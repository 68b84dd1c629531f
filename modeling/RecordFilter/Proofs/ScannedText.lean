import Mathlib.Tactic.Common
import RecordFilter.Proofs.OpaqueText

/-!
# The scan of a text in parts

A scan lists the characters of a text with their places and states. Where the text stands outside
literals it may be cut: the scan of the whole is the scan of the first part and, further on, the
scan of the second part as it is when that part is scanned alone (`scan_append`). A place is a
number of bytes, and no two characters have the same one.
-/

namespace RecordFilter.Proofs
open RecordFilter.Text

lemma byteLength_append (s t : List Char) : byteLength (s ++ t) = byteLength s + byteLength t := by
  induction s with
  | nil => simp [byteLength]
  | cons c s ih => simp [byteLength, ih, Nat.add_assoc]

lemma byteLength_eq_zero_iff {s : List Char} : byteLength s = 0 ↔ s = [] := by
  cases s with
  | nil => simp [byteLength]
  | cons c s =>
    have hpos := c.utf8Size_pos
    simp only [byteLength, List.cons_ne_nil, iff_false]
    omega

@[simp] lemma byteLength_toList (s : String) : byteLength s.toList = s.utf8ByteSize := by
  have hlist : ∀ t : List Char, byteLength t = (String.ofList t).utf8ByteSize := by
    intro t
    induction t with
    | nil => rfl
    | cons c t ih =>
      have hcons : String.ofList (c :: t) = String.singleton c ++ String.ofList t := by
        rw [String.singleton_eq_ofList, ← String.ofList_append, List.singleton_append]
      rw [byteLength, ih, hcons, String.utf8ByteSize_append, String.utf8ByteSize_singleton]
  rw [hlist, String.ofList_toList]

/-- The number of bytes before a place tells what stands before it. -/
lemma eq_of_byteLength_eq {s t x y : List Char} (h : s ++ t = x ++ y)
    (hbytes : byteLength s = byteLength x) : s = x := by
  rcases List.append_eq_append_iff.1 h with ⟨w, rfl, -⟩ | ⟨w, rfl, -⟩
  · rw [byteLength_append] at hbytes
    obtain rfl := byteLength_eq_zero_iff.1 (by omega : byteLength w = 0)
    rw [List.append_nil]
  · rw [byteLength_append] at hbytes
    obtain rfl := byteLength_eq_zero_iff.1 (by omega : byteLength w = 0)
    rw [List.append_nil]

lemma length_lt_of_byteLength_lt {s t x y : List Char} (h : s ++ t = x ++ y)
    (hbytes : byteLength s < byteLength x) : s.length < x.length := by
  rcases List.append_eq_append_iff.1 h with ⟨w, rfl, -⟩ | ⟨w, rfl, -⟩
  · have hne : w ≠ [] := by
      rintro rfl
      rw [List.append_nil] at hbytes
      exact Nat.lt_irrefl _ hbytes
    have hpos := List.length_pos_iff.2 hne
    rw [List.length_append]
    omega
  · rw [byteLength_append] at hbytes
    omega

/-! ### Readings -/

/-- The same character in the same state, so many bytes further on. -/
def moved (bytes : Nat) (r : Reading) : Reading :=
  ⟨bytes + r.offset, r.char, r.state⟩

lemma scanFrom_add (bytes offset : Nat) (q : QuoteState) (s : List Char) :
    scanFrom (bytes + offset) q s = (scanFrom offset q s).map (moved bytes) := by
  induction s generalizing offset q with
  | nil => rfl
  | cons c s ih =>
    rw [scanFrom, scanFrom, List.map_cons, ← ih, Nat.add_assoc]
    rfl

/-- Where a text stands outside literals, what follows is read as it is read alone. -/
lemma scan_append {s : List Char} (h : QuoteState.outside.after s = .outside) (t : List Char) :
    scan (s ++ t) = scan s ++ (scan t).map (moved (byteLength s)) := by
  rw [scan, scan, scan, scanFrom_append, h, ← scanFrom_add, Nat.zero_add, Nat.add_zero]

/-- A reading is a character of the text, with what stands before it in bytes and in states. -/
lemma mem_scanFrom_iff {offset : Nat} {q : QuoteState} {s : List Char} {r : Reading} :
    r ∈ scanFrom offset q s ↔ ∃ before after, s = before ++ r.char :: after ∧
      r.offset = offset + byteLength before ∧ r.state = q.after before := by
  induction s generalizing offset q with
  | nil => simp [scanFrom]
  | cons c s ih =>
    rw [scanFrom, List.mem_cons, ih]
    constructor
    · rintro (rfl | ⟨before, after, rfl, hoffset, hstate⟩)
      · exact ⟨[], s, rfl, rfl, rfl⟩
      · refine ⟨c :: before, after, rfl, ?_, hstate⟩
        rw [hoffset, byteLength, Nat.add_assoc]
    · rintro ⟨before, after, hs, hoffset, hstate⟩
      cases before with
      | nil =>
        obtain ⟨rfl, rfl⟩ := List.cons_eq_cons.1 hs
        obtain ⟨place, char, state⟩ := r
        left
        rw [Reading.mk.injEq]
        exact ⟨hoffset, rfl, hstate⟩
      | cons d before =>
        obtain ⟨rfl, rfl⟩ := List.cons_eq_cons.1 hs
        refine .inr ⟨before, after, rfl, ?_, hstate⟩
        rw [hoffset, byteLength, Nat.add_assoc]

lemma mem_scan_iff {s : List Char} {r : Reading} :
    r ∈ scan s ↔ ∃ before after, s = before ++ r.char :: after ∧ r.offset = byteLength before ∧
      r.state = QuoteState.outside.after before := by
  rw [scan, mem_scanFrom_iff]
  simp only [Nat.zero_add]

@[simp] lemma map_char_scanFrom (offset : Nat) (q : QuoteState) (s : List Char) :
    (scanFrom offset q s).map Reading.char = s := by
  induction s generalizing offset q with
  | nil => rfl
  | cons c s ih => rw [scanFrom, List.map_cons, ih]

/-- A stretch is opaque if no reading of it is of a character that carries structure. -/
lemma isOpaque_iff (offset : Nat) (q : QuoteState) (s : List Char) :
    isOpaque q s = true ↔ ∀ r ∈ scanFrom offset q s, r.isStructural = false := by
  induction s generalizing offset q with
  | nil => simp [isOpaque, scanFrom]
  | cons c s ih =>
    rw [isOpaque, scanFrom, List.forall_mem_cons, Bool.and_eq_true, Bool.not_eq_true',
      ih (offset + c.utf8Size), Reading.isStructural]

/-- A character occurs outside literals as often as it is read there. -/
lemma countStructural_eq_countP (c : Char) (offset : Nat) (q : QuoteState) (s : List Char) :
    countStructural c q s =
      (scanFrom offset q s).countP fun r => r.isStructural && r.char == c := by
  induction s generalizing offset q with
  | nil => rfl
  | cons d s ih =>
    rw [countStructural, scanFrom, List.countP_cons, ih (offset + d.utf8Size), Nat.add_comm]
    simp only [Reading.isStructural, Bool.and_eq_true, beq_iff_eq]

end RecordFilter.Proofs
