import Mathlib.Algebra.Order.Field.Power
import Mathlib.Algebra.Order.Floor.Semifield
import Mathlib.Data.Rat.Cast.Order
import Mathlib.Tactic.FieldSimp
import Mathlib.Tactic.NormNum
import Mathlib.Tactic.Positivity
import RecordFilter.Proofs.NearestBinary64

/-!
# Shortest digits

The search for the shortest numeral goes through ever finer decimal grids until a point of one lies
in the interval. A decimal of at most fifteen digits in the interval stops it in time, and on that
grid no two points are as close together as the ends of the interval: the numeral that is found
denotes that decimal.
-/

namespace RecordFilter.Proofs
open RecordFilter.Number

/-- The interval holds a rational number. -/
def Contains (i : Interval) (y : ℚ) : Prop :=
  if i.closed then (i.low : ℚ) ≤ y * i.unit ∧ y * i.unit ≤ i.high
  else (i.low : ℚ) < y * i.unit ∧ y * i.unit < i.high

lemma has_iff_contains (i : Interval) (n : Nat) {d : Nat} (hd : 0 < d) :
    i.has n d = true ↔ Contains i (n / d) := by
  have hd' : (0 : ℚ) < d := Nat.cast_pos.2 hd
  rw [Interval.has, Contains, div_mul_eq_mul_div, le_div_iff₀ hd', div_le_iff₀ hd',
    lt_div_iff₀ hd', div_lt_iff₀ hd']
  norm_cast
  cases i.closed <;> simp

namespace Contains

variable {i : Interval} {y z w : ℚ}

lemma le_and_le (h : Contains i y) : (i.low : ℚ) ≤ y * i.unit ∧ y * i.unit ≤ i.high := by
  rw [Contains] at h
  split at h
  · exact h
  · exact ⟨h.1.le, h.2.le⟩

lemma convex (hy : Contains i y) (hz : Contains i z) (hyw : y ≤ w) (hwz : w ≤ z) :
    Contains i w := by
  have hunit : (0 : ℚ) ≤ i.unit := Nat.cast_nonneg _
  have hlow := mul_le_mul_of_nonneg_right hyw hunit
  have hhigh := mul_le_mul_of_nonneg_right hwz hunit
  by_cases hclosed : i.closed = true
  · rw [Contains, if_pos hclosed] at *
    exact ⟨hy.1.trans hlow, hhigh.trans hz.2⟩
  · rw [Contains, if_neg hclosed] at *
    exact ⟨hy.1.trans_le hlow, hhigh.trans_lt hz.2⟩

end Contains

/-- The value that an interval is around. -/
def center (i : Interval) : ℚ := i.value / i.unit

/-- The interval of a number is shorter than the number by 52 bits. -/
structure IsNarrow (i : Interval) : Prop where
  unit_pos : 0 < i.unit
  contains_center : Contains i (center i)
  width : (i.high - i.low) * 2 ^ 52 ≤ i.value
  low_le : i.low ≤ i.high

lemma IsNarrow.sub_le {i : Interval} {y z : ℚ} (h : IsNarrow i) (hy : Contains i y)
    (hz : Contains i z) : (y - z) * 2 ^ 52 ≤ center i := by
  have hunit : (0 : ℚ) < i.unit := Nat.cast_pos.2 h.unit_pos
  have hwidth : ((i.high : ℚ) - i.low) * 2 ^ 52 ≤ i.value := by
    rw [← Nat.cast_sub h.low_le]
    exact_mod_cast h.width
  have hle : (y - z) * i.unit ≤ i.high - i.low := by
    rw [sub_mul]
    exact sub_le_sub hy.le_and_le.2 hz.le_and_le.1
  rw [center, le_div_iff₀ hunit]
  calc (y - z) * 2 ^ 52 * (i.unit : ℚ) = (y - z) * i.unit * 2 ^ 52 := by ring
    _ ≤ ((i.high : ℚ) - i.low) * 2 ^ 52 := mul_le_mul_of_nonneg_right hle (by positivity)
    _ ≤ (i.value : ℚ) := hwidth

/-- The interval of a number with a full significand is narrow. -/
lemma isNarrow_interval {x : Binary64} (h : Nat.pow 2 52 ≤ x.significand) :
    IsNarrow x.interval := by
  have hstep := two_pow_pos x.unit
  have hunit := mul_two_pow_pos (by decide : 0 < 4) 1074
  rw [Binary64.interval, Binary64.scaled]
  generalize Nat.pow 2 1074 = scale at *
  generalize Nat.pow 2 x.unit = step at *
  have hvalue : 2 ^ 52 * step ≤ x.significand * step := Nat.mul_le_mul_right step h
  generalize hbelow : (if x.significand = Nat.pow 2 52 ∧ x.unit ≠ 0 then step else 2 * step) = below
  have hbelow_pos : 0 < below ∧ below ≤ 2 * step := by
    rw [← hbelow]
    split <;> omega
  refine ⟨hunit, ?_, by dsimp only; omega, by dsimp only; omega⟩
  have hunit' : (4 * scale : ℕ) ≠ (0 : ℚ) := Nat.cast_ne_zero.2 hunit.ne'
  rw [center, Contains, div_mul_cancel₀ _ hunit']
  norm_cast
  dsimp only
  split <;> omega

lemma length_digitsOf_spec {n : Nat} (h : 0 < n) :
    ∃ k, (digitsOf n).length = k + 1 ∧ 10 ^ k ≤ n ∧ n < 10 ^ (k + 1) := by
  obtain ⟨k, hk⟩ : ∃ k, (digitsOf n).length = k + 1 :=
    Nat.exists_eq_add_one.2 (List.length_pos_iff.2 Nat.toDigits_ne_nil)
  have hle : ∀ {j}, 0 < j → ((digitsOf n).length ≤ j ↔ n < 10 ^ j) :=
    Nat.length_toDigits_le_iff (by decide)
  refine ⟨k, hk, ?_, (hle k.succ_pos).1 hk.le⟩
  by_contra hlt
  rcases Nat.eq_zero_or_pos k with rfl | hpos
  · omega
  · have hshort := (hle hpos).2 (Nat.lt_of_not_le hlt)
    omega

lemma tenExponent_spec {n d : Nat} (hn : 0 < n) (hd : 0 < d) :
    (10 : ℚ) ^ (tenExponent n d - 1) ≤ n / d ∧ (n : ℚ) / d < 10 ^ tenExponent n d := by
  have hn' : (0 : ℚ) < n := Nat.cast_pos.2 hn
  have hd' : (0 : ℚ) < d := Nat.cast_pos.2 hd
  rw [le_div_iff₀ hd', div_lt_iff₀ hd', tenExponent]
  split
  · next hle =>
    obtain ⟨k, hk, hlower, hupper⟩ := length_digitsOf_spec (Nat.div_pos hle hd)
    rw [hk, Nat.cast_add_one, add_sub_cancel_right, zpow_natCast]
    exact ⟨mod_cast (Nat.le_div_iff_mul_le hd).1 hlower,
      mod_cast (Nat.div_lt_iff_lt_mul hd).1 hupper⟩
  · next hlt =>
    obtain ⟨k, hk, hlower, hupper⟩ := length_digitsOf_spec (Nat.div_pos (Nat.le_of_not_le hlt) hn)
    replace hlower : (10 : ℚ) ^ k * n ≤ d := mod_cast (Nat.le_div_iff_mul_le hn).1 hlower
    replace hupper : (d : ℚ) < 10 ^ (k + 1) * n := mod_cast (Nat.div_lt_iff_lt_mul hn).1 hupper
    dsimp only
    rw [hk, Nat.add_sub_cancel, Nat.cast_add_one, Nat.pow_eq]
    split
    · next heq =>
      -- The quotient is a power of ten itself.
      have hexact : (10 : ℚ) ^ (-(k : ℤ)) * d = n := by
        rw [heq, zpow_neg, zpow_natCast, Nat.cast_mul, Nat.cast_pow, Nat.cast_ofNat,
          mul_comm (n : ℚ)]
        exact inv_mul_cancel_left₀ (by positivity) _
      rw [show (2 : ℤ) - (k + 1) - 1 = -k by ring, show (2 : ℤ) - (k + 1) = -k + 1 by ring,
        zpow_add_one₀ (by norm_num), mul_right_comm, hexact]
      exact ⟨le_refl _, by linarith⟩
    · next hne =>
      have hlower' : (10 : ℚ) ^ k * n < d := by
        refine lt_of_le_of_ne hlower fun heq => hne ?_
        rw [mul_comm] at heq
        exact_mod_cast heq.symm
      rw [show (1 : ℤ) - (k + 1) - 1 = -(k + 1 : ℕ) by push_cast; ring,
        show (1 : ℤ) - (k + 1) = -(k : ℕ) by ring, zpow_neg, zpow_neg, zpow_natCast, zpow_natCast,
        inv_mul_le_iff₀ (by positivity), lt_inv_mul_iff₀ (by positivity)]
      exact ⟨hupper.le, hlower'⟩

lemma gridPoint_spec (n : Nat) (power : Int) :
    0 < (gridPoint n power).2 ∧
      ((gridPoint n power).1 : ℚ) / (gridPoint n power).2 = n * 10 ^ power := by
  rw [gridPoint]
  split
  · next h =>
    obtain ⟨k, rfl⟩ := Int.eq_ofNat_of_zero_le h
    refine ⟨Nat.one_pos, ?_⟩
    rw [Int.toNat_natCast, zpow_natCast, Nat.pow_eq]
    push_cast
    exact div_one (n * 10 ^ k : ℚ)
  · next h =>
    obtain ⟨k, hk⟩ := Int.eq_ofNat_of_zero_le (neg_nonneg.2 (le_of_not_ge h))
    rw [hk, Int.toNat_natCast, Nat.pow_eq, ← neg_neg power, hk, zpow_neg, zpow_natCast,
      ← div_eq_mul_inv]
    exact ⟨Nat.pow_pos (by decide), by push_cast; rfl⟩

lemma holds_gridPoint (i : Interval) (n : Nat) (power : Int) :
    i.has (gridPoint n power).1 (gridPoint n power).2 = true ↔ Contains i (n * 10 ^ power) := by
  obtain ⟨hpos, hvalue⟩ := gridPoint_spec n power
  rw [has_iff_contains i _ hpos, hvalue]

/-- A grid is searched at the two points around the center. -/
lemma lower_spec {i : Interval} (hunit : 0 < i.unit) (power : Int) {n d : Nat}
    (h : (if 0 ≤ power then (i.value, i.unit * Nat.pow 10 power.toNat)
      else (i.value * Nat.pow 10 (-power).toNat, i.unit)) = (n, d)) :
    0 < d ∧ (n / d : ℚ) * 10 ^ power = center i := by
  split at h
  · next hp =>
    obtain ⟨k, rfl⟩ := Int.eq_ofNat_of_zero_le hp
    rw [Int.toNat_natCast, Nat.pow_eq] at h
    cases h
    refine ⟨by positivity, ?_⟩
    rw [zpow_natCast, center]
    push_cast
    have hten : (10 : ℚ) ^ k ≠ 0 := by positivity
    rw [← div_div, div_mul_cancel₀ _ hten]
  · next hp =>
    obtain ⟨k, hk⟩ := Int.eq_ofNat_of_zero_le (neg_nonneg.2 (le_of_not_ge hp))
    rw [hk, Int.toNat_natCast, Nat.pow_eq] at h
    cases h
    refine ⟨hunit, ?_⟩
    rw [← neg_neg power, hk, zpow_neg, zpow_natCast, center]
    push_cast
    have hten : (10 : ℚ) ^ k ≠ 0 := by positivity
    field_simp

lemma divideHalfEven_eq (n d : Nat) :
    divideHalfEven n d = n / d ∨ divideHalfEven n d = n / d + 1 := by
  rw [divideHalfEven]
  split
  · exact .inr rfl
  · exact .inl rfl

/-- What is found on a grid lies in the interval. -/
lemma contains_of_nearestOnGrid? {i : Interval} {power : Int} {m : Nat}
    (h : i.nearestOnGrid? power = some m) : Contains i (m * 10 ^ power) := by
  rw [← holds_gridPoint]
  unfold Interval.nearestOnGrid? at h
  dsimp only at h
  generalize hnd : (if 0 ≤ power then _ else _) = nd at h
  obtain ⟨n, d⟩ := nd
  dsimp only at h
  split at h
  · next hlower hupper =>
    cases h
    rcases divideHalfEven_eq n d with heq | heq
    · rw [heq]
      exact hlower
    · rw [heq]
      exact hupper
  · next hlower _ =>
    cases h
    exact hlower
  · next _ hupper =>
    cases h
    exact hupper
  · cases h

/-- If the interval holds a point of a grid, one is found. -/
lemma nearestOnGrid?_ne_none {i : Interval} (hi : IsNarrow i) {power : Int} {m : Nat}
    (h : Contains i (m * 10 ^ power)) : i.nearestOnGrid? power ≠ none := by
  have hten : (0 : ℚ) < 10 ^ power := by positivity
  unfold Interval.nearestOnGrid?
  dsimp only
  generalize hnd : (if 0 ≤ power then _ else _) = nd
  obtain ⟨n, d⟩ := nd
  obtain ⟨hd, hcenter⟩ := lower_spec hi.unit_pos power hnd
  have hd' : (0 : ℚ) < d := Nat.cast_pos.2 hd
  have hor : i.has (gridPoint (n / d) power).1 (gridPoint (n / d) power).2 = true ∨
      i.has (gridPoint (n / d + 1) power).1 (gridPoint (n / d + 1) power).2 = true := by
    rw [holds_gridPoint, holds_gridPoint]
    rcases Nat.lt_or_ge (n / d) m with hlt | hge
    · -- The point is above the center, so the next point above the center is nearer.
      right
      refine hi.contains_center.convex h ?_ ?_
      · rw [← hcenter]
        refine mul_le_mul_of_nonneg_right ?_ hten.le
        rw [div_le_iff₀ hd']
        exact_mod_cast (Nat.lt_mul_of_div_lt (Nat.lt_succ_self _) hd).le
      · exact mul_le_mul_of_nonneg_right (mod_cast hlt) hten.le
    · left
      refine h.convex hi.contains_center ?_ ?_
      · exact mul_le_mul_of_nonneg_right (mod_cast hge) hten.le
      · rw [← hcenter]
        refine mul_le_mul_of_nonneg_right ?_ hten.le
        rw [le_div_iff₀ hd']
        exact_mod_cast Nat.div_mul_le_self n d
  dsimp only
  generalize i.has (gridPoint (n / d) power).1 (gridPoint (n / d) power).2 = lower at *
  generalize i.has (gridPoint (n / d + 1) power).1 (gridPoint (n / d + 1) power).2 = upper at *
  cases lower <;> cases upper <;> simp at hor ⊢

/-! ### The search -/

/-- The search stops at the first grid with a point in the interval. -/
lemma search_spec {i : Interval} (hi : IsNarrow i) (exponent : Int) {count tries j m : Nat}
    (hj : j < tries) (h : Contains i (m * 10 ^ (exponent - count - j))) :
    ∃ k ≤ j, (i.search exponent count tries).exponent = exponent - count - k ∧
      Contains i ((i.search exponent count tries).digits * 10 ^ (exponent - count - k)) := by
  induction tries generalizing count j with
  | zero => exact absurd hj (Nat.not_lt_zero j)
  | succ tries ih =>
    rw [Interval.search]
    split
    · next digits hdigits =>
      refine ⟨0, Nat.zero_le j, ?_, ?_⟩
      · rw [Nat.cast_zero, sub_zero]
      · rw [Nat.cast_zero, sub_zero]
        exact contains_of_nearestOnGrid? hdigits
    · next hnone =>
      cases j with
      | zero =>
        rw [Nat.cast_zero, sub_zero] at h
        exact absurd hnone (nearestOnGrid?_ne_none hi h)
      | succ j =>
        have hnext : ∀ k : Nat, exponent - count - (k + 1 : ℕ) = exponent - (count + 1 : ℕ) - k := by
          intro k
          push_cast
          ring
        rw [hnext] at h
        obtain ⟨k, hk, hexponent, hcontains⟩ := ih (Nat.lt_of_succ_lt_succ hj) h
        refine ⟨k + 1, Nat.succ_le_succ hk, ?_⟩
        rw [hnext]
        exact ⟨hexponent, hcontains⟩

/-- A number with few digits in a narrow interval has its leading digit at most one place away
from that of the center. -/
lemma center_spec {i : Interval} (hi : IsNarrow i) {n s : Nat} (hn : 0 < n) (hlt : n < 10 ^ 15)
    (h : Contains i (n * 10 ^ (-(s : ℤ)))) :
    (10 : ℚ) ^ (-(s : ℤ) - 1) < center i ∧ center i < 10 ^ (15 - (s : ℤ)) := by
  have hten : (0 : ℚ) < 10 ^ (-(s : ℤ)) := by positivity
  have hlow := hi.sub_le h hi.contains_center
  have hhigh := hi.sub_le hi.contains_center h
  have hone : (1 : ℚ) ≤ n := mod_cast hn
  have hmax : (n : ℚ) ≤ 10 ^ 15 - 1 := by
    have hle : (n : ℚ) + 1 ≤ 10 ^ 15 := mod_cast hlt
    linarith
  rw [zpow_sub_one₀ (by norm_num), sub_eq_add_neg 15, zpow_add₀ (by norm_num)]
  generalize (10 : ℚ) ^ (-(s : ℤ)) = step at *
  have hlower := mul_le_mul_of_nonneg_right hone hten.le
  have hupper := mul_le_mul_of_nonneg_right hmax hten.le
  norm_num at hupper hlow hhigh ⊢
  constructor <;> linarith

/-- Two multiples of a step that lie in a narrow interval are the same if the center is less than
`10 ^ 15` steps large. -/
lemma IsNarrow.eq_of_contains {i : Interval} (hi : IsNarrow i) {step : ℚ} {m n : Nat}
    (hstep : 0 < step) (hm : Contains i (m * step)) (hn : Contains i (n * step))
    (hlt : center i < 10 ^ 15 * step) : m = n := by
  have hle : ∀ {k l : Nat}, Contains i (k * step) → Contains i (l * step) → k ≤ l := by
    intro k l hk hl
    by_contra hkl
    have hone : (1 : ℚ) ≤ k - l := by
      have hsucc : (l : ℚ) + 1 ≤ k := mod_cast Nat.lt_of_not_le hkl
      linarith
    have hdistance := hi.sub_le hk hl
    have hsteps := mul_le_mul_of_nonneg_right hone hstep.le
    rw [← sub_mul] at hdistance
    norm_num at hdistance hlt hsteps
    linarith
  exact Nat.le_antisymm (hle hm hn) (hle hn hm)

/-- A decimal of at most fifteen digits is denoted by the shortest digits of any narrow interval
that holds it. -/
theorem shortest_of_contains {i : Interval} (hi : IsNarrow i) {n s : Nat} (hn : 0 < n)
    (hlt : n < 10 ^ 15) (h : Contains i (n * 10 ^ (-(s : ℤ)))) :
    (i.shortest.digits : ℚ) * 10 ^ i.shortest.exponent = n * 10 ^ (-(s : ℤ)) ∧
      -(s : ℤ) - 1 ≤ i.shortest.exponent := by
  obtain ⟨hcenter, hcenter'⟩ := center_spec hi hn hlt h
  have hvalue : 0 < i.value := by
    rw [Nat.pos_iff_ne_zero]
    intro hzero
    rw [center, hzero, Nat.cast_zero, zero_div] at hcenter
    exact absurd hcenter (not_lt.2 (by positivity))
  obtain ⟨hlower, hupper⟩ := tenExponent_spec hvalue hi.unit_pos
  rw [Interval.shortest]
  change (10 : ℚ) ^ (tenExponent i.value i.unit - 1) ≤ center i at hlower
  change center i < _ at hupper
  generalize tenExponent i.value i.unit = e at *
  have hleast : -(s : ℤ) - 1 < e :=
    (zpow_lt_zpow_iff_right₀ (by norm_num)).1 (hcenter.trans hupper)
  have hmost : e - 1 < 15 - (s : ℤ) :=
    (zpow_lt_zpow_iff_right₀ (by norm_num)).1 (hlower.trans_lt hcenter')
  -- The finest grid that has to be tried, and the number as a point of it.
  obtain ⟨j, hj⟩ : ∃ j : ℕ, (j : ℤ) = max 0 (e + s - 1) := ⟨_, Int.toNat_of_nonneg (le_max_left _ _)⟩
  obtain ⟨extra, hextra⟩ : ∃ extra : ℕ, -(s : ℤ) = e - (1 : ℕ) - j + extra :=
    ⟨(-(s : ℤ) - (e - 1 - j)).toNat, by omega⟩
  have hpoint : (n : ℚ) * 10 ^ (-(s : ℤ)) = (n * 10 ^ extra : ℕ) * 10 ^ (e - (1 : ℕ) - j) := by
    rw [hextra, zpow_add₀ (by norm_num), zpow_natCast]
    push_cast
    ring
  rw [hpoint] at h ⊢
  obtain ⟨k, hk, hexponent, hcontains⟩ := search_spec hi e (by omega : j < 17) h
  generalize i.search e 1 17 = found at *
  obtain ⟨digits, exponent⟩ := found
  dsimp only at hexponent hcontains ⊢
  obtain ⟨rest, rfl⟩ := Nat.exists_eq_add_of_le hk
  have hfound : (digits : ℚ) * 10 ^ (e - (1 : ℕ) - k) =
      (digits * 10 ^ rest : ℕ) * 10 ^ (e - (1 : ℕ) - (k + rest : ℕ)) := by
    rw [show e - (1 : ℕ) - (k : ℤ) = e - (1 : ℕ) - (k + rest : ℕ) + rest by push_cast; ring,
      zpow_add₀ (by norm_num), zpow_natCast]
    push_cast
    ring
  rw [hfound] at hcontains
  have hsteps : center i < 10 ^ 15 * 10 ^ (e - (1 : ℕ) - (k + rest : ℕ)) := by
    refine hupper.trans_le ?_
    rw [← zpow_natCast, ← zpow_add₀ (by norm_num)]
    exact zpow_le_zpow_right₀ (by norm_num) (by omega)
  have heq := hi.eq_of_contains (by positivity) hcontains h hsteps
  rw [hexponent, hfound, heq]
  exact ⟨rfl, by omega⟩

end RecordFilter.Proofs
