import Mathlib.Tactic.Linarith
import Mathlib.Tactic.Ring
import RecordFilter.Number.Shortest

/-!
# Rounding to the nearest number

A quotient is rounded to the binary64 format once, so it lies in the interval of the number that it
is rounded to, its ends included only if the significand is even. Natural numbers of at most
53 bits and powers of ten up to the twenty-second are numbers of the format themselves.
-/

namespace RecordFilter.Proofs
open RecordFilter.Number

/-- `q` differs from `n / d` by one half at most, and by less if it is odd. -/
structure IsHalfEven (n d q : Nat) : Prop where
  above : 2 * n ≤ (2 * q + 1) * d
  below : 2 * q * d ≤ 2 * n + d
  of_odd : q % 2 = 1 → 2 * n < (2 * q + 1) * d ∧ 2 * q * d < 2 * n + d

lemma isHalfEven_divideHalfEven (n : Nat) {d : Nat} (hd : 0 < d) :
    IsHalfEven n d (divideHalfEven n d) := by
  have hdiv := Nat.div_add_mod n d
  have hmod := Nat.mod_lt n hd
  unfold divideHalfEven
  dsimp only
  generalize n / d = k at *
  generalize n % d = r at *
  subst hdiv
  split
  · next hup =>
    have habove : (2 * (k + 1) + 1) * d = 2 * (d * k) + 3 * d := by ring
    have hbelow : 2 * (k + 1) * d = 2 * (d * k) + 2 * d := by ring
    constructor <;> omega
  · next hdown =>
    have habove : (2 * k + 1) * d = 2 * (d * k) + d := by ring
    have hbelow : 2 * k * d = 2 * (d * k) := by ring
    constructor <;> omega

lemma divideHalfEven_mul (q : Nat) {d : Nat} (hd : 0 < d) : divideHalfEven (q * d) d = q := by
  rw [divideHalfEven, Nat.mul_div_cancel q hd, Nat.mul_mod_left, if_neg (by omega)]

namespace IsHalfEven

variable {n d q k : Nat}

lemma le_of_le (h : IsHalfEven n d q) (hd : 0 < d) (hk : k * d ≤ n) : k ≤ q := by
  have habove := h.above
  by_contra hlt
  have hle : (2 * q + 1) * d + d ≤ 2 * k * d := by
    have hq : 2 * q + 1 + 1 ≤ 2 * k := by omega
    calc (2 * q + 1) * d + d = (2 * q + 1 + 1) * d := by ring
      _ ≤ 2 * k * d := Nat.mul_le_mul_right d hq
  have hk' : 2 * k * d = 2 * (k * d) := by ring
  omega

lemma le_of_lt (h : IsHalfEven n d q) (hd : 0 < d) (hk : n < k * d) : q ≤ k := by
  have hbelow := h.below
  by_contra hlt
  have hle : 2 * k * d + 2 * d ≤ 2 * q * d := by
    have hq : 2 * k + 2 ≤ 2 * q := by omega
    calc 2 * k * d + 2 * d = (2 * k + 2) * d := by ring
      _ ≤ 2 * q * d := Nat.mul_le_mul_right d hq
  have hk' : 2 * k * d = 2 * (k * d) := by ring
  omega

end IsHalfEven

/-- The unit of a quotient `v / d` is chosen so that 53 bits hold it and 52 do not, unless the unit
is the least one. -/
lemma unit_spec (v : Nat) {d : Nat} (hd : 0 < d) :
    v < 2 ^ 53 * (d * 2 ^ ((v / d).log2 - 52)) ∧
      (2 ^ 52 * (d * 2 ^ ((v / d).log2 - 52)) ≤ v ∨ (v / d).log2 - 52 = 0) := by
  have hupper : v / d < 2 ^ (53 + ((v / d).log2 - 52)) :=
    Nat.lt_of_lt_of_le Nat.lt_log2_self (Nat.pow_le_pow_right (by decide) (by omega))
  have hsplit : ∀ j k : Nat, 2 ^ j * (d * 2 ^ k) = 2 ^ (j + k) * d := by
    intro j k
    rw [Nat.pow_add]
    ring
  constructor
  · rw [hsplit]
    exact (Nat.div_lt_iff_lt_mul hd).1 hupper
  · rw [hsplit]
    by_cases hunit : (v / d).log2 - 52 = 0
    · exact .inr hunit
    · left
      have hne : v / d ≠ 0 := by
        intro hzero
        rw [hzero] at hunit
        exact hunit (by decide)
      have hlower : 2 ^ (52 + ((v / d).log2 - 52)) ≤ v / d := by
        rw [show 52 + ((v / d).log2 - 52) = (v / d).log2 by omega]
        exact Nat.log2_self_le hne
      exact (Nat.le_div_iff_mul_le hd).1 hlower

/-- What a number is the rounding of lies in its interval. Below a power of two the interval is
shorter, so the quotient must not be further away than a quarter of the unit. -/
lemma has_interval_of_isHalfEven {x : Binary64} {n d : Nat}
    (h : IsHalfEven (n * Nat.pow 2 1074) (d * 2 ^ x.unit) x.significand)
    (hpower : x.significand = Nat.pow 2 52 → x.unit ≠ 0 →
      4 * (x.significand * (d * 2 ^ x.unit)) ≤ 4 * (n * Nat.pow 2 1074) + d * 2 ^ x.unit) :
    x.interval.has n d = true := by
  have habove := h.above
  have hbelow := h.below
  have hstrict := h.of_odd
  rw [Interval.has, Binary64.interval, Binary64.scaled]
  dsimp only
  generalize Nat.pow 2 1074 = scale at *
  have hpow : Nat.pow 2 x.unit = 2 ^ x.unit := rfl
  rw [hpow] at *
  generalize 2 ^ x.unit = step at *
  generalize hq : x.significand = q at *
  have hvalue : n * (4 * scale) = 4 * (n * scale) := by ring
  have hhigh : (4 * (q * step) + 2 * step) * d = 4 * (q * (d * step)) + 2 * (d * step) := by ring
  have hlow : ∀ k, (4 * (q * step) - k * step) * d =
      4 * (q * (d * step)) - k * (d * step) := by
    intro k
    rw [Nat.sub_mul]
    congr 1 <;> ring
  have hlow₁ := hlow 1
  have hlow₂ := hlow 2
  have habove' : (2 * q + 1) * (d * step) = 2 * (q * (d * step)) + d * step := by ring
  have hbelow' : 2 * q * (d * step) = 2 * (q * (d * step)) := by ring
  rw [Nat.one_mul, Nat.one_mul] at hlow₁
  rw [habove'] at habove hstrict
  rw [hbelow'] at hbelow hstrict
  rw [hvalue, hhigh]
  by_cases hodd : q % 2 = 1
  · -- An odd significand is no power of two.
    obtain ⟨habove, hbelow⟩ := hstrict hodd
    have hne : ¬(q = Nat.pow 2 52 ∧ x.unit ≠ 0) := by
      rintro ⟨rfl, -⟩
      exact absurd hodd (by decide)
    have hle : d * step ≤ q * (d * step) :=
      Nat.le_mul_of_pos_left _ (by omega)
    rw [if_neg (by simp [hodd]), if_neg hne, hlow₂, Bool.and_eq_true, decide_eq_true_eq,
      decide_eq_true_eq]
    omega
  · rw [if_pos (by simpa using hodd), Bool.and_eq_true, decide_eq_true_eq, decide_eq_true_eq]
    split
    · next hfull =>
      have hle := hpower hfull.1 hfull.2
      rw [hlow₁]
      omega
    · rw [hlow₂]
      omega

/-- A quotient rounded up to the next power of two is rounded in the greater unit, too. -/
lemma IsHalfEven.carry {v d : Nat} (h : IsHalfEven v d (2 ^ 53)) :
    IsHalfEven v (2 * d) (2 ^ 52) ∧ 4 * (2 ^ 52 * (2 * d)) ≤ 4 * v + 2 * d := by
  have habove := h.above
  have hbelow := h.below
  refine ⟨⟨by omega, by omega, fun hodd => ?_⟩, by omega⟩
  exact absurd hodd (by decide)

lemma exists_ofParts? (negative : Bool) {significand unit : Nat}
    (hlt : significand < Nat.pow 2 53) (hfull : Nat.pow 2 52 ≤ significand ∨ unit = 0)
    (hunit : unit ≤ 2045) :
    ∃ x : Binary64, Binary64.ofParts? negative significand unit = some x ∧ x.negative = negative ∧
      x.significand = significand ∧ x.unit = unit :=
  ⟨⟨negative, significand, unit, hlt, hfull, hunit⟩, dif_pos ⟨hlt, hfull, hunit⟩, rfl, rfl, rfl⟩

/-- A quotient within the range of the format is rounded to a number that has it in its interval. -/
theorem exists_nearest? (negative : Bool) {n d : Nat} (hd : 0 < d)
    (hlt : n * Nat.pow 2 1074 < d * 2 ^ 2097) :
    ∃ x, Binary64.nearest? negative n d = some x ∧ x.negative = negative ∧
      x.interval.has n d = true := by
  obtain ⟨hupper, hlower⟩ := unit_spec (n * Nat.pow 2 1074) hd
  rw [Binary64.nearest?]
  generalize hv : n * Nat.pow 2 1074 = v at *
  have hunit : (v / d).log2 - 52 ≤ 2044 := by
    have hquotient : v / d < 2 ^ 2097 := (Nat.div_lt_iff_lt_mul hd).2 (Nat.mul_comm d _ ▸ hlt)
    by_cases hzero : v / d = 0
    · rw [hzero]
      decide
    · have hlog := (Nat.log2_lt hzero).2 hquotient
      omega
  generalize (v / d).log2 - 52 = unit at *
  have hd' : 0 < d * 2 ^ unit := Nat.mul_pos hd (Nat.two_pow_pos unit)
  have hpow : Nat.pow 2 unit = 2 ^ unit := rfl
  have hrounded := isHalfEven_divideHalfEven v hd'
  have hle := hrounded.le_of_lt hd' hupper
  rw [hpow]
  generalize divideHalfEven v (d * 2 ^ unit) = q at *
  split
  · next hcarry =>
    obtain ⟨x, hx, hnegative, hsignificand, hxunit⟩ := exists_ofParts? negative
      (by decide : Nat.pow 2 52 < Nat.pow 2 53) (.inl (Nat.le_refl _))
      (by omega : unit + 1 ≤ 2045)
    rw [hcarry] at hrounded
    obtain ⟨hhalf, hquarter⟩ := hrounded.carry
    have hdouble : d * 2 ^ x.unit = 2 * (d * 2 ^ unit) := by
      rw [hxunit, Nat.pow_succ]
      ring
    refine ⟨x, hx, hnegative, has_interval_of_isHalfEven ?_ fun _ _ => ?_⟩
    · rw [hdouble, hsignificand, hv]
      exact hhalf
    · rw [hdouble, hsignificand, hv]
      exact hquarter
  · next hcarry =>
    have hfull : Nat.pow 2 52 ≤ q ∨ unit = 0 := hlower.imp_left (hrounded.le_of_le hd')
    obtain ⟨x, hx, hnegative, hsignificand, hxunit⟩ :=
      exists_ofParts? negative (Nat.lt_of_le_of_ne hle hcarry) hfull (by omega)
    refine ⟨x, hx, hnegative, has_interval_of_isHalfEven ?_ fun hpower hne => ?_⟩
    · rw [hxunit, hsignificand, hv]
      exact hrounded
    · have hle := hlower.resolve_right (hxunit ▸ hne)
      rw [hpower, hxunit, hv]
      exact Nat.le_add_right_of_le (Nat.mul_le_mul_left 4 hle)

/-! ### Exact numbers -/

-- These are stated for any exponent, so that the power of the least unit is never computed.

lemma two_pow_pos (k : Nat) : 0 < Nat.pow 2 k := Nat.two_pow_pos k

lemma mul_two_pow_pos {n : Nat} (h : 0 < n) (k : Nat) : 0 < n * Nat.pow 2 k :=
  Nat.mul_pos h (two_pow_pos k)

lemma two_pow_le {j k : Nat} (h : j ≤ k) : 2 ^ j ≤ 2 ^ k := Nat.pow_le_pow_right (by decide) h

lemma mul_two_pow_lt {n j : Nat} (h : n < 2 ^ j) (k : Nat) : n * Nat.pow 2 k < 2 ^ (j + k) := by
  rw [Nat.pow_add]
  exact Nat.mul_lt_mul_of_pos_right h (two_pow_pos k)

lemma mul_two_pow_eq (n : Nat) {j k : Nat} (h : k ≤ j) :
    n * Nat.pow 2 j = n * 2 ^ (j - k) * 2 ^ k := by
  rw [Nat.mul_assoc, ← Nat.pow_add, Nat.sub_add_cancel h]
  rfl

/-- The least unit divides every natural number, so those of at most 53 bits are not rounded. -/
theorem exists_nearest?_of_lt (negative : Bool) {n : Nat} (h : n < 2 ^ 53) :
    ∃ x, Binary64.nearest? negative n 1 = some x ∧ x.negative = negative ∧
      x.scaled = n * Nat.pow 2 1074 := by
  obtain ⟨hupper, hlower⟩ := unit_spec (n * Nat.pow 2 1074) Nat.one_pos
  rw [Nat.one_mul] at hupper hlower
  have hbound := mul_two_pow_lt h 1074
  rw [Binary64.nearest?]
  obtain ⟨v, hv⟩ : ∃ v, n * Nat.pow 2 1074 = v := ⟨_, rfl⟩
  rw [hv] at hupper hlower hbound ⊢
  have hscale : ∀ k ≤ 1074, v = n * 2 ^ (1074 - k) * 2 ^ k :=
    fun k hk => hv.symm.trans (mul_two_pow_eq n hk)
  have hunit : (v / 1).log2 - 52 ≤ 1074 := by
    rw [Nat.div_one]
    by_cases hzero : v = 0
    · rw [hzero]
      decide
    · have hlog := (Nat.log2_lt hzero).2 hbound
      omega
  generalize (v / 1).log2 - 52 = unit at *
  have hpow : 1 * Nat.pow 2 unit = 2 ^ unit := Nat.one_mul _
  rw [hpow, hscale unit hunit, divideHalfEven_mul _ (Nat.two_pow_pos unit)]
  rw [hscale unit hunit] at hupper hlower
  have hlt := Nat.lt_of_mul_lt_mul_right hupper
  have hfull : Nat.pow 2 52 ≤ n * 2 ^ (1074 - unit) ∨ unit = 0 :=
    hlower.imp_left fun hle => Nat.le_of_mul_le_mul_right hle (Nat.two_pow_pos unit)
  have hcarry : n * 2 ^ (1074 - unit) ≠ Nat.pow 2 53 := Nat.ne_of_lt hlt
  rw [if_neg hcarry]
  obtain ⟨x, hx, hnegative, hsignificand, hxunit⟩ :=
    exists_ofParts? negative hlt hfull (by omega)
  refine ⟨x, hx, hnegative, ?_⟩
  rw [Binary64.scaled, hsignificand, hxunit]
  rfl

lemma scaled_tenPower? :
    ∀ s < 23, (Binary64.tenPower? s).map Binary64.scaled = some (10 ^ s * Nat.pow 2 1074) := by
  decide +kernel

lemma has_mul (i : Interval) (n d : Nat) {k : Nat} (hk : 0 < k) :
    i.has (n * k) (d * k) = i.has n d := by
  have hvalue : n * k * i.unit = n * i.unit * k := by ring
  simp only [Interval.has, hvalue, ← Nat.mul_assoc, Nat.mul_le_mul_right_iff hk,
    Nat.mul_lt_mul_right hk]

lemma mul_lt_of_lt {n k l d : Nat} (h : n * k < l) (hk : 0 < k) (hd : 0 < d) :
    n * k * k < d * k * l :=
  calc n * k * k = k * (n * k) := Nat.mul_comm _ _
    _ < k * l := Nat.mul_lt_mul_of_pos_left h hk
    _ ≤ d * k * l := Nat.mul_le_mul_right _ (Nat.le_mul_of_pos_left _ hd)

/-- Dividing a natural number of at most 53 bits by a power of ten rounds once only. -/
theorem exists_scaleByTen? {x : Binary64} {n s : Nat} (hx : x.scaled = n * Nat.pow 2 1074)
    (hn : n < 2 ^ 53) (hpos : 0 < s) (hs : s < 23) :
    ∃ z, x.scaleByTen? (-s) = some z ∧ z.negative = x.negative ∧
      z.interval.has n (10 ^ s) = true := by
  have hnegative : ¬0 ≤ -(s : Int) := not_le.2 (neg_neg_of_pos (Int.natCast_pos.2 hpos))
  have hleast : -308 ≤ -(s : Int) := neg_le_neg (Int.ofNat_le.2 (Nat.le_trans hs.le (by decide)))
  obtain ⟨y, hy, hscaled⟩ := Option.map_eq_some_iff.1 (scaled_tenPower? s hs)
  have hscale := two_pow_pos 1074
  have hten : 0 < 10 ^ s := Nat.pow_pos (by decide)
  have hrange := Nat.lt_of_lt_of_le (mul_two_pow_lt hn 1074) (two_pow_le (by decide : _ ≤ 2097))
  obtain ⟨z, hz, hsign, hhas⟩ :=
    exists_nearest? x.negative (mul_two_pow_pos hten 1074) (mul_lt_of_lt hrange hscale hten)
  refine ⟨z, ?_, hsign, by rwa [has_mul _ _ _ hscale] at hhas⟩
  rw [Binary64.scaleByTen?, if_neg hnegative, if_pos hleast, neg_neg, Int.toNat_natCast, hy,
    Option.bind_eq_bind, Option.bind_some, Binary64.div?, hx, hscaled, hz]

end RecordFilter.Proofs
