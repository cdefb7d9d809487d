/-
**The nearest number of 53 significant bits.**

Main definitions:

* `Binary.nearest` — **the number of 53 significant bits nearest to a natural number**, a tie going
  to the even one;
* `Binary.mantissa` — the same with the point behind its first bit, scaled to 53 bits.

Main results:

* `Binary.nearestEven_mul`, `Binary.nearestEven_mono` — only the ratio counts, its order is kept;
* `Binary.mantissa_mul`, `Binary.mantissa_bounds` — the mantissa denotes the nearest number;
* `Binary.nearest_eq_self_iff`, `Binary.nearest_of_lt` — which numbers have 53 significant bits;
* `Binary.nearest_mono`, `Binary.nearest_nearest` — rounding keeps the order and is done once.
-/

import EventQuery.Number.Binary
import Mathlib.Data.Nat.Bitwise

set_option relaxedAutoImplicit false
set_option autoImplicit false

namespace EventQuery

-- Powers are those of the core library, whatever other instances are in scope.
attribute [local instance (2000)] instPowNat

namespace Binary

/-! ### The integer nearest to a ratio -/

section Ratio

variable {num den : Nat}

/-- The nearest integer is the quotient or the one after it. -/
theorem nearestEven_bounds (num den : Nat) :
    num / den ≤ nearestEven num den ∧ nearestEven num den ≤ num / den + 1 := by
  unfold nearestEven
  dsimp only
  split
  · omega
  · split <;> omega

/-- **An integer is its own nearest one.** -/
theorem nearestEven_of_mul (n : Nat) (hden : 0 < den) : nearestEven (n * den) den = n := by
  have hmod : n * den % den = 0 := Nat.mul_mod_left n den
  rw [nearestEven, hmod, Nat.mul_zero, if_pos hden, Nat.mul_div_cancel n hden]

/-- **Only the ratio counts.** -/
theorem nearestEven_mul (num den : Nat) {c : Nat} (hc : 0 < c) :
    nearestEven (num * c) (den * c) = nearestEven num den := by
  have hlt (a b : Nat) : a * c < b * c ↔ a < b := Nat.mul_lt_mul_right hc
  simp only [nearestEven, Nat.mul_mod_mul_right, Nat.mul_div_mul_right _ _ hc, ← Nat.mul_assoc, hlt]

/-- **The order of ratios is kept.** -/
theorem nearestEven_mono {a b : Nat} (h : a ≤ b) (den : Nat) :
    nearestEven a den ≤ nearestEven b den := by
  rcases Nat.lt_or_eq_of_le (Nat.div_le_div_right (c := den) h) with hlt | heq
  · exact Nat.le_trans (nearestEven_bounds a den).2
      (Nat.le_trans hlt (nearestEven_bounds b den).1)
  · have hmod : a % den ≤ b % den := by
      have ha := Nat.div_add_mod a den
      have hb := Nat.div_add_mod b den
      rw [heq] at ha
      omega
    have hparity : b / den % 2 ≤ 1 := by omega
    simp only [nearestEven, heq]
    split
    · split
      · exact Nat.le_refl _
      · split <;> omega
    · split
      · rw [if_neg (by omega), if_pos (by omega)]
      · rw [if_neg (by omega)]
        split <;> omega

theorem le_nearestEven {n : Nat} (hden : 0 < den) (h : n * den ≤ num) :
    n ≤ nearestEven num den := by
  have hmono := nearestEven_mono h den
  rwa [nearestEven_of_mul n hden] at hmono

theorem nearestEven_le {n : Nat} (hden : 0 < den) (h : num ≤ n * den) :
    nearestEven num den ≤ n := by
  have hmono := nearestEven_mono h den
  rwa [nearestEven_of_mul n hden] at hmono

end Ratio

/-! ### 53 significant bits -/

/-- **The number of 53 significant bits nearest to a natural number**, a tie going to the even
one. -/
def nearest (n : Nat) : Nat := nearestEven n (2 ^ (n.log2 - 52)) * 2 ^ (n.log2 - 52)

/-- The nearest number scaled to 53 bits. -/
def mantissa (n : Nat) : Nat := nearestEven (n * 2 ^ 52) (2 ^ n.log2)

/-- **The mantissa denotes the nearest number.** -/
theorem mantissa_mul (n : Nat) : mantissa n * 2 ^ n.log2 = nearest n * 2 ^ 52 := by
  rw [mantissa, nearest]
  by_cases h : 52 ≤ n.log2
  · have hsplit : 2 ^ n.log2 = 2 ^ (n.log2 - 52) * 2 ^ 52 := by
      rw [← Nat.pow_add, Nat.sub_add_cancel h]
    rw [hsplit, nearestEven_mul _ _ (Nat.two_pow_pos 52), Nat.mul_assoc]
  · have hsplit : 2 ^ 52 = 2 ^ (52 - n.log2) * 2 ^ n.log2 := by
      rw [← Nat.pow_add, Nat.sub_add_cancel (by omega)]
    have hzero : n.log2 - 52 = 0 := by omega
    have hone := nearestEven_of_mul n Nat.one_pos
    rw [Nat.mul_one] at hone
    rw [hzero, Nat.pow_zero, hone, Nat.mul_one, hsplit, ← Nat.mul_assoc,
      nearestEven_of_mul _ (Nat.two_pow_pos n.log2)]

theorem mantissa_bounds {n : Nat} (h : 0 < n) : 2 ^ 52 ≤ mantissa n ∧ mantissa n ≤ 2 ^ 53 := by
  have hlow : 2 ^ n.log2 ≤ n := Nat.log2_self_le (by omega)
  have hhigh : n < 2 ^ (n.log2 + 1) := Nat.lt_log2_self
  rw [Nat.pow_succ] at hhigh
  refine ⟨le_nearestEven (Nat.two_pow_pos _) ?_, nearestEven_le (Nat.two_pow_pos _) ?_⟩ <;> omega

theorem nearest_bounds {n : Nat} (h : 0 < n) :
    2 ^ n.log2 ≤ nearest n ∧ nearest n ≤ 2 ^ (n.log2 + 1) := by
  obtain ⟨hlow, hhigh⟩ := mantissa_bounds h
  have hmul := mantissa_mul n
  have hlow' := Nat.mul_le_mul_right (2 ^ n.log2) hlow
  have hhigh' := Nat.mul_le_mul_right (2 ^ n.log2) hhigh
  rw [Nat.pow_succ]
  omega

/-- **The numbers that have 53 significant bits** are their own nearest ones. -/
theorem nearest_eq_self_iff {n : Nat} : nearest n = n ↔ 2 ^ (n.log2 - 52) ∣ n := by
  constructor
  · intro h
    exact ⟨_, by rw [Nat.mul_comm]; exact h.symm⟩
  · rintro ⟨q, hq⟩
    have hpos := Nat.two_pow_pos (n.log2 - 52)
    rw [nearest]
    generalize 2 ^ (n.log2 - 52) = d at *
    rw [hq, Nat.mul_comm d q, nearestEven_of_mul q hpos]

theorem nearest_of_lt {n : Nat} (h : n < 2 ^ 53) : nearest n = n := by
  rw [nearest_eq_self_iff]
  by_cases hn : n = 0
  · rw [hn]
    exact Nat.dvd_zero _
  · have hlog : n.log2 < 53 := (Nat.log2_lt hn).2 h
    have hzero : n.log2 - 52 = 0 := by omega
    rw [hzero]
    exact Nat.one_dvd n

/-- **Rounding keeps the order.** -/
theorem nearest_mono {a b : Nat} (h : a ≤ b) : nearest a ≤ nearest b := by
  by_cases ha : a = 0
  · rw [ha, nearest_of_lt (by decide)]
    exact Nat.zero_le _
  · have hlog : a.log2 ≤ b.log2 :=
      (Nat.le_log2 (by omega)).2 (Nat.le_trans (Nat.log2_self_le ha) h)
    rcases Nat.lt_or_eq_of_le hlog with hlt | heq
    · calc nearest a ≤ 2 ^ (a.log2 + 1) := (nearest_bounds (by omega)).2
        _ ≤ 2 ^ b.log2 := Nat.pow_le_pow_right (by decide) hlt
        _ ≤ nearest b := (nearest_bounds (by omega)).1
    · rw [nearest, nearest, heq]
      exact Nat.mul_le_mul_right _ (nearestEven_mono h _)

/-- **What has been rounded stays.** -/
theorem nearest_nearest (n : Nat) : nearest (nearest n) = nearest n := by
  by_cases hn : n = 0
  · rw [hn]
    decide
  · obtain ⟨hlow, hhigh⟩ := nearest_bounds (n := n) (by omega)
    have hpos := Nat.two_pow_pos n.log2
    rw [nearest_eq_self_iff]
    rcases Nat.lt_or_eq_of_le hhigh with hlt | heq
    · have hlog : (nearest n).log2 = n.log2 := (Nat.log2_eq_iff (by omega)).2 ⟨hlow, hlt⟩
      rw [hlog]
      exact Nat.dvd_mul_left _ _
    · -- Rounding carried into another bit.
      rw [heq, Nat.log2_two_pow]
      exact Nat.pow_dvd_pow 2 (Nat.sub_le _ _)

end Binary

end EventQuery
