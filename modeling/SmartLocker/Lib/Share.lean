import Mathlib.Algebra.Order.Field.Basic
import Mathlib.Tactic.Linarith

/-!
# Capped shares

The share `r * n` of an amount `n`, where `r` is between 0 and 1, and what is left of it under a cap.

* `min_share_iff` — when the capped share of one amount, capped by another one, is the capped share of
  the other one; `min_share_iff_of_uncapped` is the same without the cap;
* `min_eq_min_iff_right` — when two caps leave the same.
-/

set_option autoImplicit false

namespace Lib.Share

theorem min_eq_min_iff_right {α : Type*} [LinearOrder α] {w a b : α} :
    min w a = min w b ↔ a = b ∨ (w ≤ a ∧ w ≤ b) := by
  constructor
  · intro h
    by_cases hab : w ≤ a
    · rw [min_eq_left hab, eq_comm, min_eq_left_iff] at h
      exact Or.inr ⟨hab, h⟩
    · have ha := min_eq_right (not_le.mp hab).le
      rw [ha] at h
      left
      rcases min_choice w b with hw | hb
      · exact absurd (h.trans hw) (not_le.mp hab).ne
      · exact h.trans hb
  · rintro (rfl | ⟨ha, hb⟩)
    · rfl
    · rw [min_eq_left ha, min_eq_left hb]

variable {K : Type*} [Field K] [LinearOrder K] [IsStrictOrderedRing K]

/-- **A capped share** of `e`, capped once more by `n`, is the capped share of `n`. -/
theorem min_share_iff {r c e n : K} (h0 : 0 ≤ r) (h1 : r ≤ 1) (he : 0 < e) (hn : 0 < n) :
    min (min (r * e) c) n = min (r * n) c ↔
      n = e ∨ r = 0 ∨ (r = 1 ∧ n ≤ e) ∨ c ≤ r * min e n := by
  have hre : r * e ≤ e := mul_le_of_le_one_left he.le h1
  have hrn : r * n ≤ n := mul_le_of_le_one_left hn.le h1
  constructor
  · intro h
    by_contra hnot
    push Not at hnot
    obtain ⟨hne, hr, hwhole, hceil⟩ := hnot
    have hpos : 0 < r := lt_of_le_of_ne h0 (Ne.symm hr)
    rcases lt_or_gt_of_ne hne with hlt | hgt
    · -- fewer: the old share is still more than the new one, the subtotal too
      rw [min_eq_right hlt.le] at hceil
      have hr1 : r < 1 := lt_of_le_of_ne h1 fun hr1 => lt_asymm hlt (hwhole hr1)
      have hmore : r * n < r * e := mul_lt_mul_of_pos_left hlt hpos
      have hless : r * n < n := mul_lt_of_lt_one_left hn hr1
      rw [min_eq_left hceil.le] at h
      exact absurd h (lt_min (lt_min hmore hceil) hless).ne'
    · rw [min_eq_left hgt.le] at hceil
      have hmore : r * e < r * n := mul_lt_mul_of_pos_left hgt hpos
      rw [min_eq_left hceil.le, min_eq_left (hre.trans hgt.le)] at h
      exact absurd h (lt_min hmore hceil).ne
  · rintro (rfl | rfl | ⟨rfl, hle⟩ | hceil)
    · exact min_eq_left (min_le_left _ _ |>.trans hrn)
    · rw [zero_mul, zero_mul]
      exact min_eq_left ((min_le_left _ _).trans hn.le)
    · rw [one_mul, one_mul, min_right_comm, min_eq_right hle]
    · have hce : c ≤ r * e := hceil.trans (mul_le_mul_of_nonneg_left (min_le_left _ _) h0)
      have hcn : c ≤ r * n := hceil.trans (mul_le_mul_of_nonneg_left (min_le_right _ _) h0)
      rw [min_eq_right hce, min_eq_right hcn, min_eq_left (hcn.trans hrn)]

/-- Without a cap. -/
theorem min_share_iff_of_uncapped {r e n : K} (h0 : 0 ≤ r) (h1 : r ≤ 1) (he : 0 < e) (hn : 0 < n) :
    min (r * e) n = r * n ↔ n = e ∨ r = 0 ∨ (r = 1 ∧ n ≤ e) := by
  have hre : r * e ≤ e := mul_le_of_le_one_left he.le h1
  have hrn : r * n ≤ n := mul_le_of_le_one_left hn.le h1
  have hcap := min_share_iff (c := e + n) h0 h1 he hn
  have hnever : ¬ e + n ≤ r * min e n := by
    have := mul_le_of_le_one_left (lt_min he hn).le h1
    have := min_le_left e n
    linarith
  rw [min_eq_left (by linarith : r * e ≤ e + n), min_eq_left (by linarith : r * n ≤ e + n)] at hcap
  simpa only [hnever, or_false] using hcap

end Lib.Share
