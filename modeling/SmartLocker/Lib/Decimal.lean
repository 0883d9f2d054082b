import Mathlib.Data.List.Basic

/-!
# Decimal numerals

`text n` is the numeral that C's `%d` and Python's `str` print for an integer.  The readers of
such numerals take the longest run of digits, so what matters about the text that follows is only
that it does not start with a digit (`NoDigit`).
-/

set_option autoImplicit false

namespace Lib.Decimal

/-- The decimal numeral of `n`. -/
def text (n : Int) : List Char :=
  if n < 0 then '-' :: Nat.toDigits 10 n.natAbs else Nat.toDigits 10 n.natAbs

/-- `r` does not start with a digit. -/
def NoDigit (r : List Char) : Prop := ∀ c, r.head? = some c → c.isDigit = false

theorem noDigit_nil : NoDigit [] := by intro c h; cases h

theorem noDigit_cons {c : Char} {r : List Char} (h : c.isDigit = false) : NoDigit (c :: r) := by
  intro d hd
  simp only [List.head?_cons, Option.some.injEq] at hd
  exact hd ▸ h

theorem digit_ne {c d : Char} (h : c.isDigit = true) (hd : d.isDigit = false) : c ≠ d := by
  rintro rfl; rw [h] at hd; cases hd

theorem isDigit_of_mem {n : Nat} {c : Char} (h : c ∈ Nat.toDigits 10 n) : c.isDigit = true :=
  Nat.isDigit_of_mem_toDigits (by decide) (by decide) h

theorem takeWhile_append_noDigit {ds r : List Char} (hd : ∀ c ∈ ds, c.isDigit = true)
    (hr : NoDigit r) : (ds ++ r).takeWhile Char.isDigit = ds := by
  rw [List.takeWhile_append_of_pos hd]
  cases r with
  | nil => simp
  | cons c r => simp [hr c rfl]

/-- The characters of a numeral: digits, after at most one minus sign. -/
theorem text_mem {n : Int} {c : Char} (h : c ∈ text n) : c = '-' ∨ c.isDigit = true := by
  unfold text at h
  split at h
  · rcases List.mem_cons.mp h with rfl | h
    · exact Or.inl rfl
    · exact Or.inr (isDigit_of_mem h)
  · exact Or.inr (isDigit_of_mem h)

theorem text_neg {n : Int} (h : n < 0) : text n = '-' :: Nat.toDigits 10 n.natAbs := by
  simp [text, h]

theorem text_nonneg {n : Int} (h : 0 ≤ n) : text n = Nat.toDigits 10 n.natAbs := by
  simp [text, show ¬ n < 0 by omega]

theorem text_ne_nil (n : Int) : text n ≠ [] := by
  unfold text
  split
  · simp
  · exact Nat.toDigits_ne_nil

/-- A numeral has no leading zero, unless it is `0`. -/
theorem toDigits_zero_head {n : Nat} (h : (Nat.toDigits 10 n).head? = some '0') :
    Nat.toDigits 10 n = ['0'] := by
  induction n using Nat.strongRecOn with
  | ind n ih =>
    by_cases hn : n < 10
    · rw [Nat.toDigits_of_lt_base hn] at h ⊢
      simp only [List.head?_cons, Option.some.injEq] at h
      rw [h]
    · have hcut := Nat.toDigits_of_base_le (n := n) (by decide : 1 < 10) (by omega)
      have hhead : (Nat.toDigits 10 (n / 10)).head? = some '0' := by
        rw [hcut] at h
        cases hd : Nat.toDigits 10 (n / 10) with
        | nil => exact absurd hd Nat.toDigits_ne_nil
        | cons c l =>
          rw [hd] at h
          exact h
      -- the quotient is positive, so its numeral is not `0`
      have hzero := ih (n / 10) (by omega) hhead
      have hval := Nat.ofDigitChars_ten_toDigits (n := n / 10)
      rw [hzero] at hval
      have : n / 10 = 0 := hval.symm
      omega

/-- The first `k` digits have the value of all of them just if no digit is left out, or all are zero. -/
theorem ofDigitChars_take {ds : List Char} {k : Nat} :
    Nat.ofDigitChars 10 (ds.take k) 0 ≤ Nat.ofDigitChars 10 ds 0 ∧
      (Nat.ofDigitChars 10 (ds.take k) 0 = Nat.ofDigitChars 10 ds 0 ↔
        ds.length ≤ k ∨ Nat.ofDigitChars 10 ds 0 = 0) := by
  have hcut : Nat.ofDigitChars 10 ds 0 = 10 ^ (ds.drop k).length * Nat.ofDigitChars 10 (ds.take k) 0 +
      Nat.ofDigitChars 10 (ds.drop k) 0 := by
    conv_lhs => rw [← List.take_append_drop k ds, Nat.ofDigitChars_append,
      Nat.ofDigitChars_eq_ofDigitChars_zero]
  by_cases hk : ds.length ≤ k
  · rw [List.take_of_length_le hk]
    exact ⟨Nat.le_refl _, by simp [hk]⟩
  · -- at least one digit is left out, so the value of the others is multiplied by ten or more
    have hlen : (ds.drop k).length = (ds.drop k).length - 1 + 1 := by
      rw [List.length_drop]
      omega
    have hpow : 1 ≤ 10 ^ ((ds.drop k).length - 1) := Nat.one_le_pow _ _ (by decide)
    have hten : 10 * Nat.ofDigitChars 10 (ds.take k) 0 ≤
        10 ^ (ds.drop k).length * Nat.ofDigitChars 10 (ds.take k) 0 := by
      rw [hlen, Nat.pow_succ]
      exact Nat.mul_le_mul_right _ (by omega)
    omega

/-- A numeral of a 16-bit number has at most six characters. -/
theorem text_length {n : Int} (h : -32768 ≤ n ∧ n ≤ 32767) : (text n).length ≤ 6 := by
  have hd : (Nat.toDigits 10 n.natAbs).length ≤ 5 :=
    (Nat.length_toDigits_le_iff (by decide) (by decide)).mpr (by omega)
  unfold text
  split
  · simp only [List.length_cons]; omega
  · omega

end Lib.Decimal
