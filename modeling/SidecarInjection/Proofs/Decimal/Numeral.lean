import SidecarInjection.Decimal.Natural

/-!
# `SidecarInjection.Proofs.Decimal.Numeral`: decimal digits and the library's numerals

Numbers are read and rendered digit by digit. Both agree with the numerals of the standard
library, which serve as the meaning of digits here.

* `read_eq_some_iff`: digits read as their value.
* `text_eq_toString`: a number is rendered as its numeral.
* `head?_toDigits_ne_zero`: a numeral has no leading zero.
-/

set_option autoImplicit false

namespace SidecarInjection.Decimal

/-! ### Reading -/

/-- Digits are those of the library. -/
theorem isDigit_eq (c : Char) : isDigit c = c.isDigit := by
  rw [Bool.eq_iff_iff]
  simp only [isDigit, Char.isDigit, Bool.and_eq_true, decide_eq_true_eq, ge_iff_le,
    UInt32.le_iff_toNat_le]
  exact Iff.rfl

/-- Digits behind others make up a number with these. -/
theorem readFrom_eq_some_iff {acc n : Nat} {cs : List Char} :
    readFrom acc cs = some n ↔
      (∀ c ∈ cs, c.isDigit = true) ∧ Nat.ofDigitChars 10 cs acc = n := by
  -- The number that the digits before make up is the value to start from.
  induction cs generalizing acc with
  | nil => simp [readFrom]
  | cons c rest ih =>
    rw [readFrom, isDigit_eq, Nat.ofDigitChars_cons, List.forall_mem_cons]
    split
    · rename_i hdigit
      have hvalue : acc * 10 + digitValue c = 10 * acc + (c.toNat - '0'.toNat) := by
        rw [Nat.mul_comm]
        rfl
      rw [ih, hvalue, and_iff_right hdigit]
    · rename_i hdigit
      simp [hdigit]

/-- One or more digits read as the number that they stand for, and nothing else does. -/
theorem read_eq_some_iff {cs : List Char} {n : Nat} :
    read cs = some n ↔
      cs ≠ [] ∧ (∀ c ∈ cs, c.isDigit = true) ∧ Nat.ofDigitChars 10 cs 0 = n := by
  unfold read
  split
  · rename_i hempty
    simp [List.isEmpty_iff.mp hempty]
  · rename_i hfilled
    rw [readFrom_eq_some_iff, and_iff_right fun hnil => hfilled (List.isEmpty_iff.mpr hnil)]

/-! ### Rendering -/

/-- Numbers are rendered with the digits of the library. -/
theorem render_eq_toDigits (n : Nat) : render n = Nat.toDigits 10 n := by
  have hdigit : ∀ d < 10, digitChar d = Nat.digitChar d := by decide
  induction n using Nat.strongRecOn with
  | _ n ih =>
    rw [render, Nat.toDigits_eq_if (by decide)]
    split
    · rename_i hone
      rw [hdigit n hone]
    · rename_i hmore
      -- Both recurse on the quotient, which is less than a number of several digits.
      have hless : n / 10 < n := Nat.div_lt_self (by omega) (by decide)
      rw [ih (n / 10) hless, hdigit (n % 10) (Nat.mod_lt _ (by decide))]

/-- So a number is written as the library writes it. -/
theorem text_eq_toString (n : Nat) : text n = toString n := by
  rw [text, render_eq_toDigits, Nat.toString_eq_repr, Nat.repr]

/-- A numeral above zero has no leading zero. -/
theorem head?_toDigits_ne_zero {n : Nat} (h : 0 < n) : (Nat.toDigits 10 n).head? ≠ some '0' := by
  -- The first digit is that of the quotient, down to a number of one digit.
  induction n using Nat.strongRecOn with
  | _ n ih =>
    rw [Nat.toDigits_eq_if (by decide)]
    split
    · rename_i hone
      have hdigits : ∀ d < 10, 0 < d → Nat.digitChar d ≠ '0' := by decide
      simpa using hdigits n hone h
    · rename_i hmore
      have hless : n / 10 < n := Nat.div_lt_self h (by decide)
      have hquotient : 0 < n / 10 := by omega
      have hfirst := ih (n / 10) hless hquotient
      have hfilled : Nat.toDigits 10 (n / 10) ≠ [] := by
        rw [← render_eq_toDigits]
        exact render_ne_nil (n / 10)
      obtain ⟨first, others, hdigits⟩ := List.exists_cons_of_ne_nil hfilled
      rw [hdigits] at hfirst ⊢
      exact hfirst

end SidecarInjection.Decimal
