/-
**Decimal digits.**

Digits are read by taking as many of them as there are, so where a run of digits ends is decided by
what stands behind it.  The digits of a number are those that a number is written with: reading
them gives the number again, and no superfluous zero stands in front of them.

Main definitions:

* `Digits.IsRun` — at least one digit, and nothing else.

Main results:

* `span_append` — where a text is split;
* `Digits.number?_of_isDigit` — every text of decimal digits is a number;
* `Digits.decimal_toDigits` — **the digits of a number are read as the number**.
-/

import Mathlib.Data.List.TakeDrop
import Provisioning.Text.Digits

set_option relaxedAutoImplicit false
set_option autoImplicit false

namespace Provisioning

/-- A text is split where the first character is that does not belong to its front. -/
theorem span_append {p : Char → Bool} {front rest : List Char} (hfront : ∀ c ∈ front, p c = true)
    (hrest : rest.head?.any p = false) : (front ++ rest).span p = (front, rest) := by
  rw [List.span_eq_takeWhile_dropWhile, List.takeWhile_append_of_pos hfront,
    List.dropWhile_append_of_pos hfront]
  cases rest with
  | nil => simp
  | cons c rest =>
      have hc : ¬ p c = true := by simpa using hrest
      rw [List.takeWhile_cons_of_neg hc, List.dropWhile_cons_of_neg hc, List.append_nil]

namespace Digits

/-! ### Reading digits -/

section Reading

variable {digits : List Char} {d : Char}

theorem decimalValue_lt (hd : d.isDigit = true) : decimalValue d < 10 := by
  simp only [Char.isDigit, ge_iff_le, Bool.and_eq_true, decide_eq_true_eq,
    UInt32.le_iff_toNat_le, Char.reduceVal, UInt32.reduceToNat, Char.toNat_val] at hd
  simp only [decimalValue, Char.reduceToNat]
  omega

/-- More digits do not make a number smaller. -/
theorem le_foldl (digits : List Char) (n : Nat) :
    n ≤ digits.foldl (fun n d => n * 10 + decimalValue d) n := by
  induction digits generalizing n with
  | nil => exact Nat.le_refl n
  | cons d digits ih =>
      exact Nat.le_trans (by omega) (ih (n * 10 + decimalValue d))

/-- **Every text of decimal digits is a number.** -/
theorem number?_of_isDigit (hdigits : ∀ c ∈ digits, c.isDigit = true) :
    number? 10 digits = some (decimal digits) := by
  suffices h : ∀ n, digits.foldlM (fun n d => (value? d).bind fun v =>
      if v < 10 then some (n * 10 + v) else none) n =
        some (digits.foldl (fun n d => n * 10 + decimalValue d) n) from h 0
  induction digits with
  | nil => exact fun n => rfl
  | cons d digits ih =>
      obtain ⟨hd, hdigits⟩ := List.forall_mem_cons.mp hdigits
      intro n
      have hvalue : value? d = some (decimalValue d) := if_pos hd
      rw [List.foldlM_cons, hvalue, Option.bind_some, if_pos (decimalValue_lt hd)]
      exact ih hdigits _

/-- **At least one digit**, and nothing else. -/
structure IsRun (digits : List Char) : Prop where
  ne_nil : digits ≠ []
  isDigit : ∀ c ∈ digits, c.isDigit = true

/-- A run of digits begins with a digit. -/
theorem IsRun.exists_cons (h : IsRun digits) :
    ∃ d rest, digits = d :: rest ∧ d.isDigit = true := by
  obtain ⟨d, rest, rfl⟩ := List.exists_cons_of_ne_nil h.ne_nil
  exact ⟨d, rest, rfl, h.isDigit d List.mem_cons_self⟩

end Reading

/-! ### The digits of a number -/

section Writing

variable (n : Nat)

/-- **The digits of a number are read as the number.** -/
theorem decimal_toDigits : decimal (Nat.toDigits 10 n) = n := by
  have hfold : decimal (Nat.toDigits 10 n) = Nat.ofDigitChars 10 (Nat.toDigits 10 n) 0 := by
    simp only [Nat.ofDigitChars_eq_foldl, Nat.mul_comm 10]
    rfl
  rw [hfold, Nat.ofDigitChars_ten_toDigits]

theorem isRun_toDigits : IsRun (Nat.toDigits 10 n) :=
  ⟨Nat.toDigits_ne_nil, fun _ hc => Nat.isDigit_of_mem_toDigits (by decide) (by decide) hc⟩

theorem some?_toDigits : some? 10 (Nat.toDigits 10 n) = some n := by
  have hrun := isRun_toDigits n
  rw [some?, List.isEmpty_eq_false_iff.mpr hrun.ne_nil, number?_of_isDigit hrun.isDigit,
    decimal_toDigits]
  rfl

/-- No superfluous zero stands in front of the digits of a number. -/
theorem eq_nil_of_toDigits {rest : List Char} (h : Nat.toDigits 10 n = '0' :: rest) :
    rest = [] := by
  suffices hhead : ∀ n, 0 < n → (Nat.toDigits 10 n).head? ≠ some '0' by
    rcases Nat.eq_zero_or_pos n with rfl | hn
    · exact (List.cons.inj h).2.symm
    · exact absurd (congrArg List.head? h) (hhead n hn)
  intro n hn
  induction n using Nat.strongRecOn with
  | ind n ih =>
      by_cases hlt : n < 10
      · rw [Nat.toDigits_of_lt_base hlt]
        exact (by decide : ∀ n < 10, 0 < n → [Nat.digitChar n].head? ≠ some '0') n hlt hn
      · -- The digits in front are those of a smaller number, which is not zero either.
        rw [Nat.toDigits_of_base_le (by decide) (Nat.le_of_not_lt hlt), List.head?_append, ne_eq,
          Option.or_eq_some_iff, List.head?_eq_none_iff]
        rintro (hhead | ⟨hnil, -⟩)
        · exact ih (n / 10) (by omega) (by omega) hhead
        · exact Nat.toDigits_ne_nil hnil

end Writing

end Digits

end Provisioning
