/-
**Digits.**

Numbers are read from digits of a base up to sixteen, with letters of either case behind nine.

Main definitions:

* `Digits.value?` — the value of a digit;
* `Digits.number?` — **the number** that digits stand for, and `Digits.some?` for at least one
  digit;
* `Digits.decimal` — the number of decimal digits.
-/

set_option autoImplicit false
set_option relaxedAutoImplicit false

namespace Provisioning.Digits

/-- The value of a digit. -/
def value? (c : Char) : Option Nat :=
  if c.isDigit then some (c.toNat - '0'.toNat)
  else if 'a' ≤ c && c ≤ 'f' then some (c.toNat - 'a'.toNat + 10)
  else if 'A' ≤ c && c ≤ 'F' then some (c.toNat - 'A'.toNat + 10)
  else none

/-- **The number** that digits of a base stand for.  No digits stand for zero. -/
def number? (base : Nat) (digits : List Char) : Option Nat :=
  digits.foldlM
    (fun n d => (value? d).bind fun v => if v < base then some (n * base + v) else none) 0

/-- The number that at least one digit of a base stands for. -/
def some? (base : Nat) (digits : List Char) : Option Nat :=
  if digits.isEmpty then none else number? base digits

/-- The value of a decimal digit. -/
def decimalValue (d : Char) : Nat := d.toNat - '0'.toNat

/-- The number of decimal digits. -/
def decimal (digits : List Char) : Nat := digits.foldl (fun n d => n * 10 + decimalValue d) 0

@[simp] theorem decimal_nil : decimal [] = 0 := rfl

theorem decimal_concat (digits : List Char) (d : Char) :
    decimal (digits ++ [d]) = decimal digits * 10 + decimalValue d := by simp [decimal]

end Provisioning.Digits
