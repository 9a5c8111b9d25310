/-
**Fair numbers from random draws.**

A draw of 64 bits becomes a number below a bound by a multiplication: the high half of the product
is the number, and the draw is refused if the low half lies beyond the greatest power-of-two
multiple of the bound, so that accepted numbers are nearly equally likely.

Main definitions:

* `Draw.zone` — the greatest low half that is accepted;
* `Draw.below?` — **the number** below a bound that a draw gives, if the draw is accepted.
-/

set_option autoImplicit false
set_option relaxedAutoImplicit false

namespace Provisioning.Draw

/-- The greatest low half that is accepted: the bound with its highest bit moved to the top of 64
bits, less one. -/
def zone (bound : Nat) : Nat := (bound <<< (63 - bound.log2)) - 1

/-- The high half of the product is below the bound, unless the bound is zero. -/
theorem high_lt_of_pos {bound : Nat} (hbound : 0 < bound) (draw : UInt64) :
    draw.toNat * bound / UInt64.size < bound :=
  Nat.div_lt_of_lt_mul (Nat.mul_lt_mul_of_pos_right draw.toNat_lt_size hbound)

/-- **The number** below a bound that a draw gives, if the draw is accepted.  Nothing is below
zero. -/
def below? (bound : Nat) (draw : UInt64) : Option (Fin bound) :=
  if hbound : 0 < bound then
    if draw.toNat * bound % UInt64.size ≤ zone bound then
      some ⟨draw.toNat * bound / UInt64.size, high_lt_of_pos hbound draw⟩
    else none
  else none

end Provisioning.Draw
