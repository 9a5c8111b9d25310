/-
**Finite binary64 numbers, exactly.**

A finite binary64 number is a sign, a natural significand and a power of two.  Keeping it in this
form, and not as a machine word, makes every rounding a statement about natural numbers: a ratio
of naturals is rounded once, to the nearest number of the format, a tie going to the even
significand, and a magnitude beyond the format has no result.

Main definitions:

* `Binary64` — sign, significand and exponent of a finite number;
* `Binary64.ofRatio?` — **rounding**: the number nearest to a ratio of naturals;
* `Binary64.mul?`, `Binary64.div?` — the exact product and quotient, rounded once;
* `Binary64.powerOfTen?`, `Binary64.ofDecimal?` — the number nearest to a power of ten and to a
  decimal.
-/

set_option autoImplicit false
set_option relaxedAutoImplicit false

namespace Provisioning

/-- A finite binary64 number: the value `significand * 2 ^ exponent`, with its sign.  In **canonical
form** the significand is below `2 ^ 53` and, unless the exponent is the least one, `-1074`, at
least `2 ^ 52`.  A zero keeps its sign. -/
structure Binary64 where
  negative : Bool
  significand : Nat
  exponent : Int
  deriving DecidableEq, Repr, Inhabited

namespace Binary64

/-- The least exponent of the format, at which the significand may be short. -/
def leastExponent : Int := -1074

/-- The greatest exponent of the format. -/
def greatestExponent : Int := 971

/-- The least significand of full length, `2 ^ 52`. -/
def leastFull : Nat := Nat.pow 2 52

/-- The zero of a sign. -/
def zero (negative : Bool) : Binary64 := ⟨negative, 0, leastExponent⟩

/-- Whether the number is a zero of either sign. -/
def isZero (x : Binary64) : Bool := x.significand == 0

/-- The number with its sign turned. -/
def neg (x : Binary64) : Binary64 := { x with negative := !x.negative }

/-- The magnitude as a ratio of naturals. -/
def ratio (x : Binary64) : Nat × Nat :=
  if 0 ≤ x.exponent then (x.significand * Nat.pow 2 x.exponent.toNat, 1)
  else (x.significand, Nat.pow 2 (-x.exponent).toNat)

/-! ### Rounding -/

/-- The natural number nearest to `num / den`, a tie going to the even one. -/
def roundedQuotient (num den : Nat) : Nat :=
  let quotient := num / den
  let twice := 2 * (num % den)
  if twice < den then quotient
  else if den < twice then quotient + 1
  else quotient + quotient % 2

/-- The ratio `num / den` counted in units of `2 ^ exponent`. -/
def inUnits (num den : Nat) (exponent : Int) : Nat × Nat :=
  if 0 ≤ exponent then (num, den * Nat.pow 2 exponent.toNat)
  else (num * Nat.pow 2 (-exponent).toNat, den)

/-- The exponent at which the positive ratio `num / den` has a significand of 53 bits, or the least
exponent of the format if that is greater.  The bit lengths of the two naturals give the exponent
up to one. -/
def exponentOf (num den : Nat) : Int :=
  let guess : Int := (num.log2 : Int) - (den.log2 : Int) - 52
  let (n, d) := inUnits num den guess
  max leastExponent (if n / d < leastFull then guess - 1 else guess)

/-- **Rounding**: the number of the format nearest to `num / den`, or nothing if the rounded
magnitude lies beyond the format. -/
def ofRatio? (negative : Bool) (num den : Nat) : Option Binary64 :=
  if num = 0 then some (zero negative)
  else
    let exponent := exponentOf num den
    let (n, d) := inUnits num den exponent
    let significand := roundedQuotient n d
    let (significand, exponent) :=
      if significand = 2 * leastFull then (leastFull, exponent + 1) else (significand, exponent)
    if greatestExponent < exponent then none else some ⟨negative, significand, exponent⟩

/-- The number nearest to a natural number. -/
def ofNat? (n : Nat) : Option Binary64 := ofRatio? false n 1

/-- The product, rounded once. -/
def mul? (x y : Binary64) : Option Binary64 :=
  let (a, b) := x.ratio
  let (c, d) := y.ratio
  ofRatio? (x.negative != y.negative) (a * c) (b * d)

/-- The quotient by a number that is not zero, rounded once. -/
def div? (x y : Binary64) : Option Binary64 :=
  let (a, b) := x.ratio
  let (c, d) := y.ratio
  if c = 0 then none else ofRatio? (x.negative != y.negative) (a * d) (b * c)

/-- The number nearest to `10 ^ n`; there is one for `n ≤ 308`. -/
def powerOfTen? (n : Nat) : Option Binary64 := ofNat? (Nat.pow 10 n)

/-- The number nearest to `digits * 10 ^ exponent`.  Powers that are far beyond the format on either
side are not computed. -/
def ofDecimal? (negative : Bool) (digits : Nat) (exponent : Int) : Option Binary64 :=
  if digits = 0 then some (zero negative)
  else
    let magnitude := exponent + (Nat.toDigits 10 digits).length
    if 310 < magnitude then none
    else if magnitude < -330 then some (zero negative)
    else if 0 ≤ exponent then ofRatio? negative (digits * Nat.pow 10 exponent.toNat) 1
    else ofRatio? negative digits (Nat.pow 10 (-exponent).toNat)

/-! ### Small facts -/

@[simp] theorem zero_isZero (negative : Bool) : (zero negative).isZero = true := rfl

@[simp] theorem neg_neg (x : Binary64) : x.neg.neg = x := by
  cases x; simp [neg]

@[simp] theorem ofRatio?_zero (negative : Bool) (den : Nat) :
    ofRatio? negative 0 den = some (zero negative) := rfl

end Binary64

end Provisioning
