/-
**The shortest decimal of a binary64 number.**

Every real number in a small interval around a finite binary64 number is rounded to it; the ends
of the interval belong to it when the significand is even.  The shortest decimal is the one with
the fewest significant digits inside that interval and, among those, the nearest to the number.
Because a decimal grid that meets the interval also has one of the two neighbours of the number
in it, only two candidates have to be looked at for each count of digits, and seventeen digits
always suffice.

Main definitions:

* `Shortest.Interval` — the numbers that are rounded to one binary64 number, as naturals over a
  common denominator;
* `Shortest.Decimal` — digits and the place of the first one;
* `Shortest.decimal` — **the shortest decimal** of a positive number;
* `Binary64.text` — the written form: positional for a moderate size, else with an exponent.
-/

import Provisioning.Decimal.Binary64

set_option autoImplicit false
set_option relaxedAutoImplicit false

namespace Provisioning

namespace Shortest

/-- The numbers that are rounded to one binary64 number: from `low` to `high`, around `value`, all
over the denominator `den`; the ends count if `closed`. -/
structure Interval where
  low : Nat
  value : Nat
  high : Nat
  den : Nat
  closed : Bool
  deriving Repr

/-- The interval of a positive number.  Below the least significand of a binade the neighbour is
only half as far. -/
def Interval.of (x : Binary64) : Interval :=
  let m := x.significand
  let narrow := m == Binary64.leastFull && x.exponent != Binary64.leastExponent
  let low := if narrow then 4 * m - 1 else 4 * m - 2
  let scaled (n : Nat) : Nat :=
    if 2 ≤ x.exponent then n * Nat.pow 2 (x.exponent - 2).toNat else n
  let den := if 2 ≤ x.exponent then 1 else Nat.pow 2 (2 - x.exponent).toNat
  ⟨scaled low, scaled (4 * m), scaled (4 * m + 2), den, m % 2 == 0⟩

/-- Whether the fraction `num / den` lies in the interval. -/
def Interval.contains (i : Interval) (num den : Nat) : Bool :=
  let point := num * i.den
  if i.closed then i.low * den ≤ point && point ≤ i.high * den
  else i.low * den < point && point < i.high * den

/-- A decimal: its significant digits, the first not zero, and the power of ten of the first. -/
structure Decimal where
  digits : List Char
  magnitude : Int
  deriving DecidableEq, Repr

/-- The decimal digits of a natural number. -/
def digitsOf (n : Nat) : List Char := Nat.toDigits 10 n

/-- The power of ten of the first digit of the positive fraction `num / den`. -/
def magnitudeOf (num den : Nat) : Int :=
  if den ≤ num then (digitsOf (num / den)).length - 1
  else
    let places := (digitsOf (den / num)).length
    if num * Nat.pow 10 (places - 1) = den then 1 - (places : Int) else -(places : Int)

/-- Drop the zeros at the end of a digit list. -/
def dropFinalZeros (digits : List Char) : List Char :=
  (digits.reverse.dropWhile (· == '0')).reverse

/-- The decimal `n * 10 ^ place`, for a positive `n`. -/
def Decimal.ofNat (n : Nat) (place : Int) : Decimal :=
  let digits := digitsOf n
  ⟨dropFinalZeros digits, place + digits.length - 1⟩

/-- The decimal with at most `count` digits that lies in the interval and is nearest to its value,
if there is one.  The grid has its last digit at `10 ^ place`. -/
def candidate? (i : Interval) (magnitude : Int) (count : Nat) : Option Decimal :=
  let place : Int := magnitude - count + 1
  -- the grid's unit as a fraction
  let (up, down) :=
    if 0 ≤ place then (Nat.pow 10 place.toNat, 1) else (1, Nat.pow 10 (-place).toNat)
  let below := i.value * down / (i.den * up)
  let above := below + 1
  let inside (n : Nat) : Bool := i.contains (n * up) down
  -- twice the distance from `below`, compared with one unit of the grid
  let twice := 2 * (i.value * down - below * (i.den * up))
  match 0 < below && inside below, inside above with
  | true, true =>
    let nearer :=
      if twice < i.den * up then below
      else if i.den * up < twice then above
      else below + below % 2
    some (.ofNat nearer place)
  | true, false => some (.ofNat below place)
  | false, true => some (.ofNat above place)
  | false, false => none

/-- **The shortest decimal** of a positive number: the first count of digits that has a
candidate. -/
def decimal (x : Binary64) : Decimal :=
  let i := Interval.of x
  let magnitude := magnitudeOf i.value i.den
  match (List.range 17).findSome? fun n => candidate? i magnitude (n + 1) with
  | some d => d
  | none => .ofNat (i.value / i.den) 0

/-- Positional notation, always with a point: digits before it, or zeros after it, are filled
in. -/
def Decimal.positional (d : Decimal) : List Char :=
  if d.magnitude < 0 then
    '0' :: '.' :: List.replicate ((-d.magnitude).toNat - 1) '0' ++ d.digits
  else
    let whole := d.magnitude.toNat + 1
    let front := d.digits.take whole
    let back := d.digits.drop whole
    front ++ List.replicate (whole - front.length) '0' ++ '.' ::
      (if back.isEmpty then ['0'] else back)

/-- Notation with an exponent, which always has a sign. -/
def Decimal.scientific (d : Decimal) : List Char :=
  let mantissa :=
    match d.digits with
    | first :: second :: rest => first :: '.' :: second :: rest
    | digits => digits
  let exponent := if d.magnitude < 0 then '-' :: digitsOf (-d.magnitude).toNat
    else '+' :: digitsOf d.magnitude.toNat
  mantissa ++ 'e' :: exponent

end Shortest

namespace Binary64

/-- The sign of a number in front of the text of its magnitude. -/
def signed (x : Binary64) (text : List Char) : String :=
  String.ofList (if x.negative then '-' :: text else text)

/-- Positional text of any size, with `.0` for a whole number. -/
def positionalText (x : Binary64) : String :=
  x.signed (if x.isZero then ['0', '.', '0'] else (Shortest.decimal x).positional)

/-- The text of a number: positional from `10 ^ -5` up to below `10 ^ 16`, else with an
exponent. -/
def text (x : Binary64) : String :=
  if x.isZero then x.positionalText
  else
    let d := Shortest.decimal x
    x.signed (if -5 ≤ d.magnitude && d.magnitude < 16 then d.positional else d.scientific)

end Binary64

end Provisioning
