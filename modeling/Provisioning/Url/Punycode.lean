/-
**Punycode.**

A label of a domain name that holds characters beyond the basic alphabet is written with letters,
digits and hyphens alone: first its basic characters, then, for each other character in ascending
order, how far one has to count from the one before to reach it and its place.  The counts are
numbers in base 36 whose digits have thresholds that adapt to the counts before.

Main definitions:

* `Punycode.encode` — the written form of a label;
* `Punycode.decode?` — the label of a written form.
-/

set_option autoImplicit false
set_option relaxedAutoImplicit false

namespace Provisioning.Url.Punycode

/-- The digit of a number below 36. -/
def digit (n : Nat) : Char :=
  if n < 26 then Char.ofNat ('a'.toNat + n) else Char.ofNat ('0'.toNat + (n - 26))

/-- The value of a digit. -/
def value? (c : Char) : Option Nat :=
  if c.isDigit then some (c.toNat - '0'.toNat + 26)
  else if c.isLower then some (c.toNat - 'a'.toNat)
  else if c.isUpper then some (c.toNat - 'A'.toNat)
  else none

/-- The threshold of the digit at a position, which is a multiple of 36. -/
def threshold (position bias : Nat) : Nat :=
  if position ≤ bias then 1 else min 26 (position - bias)

/-- Divide by 35 until little is left, counting the steps in 36s. -/
def settle (delta steps : Nat) : Nat × Nat :=
  if 455 < delta then settle (delta / 35) (steps + 36) else (delta, steps)
termination_by delta
decreasing_by exact Nat.div_lt_self (by omega) (by omega)

/-- The bias after a count of `delta`, when `points` characters are placed. -/
def adapt (delta points : Nat) (first : Bool) : Nat :=
  let delta := if first then delta / 700 else delta / 2
  let (rest, steps) := settle (delta + delta / points) 0
  steps + 36 * rest / (rest + 38)

/-! ### Encoding -/

/-- The digits of a count, from the digit at `position` on.  `fuel` bounds their number. -/
def digits (bias : Nat) : (fuel : Nat) → (position count : Nat) → List Char
  | 0, _, _ => []
  | fuel + 1, position, count =>
    let t := threshold position bias
    if count < t then [digit count]
    else digit (t + (count - t) % (36 - t)) ::
      digits bias fuel (position + 36) ((count - t) / (36 - t))

/-- What is kept while a label is encoded. -/
structure Encoder where
  delta : Nat
  bias : Nat
  placed : Nat
  out : List Char

/-- One character of the label, while the characters equal to `point` are placed. -/
def Encoder.step (basic point : Nat) (e : Encoder) (c : Char) : Encoder :=
  if c.toNat < point then { e with delta := e.delta + 1 }
  else if c.toNat = point then
    { delta := 0
      bias := adapt e.delta (e.placed + 1) (e.placed == basic)
      placed := e.placed + 1
      out := e.out ++ digits e.bias 64 36 e.delta }
  else e

/-- Place the characters of the given numbers, which ascend; `reached` is the number counted to so
far. -/
def place (label : List Char) (basic : Nat) : List Nat → (reached : Nat) → Encoder → Encoder
  | [], _, e => e
  | point :: rest, reached, e =>
    let e := { e with delta := e.delta + (point - reached) * (e.placed + 1) }
    let e := label.foldl (Encoder.step basic point) e
    place label basic rest (point + 1) { e with delta := e.delta + 1 }

/-- The written form of a label, without any mark in front. -/
def encode (label : List Char) : List Char :=
  let basic := label.filter (·.toNat < 128)
  let points := ((label.map Char.toNat).filter (128 ≤ ·)).mergeSort.eraseDups
  let front := if basic.isEmpty then [] else basic ++ ['-']
  (place label basic.length points 128
    { delta := 0, bias := 72, placed := basic.length, out := front }).out

/-! ### Decoding -/

/-- Read a count from the digit at `position` on: the count, and the digits behind it. -/
def count? (bias : Nat) : List Char → (position weight total : Nat) → Option (Nat × List Char)
  | [], _, _, _ => none
  | c :: rest, position, weight, total =>
    match value? c with
    | none => none
    | some v =>
      let t := threshold position bias
      let total := total + v * weight
      if v < t then some (total, rest)
      else count? bias rest (position + 36) (weight * (36 - t)) total

/-- Place the characters that the digits count to.  `fuel` bounds their number. -/
def unplace? : (fuel : Nat) → List Char → (reached place bias : Nat) → List Char →
    Option (List Char)
  | _, [], _, _, _, label => some label
  | 0, _, _, _, _, _ => none
  | fuel + 1, ds, reached, place, bias, label =>
    match count? bias ds 36 1 0 with
    | none => none
    | some (delta, rest) =>
      let size := label.length + 1
      let point := reached + (place + delta) / size
      let here := (place + delta) % size
      if 0x10ffff < point || (0xd800 ≤ point && point < 0xe000) then none
      else
        unplace? fuel rest point (here + 1) (adapt delta size (place == 0))
          (label.take here ++ Char.ofNat point :: label.drop here)

/-- The label of a written form, which has no mark in front. -/
def decode? (written : List Char) : Option (List Char) :=
  let (front, back) :=
    match (written.reverse.span (· != '-')) with
    | (tail, _ :: head) => (head.reverse, tail.reverse)
    | (_, []) => ([], written)
  unplace? back.length back 128 0 72 front

end Provisioning.Url.Punycode
