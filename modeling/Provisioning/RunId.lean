/-
**Identifiers of runs.**

A run is identified by a number of 128 bits.  Its written form is 32 lower-case hexadecimal digits
in groups of 8, 4, 4, 4 and 12; read are digits of either case, in one piece or in these groups, and
the groups also in braces or behind the mark of a name.

Main definitions:

* `RunId` — an identifier;
* `RunId.text`, `RunId.ofText?` — its written form, and reading;
* `RunId.random` — an identifier made of random bits.
-/

import Provisioning.Text.Digits

set_option autoImplicit false
set_option relaxedAutoImplicit false

namespace Provisioning

/-- The identifier of a run. -/
structure RunId where
  bits : BitVec 128
  deriving DecidableEq, Repr, Inhabited

namespace RunId

/-- The last `count` hexadecimal digits of a number, the highest one first. -/
def hexDigits : (count : Nat) → Nat → List Char
  | 0, _ => []
  | count + 1, n => hexDigits count (n / 16) ++ [Nat.digitChar (n % 16)]

theorem length_hexDigits (count n : Nat) : (hexDigits count n).length = count := by
  induction count generalizing n with
  | zero => rfl
  | succ count ih => simp [hexDigits, ih]

/-- The written form of an identifier. -/
def text (id : RunId) : String :=
  let digits := hexDigits 32 id.bits.toNat
  let group (start count : Nat) : List Char := (digits.drop start).take count
  String.ofList
    (group 0 8 ++ '-' :: group 8 4 ++ '-' :: group 12 4 ++ '-' :: group 16 4 ++ '-' :: group 20 12)

/-- The mark of an identifier that is written as a name. -/
def nameMark : List Char := "urn:uuid:".toList

/-- The digits of a written form without what is around them and between them. -/
def bareDigits (text : List Char) : List Char :=
  let grouped :=
    if nameMark.isPrefixOf text then text.drop nameMark.length
    else if text.head? = some '\x7b' && text.getLast? = some '\x7d' then text.tail.dropLast
    else text
  let groups := grouped.splitOn '-'
  if groups.map List.length = [8, 4, 4, 4, 12] then groups.flatten else text

/-- The identifier of a written form. -/
def ofText? (s : String) : Option RunId :=
  let digits := bareDigits s.toList
  if digits.length = 32 then (Digits.number? 16 digits).map fun n => ⟨BitVec.ofNat 128 n⟩ else none

/-- An identifier made of random bits, apart from those that say that it is. -/
def random (high low : UInt64) : RunId :=
  let high := (high &&& 0xffffffffffff0fff) ||| 0x4000
  let low := (low &&& 0x3fffffffffffffff) ||| 0x8000000000000000
  ⟨high.toBitVec ++ low.toBitVec⟩

end RunId

end Provisioning
