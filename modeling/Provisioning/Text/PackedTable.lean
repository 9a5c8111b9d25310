/-
**Tables in a packed form.**

A long table of numbers is kept as lines of text: rows have commas between them, the numbers of a
row have blanks between them and are hexadecimal.

Main definitions:

* `Text.Packed.rows` — **the rows** of a packed table;
* `Text.Packed.image?` — the row that begins with a number, without that number;
* `Text.Packed.inRange?` — the row of the range that a number lies in.
-/

import Provisioning.Text.Digits

set_option autoImplicit false
set_option relaxedAutoImplicit false

namespace Provisioning.Text.Packed

/-- The number that hexadecimal digits stand for. -/
def number (digits : String) : Nat := (Digits.number? 16 digits.toList).getD 0

/-- **The rows** of a packed table. -/
def rows (lines : List String) : List (List Nat) :=
  lines.flatMap fun line => (line.splitOn ",").map fun row => (row.splitOn " ").map number

/-- The rest of the first row that begins with a number. -/
def image? : List (List Nat) → Nat → Option (List Nat)
  | (m :: image) :: rest, n => if m = n then some image else image? rest n
  | [] :: rest, n => image? rest n
  | [], _ => none

/-- What stands behind the ends of the first range that holds a number. -/
def inRange? : List (List Nat) → Nat → Option (List Nat)
  | (first :: last :: image) :: rest, n =>
    if first ≤ n ∧ n ≤ last then some image else inRange? rest n
  | _ :: rest, n => inRange? rest n
  | [], _ => none

end Provisioning.Text.Packed
