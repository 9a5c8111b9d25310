/-
**JSON values.**

A value as the rest of the library works with it: numbers are integers of the 64-bit ranges or
finite binary64 numbers, and an object that was read from a text has its members in ascending order
of their names, each name once.  An object that is built to be written keeps the order in which its
members were given, because the writer prints them as they stand.

Main definitions:

* `Json.Number`, `Json.Value` — the values;
* `Json.Members.put` — the member list of an object read from a text: ascending, the last value
  given to a name wins;
* `Json.Value.member?` — the value of a member.
-/

import Provisioning.Decimal.Shortest

set_option autoImplicit false
set_option relaxedAutoImplicit false

namespace Provisioning.Json

/-- A number: an integer that fits 64 bits, signed or unsigned, or a finite binary64 number. -/
inductive Number where
  | integer (n : Int)
  | float (x : Binary64)
  deriving DecidableEq, Repr

/-- The text of a number. -/
def Number.text : Number → String
  | .integer n => toString n
  | .float x => x.text

/-- A JSON value. -/
inductive Value where
  | null
  | boolean (b : Bool)
  | number (n : Number)
  | string (s : String)
  | array (items : List Value)
  | object (members : List (String × Value))
  deriving Repr

instance : Inhabited Value := ⟨.null⟩

/-- The value of an integer. -/
def Value.integer (n : Int) : Value := .number (.integer n)

/-- The value of a natural number. -/
def Value.natural (n : Nat) : Value := .integer n

/-- An array of strings. -/
def Value.strings (texts : List String) : Value := .array (texts.map .string)

/-- A string, or null for nothing. -/
def Value.optional : Option String → Value
  | none => .null
  | some s => .string s

/-! ### Members of an object -/

/-- Give `name` the value `v` in an ascending member list; a value it had before is replaced. -/
def Members.put (name : String) (v : Value) : List (String × Value) → List (String × Value)
  | [] => [(name, v)]
  | (other, w) :: rest =>
    if name = other then (name, v) :: rest
    else if name < other then (name, v) :: (other, w) :: rest
    else (other, w) :: Members.put name v rest

/-- The value of the member `name` of an object. -/
def Value.member? (name : String) : Value → Option Value
  | .object members => members.lookup name
  | _ => none

/-- The text of a string value. -/
def Value.string? : Value → Option String
  | .string s => some s
  | _ => none

/-- A name has the value just put. -/
theorem Members.lookup_put_self (name : String) (v : Value) (members : List (String × Value)) :
    (Members.put name v members).lookup name = some v := by
  induction members with
  | nil => simp [Members.put]
  | cons m rest ih =>
    obtain ⟨other, w⟩ := m
    unfold Members.put
    split
    · simp
    · rename_i hname
      split
      · simp
      · simp only [List.lookup_cons]
        split
        · rename_i heq
          exact absurd (by simpa using heq) hname
        · exact ih

/-- Another name keeps its value. -/
theorem Members.lookup_put_other {name other : String} (hname : other ≠ name) (v : Value)
    (members : List (String × Value)) :
    (Members.put name v members).lookup other = members.lookup other := by
  have hbeq : (other == name) = false := by simpa using hname
  induction members with
  | nil => simp [Members.put, List.lookup_cons, hbeq]
  | cons m rest ih =>
    obtain ⟨third, w⟩ := m
    unfold Members.put
    split
    · rename_i heq
      subst heq
      simp [List.lookup_cons, hbeq]
    · split
      · simp [List.lookup_cons, hbeq]
      · simp only [List.lookup_cons]
        split <;> simp_all

end Provisioning.Json
