/-
**JSON texts.**

The two written forms of a value: compact, without any blank, and indented by two spaces a level.
Members and items are written in the order in which the value has them.  In a string only the
quote, the backslash and the control characters below the space are escaped; every other character
stands for itself.

Main definitions:

* `Json.escape` — the inside of a string's written form;
* `Json.Value.compact` — **the compact text** of a value;
* `Json.Value.indented` — the text of a value on several lines.
-/

import Provisioning.Json.Value

set_option autoImplicit false
set_option relaxedAutoImplicit false

namespace Provisioning.Json

/-! ### Strings -/

/-- The lower-case hexadecimal digit of a number below sixteen. -/
def hexDigit (n : Nat) : Char := Nat.digitChar n

/-- The written form of one character inside a string. -/
def escapeChar (c : Char) : List Char :=
  if c = '\x22' then ['\\', '\x22']
  else if c = '\\' then ['\\', '\\']
  else if c = '\x08' then ['\\', 'b']
  else if c = '\x0c' then ['\\', 'f']
  else if c = '\n' then ['\\', 'n']
  else if c = '\r' then ['\\', 'r']
  else if c = '\t' then ['\\', 't']
  else if c.toNat < 32 then ['\\', 'u', '0', '0', hexDigit (c.toNat / 16), hexDigit (c.toNat % 16)]
  else [c]

/-- The inside of a string's written form. -/
def escape (text : List Char) : List Char := text.flatMap escapeChar

/-- A string in its quotes. -/
def quoted (s : String) : List Char := '\x22' :: escape s.toList ++ ['\x22']

/-- A truth value. -/
def booleanText (b : Bool) : List Char := (if b then "true" else "false").toList

@[simp] theorem escape_nil : escape [] = [] := rfl

@[simp] theorem escape_cons (c : Char) (rest : List Char) :
    escape (c :: rest) = escapeChar c ++ escape rest := by simp [escape]

@[simp] theorem escape_append (a b : List Char) : escape (a ++ b) = escape a ++ escape b := by
  simp [escape]

/-! ### The compact form -/

mutual

/-- The characters of the compact form. -/
def Value.chars : Value → List Char
  | .null => "null".toList
  | .boolean b => booleanText b
  | .number n => n.text.toList
  | .string s => quoted s
  | .array items => '[' :: itemsChars items ++ [']']
  | .object members => '\x7b' :: membersChars members ++ ['\x7d']

/-- Items with commas between them. -/
def itemsChars : List Value → List Char
  | [] => []
  | [v] => v.chars
  | v :: w :: rest => v.chars ++ ',' :: itemsChars (w :: rest)

/-- Members with commas between them. -/
def membersChars : List (String × Value) → List Char
  | [] => []
  | [(name, v)] => quoted name ++ ':' :: v.chars
  | (name, v) :: m :: rest => quoted name ++ ':' :: v.chars ++ ',' :: membersChars (m :: rest)

end

/-- **The compact text** of a value. -/
def Value.compact (v : Value) : String := String.ofList v.chars

/-! ### The indented form -/

/-- A new line at a level of indentation. -/
def newLine (level : Nat) : List Char := '\n' :: List.replicate (2 * level) ' '

mutual

/-- The characters of the indented form of a value that stands at `level`. -/
def Value.lines (level : Nat) : Value → List Char
  | .array (v :: rest) =>
    '[' :: newLine (level + 1) ++ v.lines (level + 1) ++ itemLines level rest ++ newLine level
      ++ [']']
  | .object ((name, v) :: rest) =>
    '\x7b' :: newLine (level + 1) ++ quoted name ++ ':' :: ' ' :: v.lines (level + 1)
      ++ memberLines level rest ++ newLine level ++ ['\x7d']
  | .null => "null".toList
  | .boolean b => booleanText b
  | .number n => n.text.toList
  | .string s => quoted s
  | .array [] => ['[', ']']
  | .object [] => ['\x7b', '\x7d']

/-- The items after the first, inside an array at `level`. -/
def itemLines (level : Nat) : List Value → List Char
  | [] => []
  | v :: rest => ',' :: newLine (level + 1) ++ v.lines (level + 1) ++ itemLines level rest

/-- The members after the first, inside an object at `level`. -/
def memberLines (level : Nat) : List (String × Value) → List Char
  | [] => []
  | (name, v) :: rest =>
    ',' :: newLine (level + 1) ++ quoted name ++ ':' :: ' ' :: v.lines (level + 1)
      ++ memberLines level rest

end

/-- The text of a value on several lines, two spaces a level; an empty array or object stays on its
line. -/
def Value.indented (v : Value) : String := String.ofList (v.lines 0)

end Provisioning.Json
