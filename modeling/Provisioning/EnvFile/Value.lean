/-
**The values of an environment file.**

A value is plain text or stands in quotes, and both kinds may follow each other without a blank.
In single quotes every character stands for itself; elsewhere a backslash escapes a few characters
and a dollar sign substitutes a variable, whose name is a run of letters and digits or stands in
braces.  The character behind a bare name is always text, a quote included.  A blank ends a plain
value, and only a comment may follow it.

Main definitions:

* `EnvFile.ValueReader` — what is kept while a value is read;
* `EnvFile.value` — **the value** of a text, or the place of its fault.
-/

import Provisioning.EnvFile.Line
import Provisioning.Text.Alphanumeric

set_option autoImplicit false
set_option relaxedAutoImplicit false

namespace Provisioning.EnvFile

/-- The quotes around the present character. -/
inductive Quote where
  | none
  | single
  | double
  deriving DecidableEq, Repr

/-- What the present character belongs to. -/
inductive Phase where
  | text
  /-- The character behind a backslash. -/
  | escaped
  /-- A variable's name behind a dollar sign. -/
  | name (collected : List Char)
  /-- A variable's name in braces. -/
  | braces (collected : List Char)
  /-- The blanks behind a value. -/
  | ended
  /-- The comment behind a value. -/
  | comment
  deriving DecidableEq, Repr

/-- What is kept while a value is read; the lists have the last character first. -/
structure ValueReader where
  quote : Quote := .none
  phase : Phase := .text
  out : List Char := []
  deriving DecidableEq, Repr

namespace ValueReader

/-- Add characters to the value. -/
def push (r : ValueReader) (text : List Char) : ValueReader :=
  { r with phase := .text, out := text.reverse ++ r.out }

/-- The character that a backslash and `c` stand for. -/
def unescape? (c : Char) : Option Char :=
  if c = 'n' then some '\n'
  else if "\\\x27\x22$ ".toList.contains c then some c
  else none

/-- A character of the text itself. -/
def readText (r : ValueReader) (c : Char) : ValueReader :=
  match r.quote with
  | .single => if c = '\x27' then { r with quote := .none } else r.push [c]
  | .double =>
    if c = '$' then { r with phase := .name [] }
    else if c = '\x22' then { r with quote := .none }
    else if c = '\\' then { r with phase := .escaped }
    else r.push [c]
  | .none =>
    if c = '$' then { r with phase := .name [] }
    else if c = '\x27' then { r with quote := .single }
    else if c = '\x22' then { r with quote := .double }
    else if c = '\\' then { r with phase := .escaped }
    else if c = ' ' || c = '\t' then { r with phase := .ended }
    else r.push [c]

/-- The next character; nothing if it is a fault. -/
def step? (lookup : List Char → List Char) (r : ValueReader) (c : Char) : Option ValueReader :=
  match r.phase with
  | .comment => some r
  | .ended =>
    if c = ' ' || c = '\t' then some r
    else if c = '#' then some { r with phase := .comment }
    else none
  | .escaped => (unescape? c).map fun e => r.push [e]
  | .name collected =>
    if Text.isAlphanumeric c then some { r with phase := .name (c :: collected) }
    else if c = '\x7b' && collected.isEmpty then some { r with phase := .braces [] }
    else
      let r := r.push (lookup collected.reverse)
      some (if c = '$' then { r with phase := .name [] } else r.push [c])
  | .braces collected =>
    if c = '\x7d' then some (r.push (lookup collected.reverse))
    else some { r with phase := .braces (c :: collected) }
  | .text => some (r.readText c)

/-- Read characters from place `index` on: what is kept then, or the place of a fault. -/
def run (lookup : List Char → List Char) : List Char → (index : Nat) → ValueReader →
    Except Nat ValueReader
  | [], _, r => .ok r
  | c :: rest, index, r =>
    match r.step? lookup c with
    | some r => run lookup rest (index + 1) r
    | none => .error index

/-- The value at the end of the text; nothing while a quote or a brace is open. -/
def finish? (lookup : List Char → List Char) (r : ValueReader) : Option (List Char) :=
  match r.quote, r.phase with
  | .none, .braces _ => none
  | .none, .name collected => some (r.push (lookup collected.reverse)).out.reverse
  | .none, _ => some r.out.reverse
  | _, _ => none

end ValueReader

/-- **The value** of a text, where `lookup` gives the values of variables.  What is left open at the
end is a fault at the last byte. -/
def value (lookup : List Char → List Char) (text : List Char) : Except Error (List Char) :=
  match ValueReader.run lookup text 0 {} with
  | .error index => .error (.line (String.ofList text) index)
  | .ok r =>
    match r.finish? lookup with
    | some v => .ok v
    | none => .error (.line (String.ofList text) ((Utf8.encode text).length - 1))

end Provisioning.EnvFile
