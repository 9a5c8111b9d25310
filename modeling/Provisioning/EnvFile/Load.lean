/-
**Loading an environment file.**

The definitions of a file are taken one after the other.  Each gives its variable a value unless the
environment has one, so what was set before wins, and of two definitions in the file the first.  A
substitution sees the environment first and then the latest definition.  A fault ends the loading;
what was set before it stays.

Main definitions:

* `EnvFile.Definition`, `EnvFile.definition` — a definition, and the one of a line;
* `EnvFile.load` — **the environment** after a file was loaded.
-/

import Provisioning.EnvFile.Value
import Provisioning.Environment

set_option autoImplicit false
set_option relaxedAutoImplicit false

namespace Provisioning.EnvFile

/-- A variable and its value. -/
structure Definition where
  name : String
  value : String
  deriving DecidableEq, Repr

/-- Whether a name may begin with the character. -/
def startsName (c : Char) : Bool := c.isAlpha || c == '_'

/-- Whether a name may go on with the character. -/
def continuesName (c : Char) : Bool := c.isAlphanum || c == '_' || c == '.'

/-- A line being read: what is left of it, and how many bytes were read. -/
structure Cursor where
  rest : List Char
  read : Nat
  deriving Repr

namespace Cursor

/-- Read the characters of a class that stand next. -/
def takeWhile (k : Cursor) (isPart : Char → Bool) : List Char × Cursor :=
  let (part, rest) := k.rest.span isPart
  (part, ⟨rest, k.read + (Utf8.encode part).length⟩)

/-- Go over white space. -/
def skipSpace (k : Cursor) : Cursor := (k.takeWhile Text.isSpace).2

/-- Read a name; the place of the fault if none stands here. -/
def name (k : Cursor) : Except Nat (List Char × Cursor) :=
  match k.rest with
  | c :: _ => if startsName c then .ok (k.takeWhile continuesName) else .error k.read
  | [] => .error k.read

/-- Read an equals sign. -/
def equals (k : Cursor) : Except Nat Cursor :=
  match k.rest with
  | '=' :: rest => .ok ⟨rest, k.read + 1⟩
  | _ => .error k.read

/-- Read a name and the equals sign behind it.  The word `export` in front of a name is passed over,
unless it is the name. -/
def head (k : Cursor) : Except Nat (List Char × Cursor) := do
  let (name, k) ← k.name
  let k := k.skipSpace
  match k.equals with
  | .ok k => return (name, k)
  | .error place =>
    if name = "export".toList then
      let (name, k) ← k.name
      let k ← k.skipSpace.equals
      return (name, k)
    else throw place

end Cursor

/-- The definition of a line; nothing for a line without one.  `lookup` gives the values of
variables. -/
def definition (lookup : List Char → List Char) (line : List Char) :
    Except Error (Option Definition) :=
  let k := Cursor.skipSpace ⟨Text.dropFinalSpace line, 0⟩
  if k.rest.isEmpty || k.rest.head? = some '#' then .ok none
  else match k.head with
    | .error place => .error (.line (String.ofList line) place)
    | .ok (name, k) =>
      let text := k.skipSpace.rest
      if text.isEmpty || text.head? = some '#' then .ok (some ⟨String.ofList name, ""⟩)
      else (value lookup text).map fun v => some ⟨String.ofList name, String.ofList v⟩

/-- The value of a variable in a substitution: the environment's, or else the latest of the
definitions, which have the latest one first. -/
def substitute (env : Environment) (definitions : List Definition) (name : List Char) : List Char :=
  let name := String.ofList name
  match env.get? name with
  | some v => v.toList
  | none =>
    match definitions.find? (·.name == name) with
    | some d => d.value.toList
    | none => []

/-- Load lines: the environment afterwards, and the fault that ended the loading, if there is
one. -/
def loadLines (lines : List (List UInt8)) (definitions : List Definition) (env : Environment) :
    Environment × Except Error Unit :=
  match found : nextLine? lines [] .plain with
  | .error e => (env, .error e)
  | .ok none => (env, .ok ())
  | .ok (some (line, rest)) =>
    have := length_lt_of_nextLine? found
    match definition (substitute env definitions) line with
    | .error e => (env, .error e)
    | .ok none => loadLines rest definitions env
    | .ok (some d) => loadLines rest (d :: definitions) (env.provide d.name d.value)
termination_by lines.length

/-- Bytes without the mark of their encoding at the front. -/
def dropEncodingMark : List UInt8 → List UInt8
  | 0xef :: 0xbb :: 0xbf :: rest => rest
  | bytes => bytes

/-- **The environment** after a file was loaded, and the fault that ended the loading, if there is
one. -/
def load (file : Found) (env : Environment) : Environment × Except Error Unit :=
  match file.read with
  | .error message => (env, .error (.io message))
  | .ok bytes => loadLines (physicalLines (dropEncodingMark bytes)) [] env

end Provisioning.EnvFile
