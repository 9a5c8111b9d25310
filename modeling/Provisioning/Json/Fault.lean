/-
**Why a JSON text is not what was asked for.**

A text can be no JSON at all, or a value of it can have the wrong type, an unsuitable content, a
member twice, an unknown name or too many items.  The first of these in reading order is reported.
A text that cannot be read has no message of its own; every other fault has.

Main definitions:

* `Json.Found` — what stood where something else was expected;
* `Json.Fault`, `Json.Fault.message?` — the faults and their texts.
-/

import Provisioning.Json.Raw
import Provisioning.Text.Quoted

set_option autoImplicit false
set_option relaxedAutoImplicit false

namespace Provisioning.Json

/-- What stood where something else was expected. -/
inductive Found where
  | null
  | boolean (b : Bool)
  | integer (n : Int)
  | float (x : Binary64)
  | string (s : String)
  | sequence
  | map
  deriving DecidableEq, Repr

/-- The words for what was found. -/
def Found.text : Found → String
  | .null => "null"
  | .boolean b => s!"boolean \x60{b}\x60"
  | .integer n => s!"integer \x60{n}\x60"
  | .float x => s!"floating point \x60{x.text}\x60"
  | .string s => s!"string {Text.quote s}"
  | .sequence => "sequence"
  | .map => "map"

/-- What is found at a tree; nothing where no value can be read. -/
def Raw.found? : Raw → Option Found
  | .broken => none
  | .null => some .null
  | .boolean b => some (.boolean b)
  | .number none => none
  | .number (some (.integer n)) => some (.integer n)
  | .number (some (.float x)) => some (.float x)
  | .string none => none
  | .string (some s) => some (.string s)
  | .array _ _ => some .sequence
  | .object _ _ => some .map

/-- Why a text is not what was asked for. -/
inductive Fault where
  /-- The text is no JSON, or nothing that can be kept. -/
  | malformed
  | invalidType (found : Found) (expected : String)
  | invalidValue (found : Found) (expected : String)
  | duplicateField (name : String)
  | unknownVariant (name : String) (known : List String)
  | invalidLength (length : Nat) (expected : String)
  deriving DecidableEq, Repr

/-- The text of a fault; a malformed text has none. -/
def Fault.message? : Fault → Option String
  | .malformed => none
  | .invalidType found expected => some s!"invalid type: {found.text}, expected {expected}"
  | .invalidValue found expected => some s!"invalid value: {found.text}, expected {expected}"
  | .duplicateField name => some s!"duplicate field \x60{name}\x60"
  | .unknownVariant name known =>
    let names := ", ".intercalate (known.map fun k => s!"\x60{k}\x60")
    some s!"unknown variant \x60{name}\x60, expected one of {names}"
  | .invalidLength length expected => some s!"invalid length {length}, expected {expected}"

end Provisioning.Json
