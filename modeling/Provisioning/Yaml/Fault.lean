/-
**Why a text is not what was asked for.**

A text can be no single YAML document; it has no words of its own then.  Or a node of it does not
fit, and the fault says what was found there, what was expected, and, as a rule, under which key.

Main definitions:

* `Yaml.Misfit` — how a node does not fit;
* `Yaml.Fault`, `Yaml.Fault.message` — the faults and their texts;
* `Yaml.Scalar.misfit`, `Yaml.Event.misfit` — what does not fit at a node.
-/

import Provisioning.Text.Utf8
import Provisioning.Yaml.Event
import Provisioning.Yaml.Meaning

set_option autoImplicit false
set_option relaxedAutoImplicit false

namespace Provisioning.Yaml

/-- How a node does not fit. -/
inductive Misfit where
  | invalidType (found : Found) (expected : String)
  | invalidValue (found : Found) (expected : String)
  | unknownVariant (name : String) (known : List String)
  | duplicateField (name : String)
  deriving DecidableEq, Repr

/-- The words for a misfit. -/
def Misfit.message : Misfit → String
  | .invalidType found expected => s!"invalid type: {found.text}, expected {expected}"
  | .invalidValue found expected => s!"invalid value: {found.text}, expected {expected}"
  | .unknownVariant name known =>
    let names := " or ".intercalate (known.map fun k => s!"\x60{k}\x60")
    s!"unknown variant \x60{name}\x60, expected {names}"
  | .duplicateField name => s!"duplicate field \x60{name}\x60"

/-- Why a text is not what was asked for. -/
inductive Fault where
  /-- The text is not one YAML document. -/
  | malformed
  /-- A node does not fit, perhaps under a key. -/
  | misfit (path : Option String) (m : Misfit)
  deriving DecidableEq, Repr

/-- The text of a fault. -/
def Fault.message : Fault → String
  | .malformed => "<yaml>"
  | .misfit none m => m.message
  | .misfit (some path) m => s!"{path}: {m.message}"

/-- The tag of a kind that the language itself knows. -/
def Tag.standard (kind : String) : Tag := Utf8.encode s!"tag:yaml.org,2002:{kind}".toList

/-- What does not fit at a scalar where something else is expected. -/
def Scalar.misfit (s : Scalar) (expected : String) : Misfit :=
  let found (found : Option Found) (kind : String) : Misfit :=
    match found with
    | some found => .invalidType found expected
    | none => .invalidValue (.string (String.ofList s.text)) kind
  let untagged := if s.style = .plain then meaning s.text else .string (String.ofList s.text)
  match s.tag with
  | none => .invalidType untagged expected
  | some tag =>
    if tag = Tag.standard "bool" then found ((boolean? s.text).map .boolean) "a boolean"
    else if tag = Tag.standard "int" then found ((integer? s.text).map .integer) "an integer"
    else if tag = Tag.standard "float" then found ((Real.ofText? s.text).map .real) "a float"
    else if tag = Tag.standard "null" then
      found (if isNull s.text then some .null else none) "null"
    else if tag.head? = some 0x21 then .invalidType untagged expected
    else .invalidType (.string (String.ofList s.text)) expected

/-- What does not fit at a node where something else is expected. -/
def Event.misfit (e : Event) (expected : String) : Misfit :=
  match e with
  | .scalar s => s.misfit expected
  | .sequenceStart _ => .invalidType .sequence expected
  | _ => .invalidType .map expected

end Provisioning.Yaml
