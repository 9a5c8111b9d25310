/-
**Reading a configuration.**

A configuration is a mapping in a YAML document.  Each key that is the name of a setting gives it a
value, once; other keys are passed over with all that is under them.  What does not fit is reported
where reading meets it, before a fault of the text behind that place.  A document with nothing in
it, or none at all, leaves every setting at its default.

Main definitions:

* `Config.Reading`, `Config.Reading.set` — giving a setting the value of a node;
* `Config.ofDocument` — the configuration of a document;
* `Config.ofYaml` — **the configuration** of a text, checked.
-/

import Provisioning.Config
import Provisioning.Yaml.Event.Grammar

set_option autoImplicit false
set_option relaxedAutoImplicit false

namespace Provisioning.Config

open Yaml (Document Event Fault Misfit Scalar)

/-! ### Values -/

/-- A natural number below a limit: any plain scalar, or a literal one with the tag for integers. -/
def count (limit : Nat) (expected : String) (e : Event) : Except Misfit Nat :=
  match e with
  | .scalar s =>
    let readable := s.style = .plain ||
      (s.style = .literal && s.tag = some (Yaml.Tag.standard "int"))
    match if readable then Yaml.unsigned? s.text else none with
    | some n =>
      if n < limit then .ok n
      else if n < UInt64.size then .error (.invalidValue (.integer n) expected)
      else .error (e.misfit expected)
    | none => .error (e.misfit expected)
  | _ => .error (e.misfit expected)

/-- A text: the characters of any scalar. -/
def text (e : Event) : Except Misfit String :=
  match e with
  | .scalar s => .ok (String.ofList s.text)
  | _ => .error (e.misfit "a string")

/-- The policy with a name. -/
def policy? (name : String) : Option Readiness.Policy :=
  if name = "proceed" then some .proceed else if name = "fail" then some .fail else none

/-- A name that no policy has. -/
def unknownPolicy (name : String) : Misfit := .unknownVariant name ["proceed", "fail"]

/-- The name that a tag of one's own gives. -/
def tagName? (tag : Option Yaml.Tag) : Option String :=
  match tag with
  | some (0x21 :: rest) => (Utf8.decode? (if rest.isEmpty then [0x21] else rest)).map String.ofList
  | _ => none

/-- A policy: a scalar with its name, or its name as the tag of nothing.  An unknown name that is a
tag is reported under the key only where the node is written elsewhere. -/
def policy (path : String) (elsewhere : Bool) (e : Event) : Except Fault Readiness.Policy :=
  let tagged (name : String) (other : Option Misfit) : Except Fault Readiness.Policy :=
    match policy? name, other with
    | none, _ => .error (.misfit (if elsewhere then some path else none) (unknownPolicy name))
    | some p, none => .ok p
    | some _, some m => .error (.misfit (some path) m)
  let collection (tag : Option Yaml.Tag) : Except Fault Readiness.Policy :=
    match tagName? tag with
    | some name => tagged name (some (e.misfit "unit"))
    | none => .error (.misfit (some path) (e.misfit "a YAML tag starting with '!'"))
  match e with
  | .scalar s =>
    match tagName? s.tag with
    | some name =>
      tagged name
        (if s.style = .plain && (s.text.isEmpty || Yaml.isNull s.text) then none
        else some (.invalidValue (.string (String.ofList s.text)) "null"))
    | none =>
      let name := String.ofList s.text
      match policy? name with
      | some p => .ok p
      | none => .error (.misfit (some path) (unknownPolicy name))
  | .sequenceStart tag => collection tag
  | .mappingStart tag => collection tag
  | _ => .error .malformed

/-! ### Settings -/

/-- What was read of a configuration: the settings so far, and which of them were given. -/
structure Reading where
  config : Config := {}
  given : List Setting := []
  deriving DecidableEq, Repr

/-- Give a setting the value of a node under a key; the node may be written elsewhere. -/
def Reading.set (r : Reading) (s : Setting) (path : String) (elsewhere : Bool) (e : Event) :
    Except Fault Reading := do
  let fit {α : Type} (x : Except Misfit α) : Except Fault α :=
    match x with
    | .ok a => .ok a
    | .error m => .error (.misfit (some path) m)
  let c := r.config
  let config ←
    match s with
    | .apiUrl => (fit (text e)).map fun url => { c with apiUrl := url }
    | .requestTimeout =>
      (fit (count UInt64.size "u64" e)).map fun n => { c with requestTimeoutSecs := n.toUInt64 }
    | .coordinationTimeout =>
      (fit (count UInt64.size "u64" e)).map fun n =>
        { c with coordinationTimeoutSecs := n.toUInt64 }
    | .pollInterval =>
      (fit (count UInt64.size "u64" e)).map fun n => { c with pollIntervalMs := n.toUInt64 }
    | .maxRetries =>
      (fit (count UInt32.size "u32" e)).map fun n => { c with maxRetries := n.toUInt32 }
    | .readinessPolicy => (policy path elsewhere e).map fun p => { c with readinessPolicy := p }
  return ⟨config, s :: r.given⟩

/-- What the next event is. -/
inductive Phase where
  | key
  /-- The value of a setting, under a key. -/
  | value (s : Setting) (path : String)
  /-- A part of a value that is passed over, inside `depth` collections. -/
  | passing (depth : Nat)
  deriving DecidableEq, Repr

/-- How deep inside collections reading is behind an event. -/
def depthBehind (depth : Nat) : Event → Nat
  | .sequenceStart _ | .mappingStart _ => depth + 1
  | .sequenceEnd | .mappingEnd => depth - 1
  | .scalar _ | .alias _ => depth

/-- Read the entries of a mapping up to its end. -/
def Reading.read (d : Document) (r : Reading) (phase : Phase) : List Event → Except Fault Config
  | [] => .error .malformed
  | e :: rest =>
    match phase with
    | .passing depth =>
      let behind := depthBehind depth e
      read d r (if behind = 0 then .key else .passing behind) rest
    | .value s path =>
      match r.set s path e.isAlias (d.node e) with
      | .ok r => read d r .key rest
      | .error fault => .error fault
    | .key =>
      match e, d.node e with
      | .mappingEnd, _ => .ok r.config
      | _, .scalar key =>
        let name := String.ofList key.text
        match Setting.ofName? name with
        | none => read d r (.passing 0) rest
        | some s =>
          if r.given.contains s then .error (.misfit none (.duplicateField name))
          else
            read d r (.value s (if e.isAlias then "?" else name)) rest
      | _, node => .error (.misfit none (node.misfit "field identifier"))

/-! ### Configurations -/

/-- What a document has to be. -/
def expectedDocument : String := "struct ProvisionerConfig"

/-- The configuration of a document. -/
def ofDocument (d : Document) : Except Fault Config := do
  let c ←
    match d.events with
    | [] => .error .malformed
    | .mappingStart _ :: rest => Reading.read d {} .key rest
    | e :: _ =>
      match e with
      | .scalar ⟨.plain, _, []⟩ => .ok {}
      | _ => .error (.misfit none (e.misfit expectedDocument))
  if d.isWhole then return c else throw .malformed

/-- **The configuration** of a text, checked. -/
def ofYaml (source : String) : Except Error Config :=
  match Document.ofText? source.toList with
  | none => checked {}
  | some d =>
    match ofDocument d with
    | .ok c => checked c
    | .error fault => .error (.parse fault)

end Provisioning.Config
