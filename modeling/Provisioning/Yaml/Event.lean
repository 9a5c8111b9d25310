/-
**The nodes of a document in reading order.**

A document is a tree of scalars, sequences and mappings.  It is kept as the row of its scalars and
of the beginnings and ends of its collections, because a text can be faulty behind the point where
it has said enough.  A node that has an anchor can be named again later; such names are kept as the
number that stood for the anchor at that moment.

Main definitions:

* `Yaml.Tag`, `Yaml.Scalar` — a scalar with the tag it has;
* `Yaml.Event` — what happens on the way through a document;
* `Yaml.Document` — **a document** and the nodes that can be named again.
-/

import Provisioning.Yaml.Token

set_option autoImplicit false
set_option relaxedAutoImplicit false

namespace Provisioning.Yaml

/-- A tag in full, in bytes. -/
abbrev Tag := List UInt8

/-- A scalar. -/
structure Scalar where
  style : Style
  tag : Option Tag
  text : List Char
  deriving DecidableEq, Repr

/-- The scalar that stands where nothing is written. -/
def Scalar.empty : Scalar := ⟨.plain, none, []⟩

/-- What happens on the way through a document. -/
inductive Event where
  /-- The node with an anchor of this number. -/
  | alias (number : Nat)
  | scalar (s : Scalar)
  | sequenceStart (tag : Option Tag)
  | sequenceEnd
  | mappingStart (tag : Option Tag)
  | mappingEnd
  deriving DecidableEq, Repr

/-- Whether an event stands for a node that is written elsewhere. -/
def Event.isAlias : Event → Bool
  | .alias _ => true
  | _ => false

/-- **A document**, as far as it can be read. -/
structure Document where
  events : List Event
  /-- The beginning of the node behind each number; the first entry of a number counts. -/
  nodes : List (Nat × Event)
  /-- Whether the text holds this document and nothing else. -/
  isWhole : Bool
  deriving DecidableEq, Repr

/-- The beginning of the node that an event stands for. -/
def Document.node (d : Document) : Event → Event
  | .alias number => (d.nodes.lookup number).getD (.alias number)
  | e => e

end Provisioning.Yaml
