/-
**The backend's answers.**

Every answer of the backend is an envelope: whether it did what it was asked for, and a result.  The
result of a success depends on the call; the result of a failure explains it, in whatever form.

Main definitions:

* `Backend.Envelope`, `Backend.Envelope.payload` — **the envelope**, and what it holds;
* `Backend.explanation` — the text of a failure's result;
* `Backend.createdName`, `Backend.Group` — the results of the calls;
* `Backend.firstState` — the state of a cluster.
-/

import Provisioning.Cluster.Container
import Provisioning.Json.Decode
import Provisioning.Json.Writer

set_option autoImplicit false
set_option relaxedAutoImplicit false

namespace Provisioning.Backend

open Json (Value Decoder RecordField Source)

/-! ### Envelopes -/

/-- An answer of the backend. -/
structure Envelope where
  success : Bool := false
  result : Value := .null
  deriving Repr, Inhabited

/-- An envelope; its result is any value. -/
def Envelope.decoder : Decoder Envelope :=
  Json.record .text "ApiEnvelope" {} [
    .of "isSuccess" Json.boolean fun success e => { e with success },
    .of "result" (Json.anyValue 1) fun result e => { e with result }]

/-- The envelope of a text. -/
def Envelope.ofText (text : String) : Except Json.Fault Envelope :=
  Json.decodeText Envelope.decoder text

/-- The text of a failure's result: a string stands for itself, an object for its message if it has
one, and any other value for its JSON text. -/
def explanation : Value → String
  | .string s => s
  | .null => "request was not successful"
  | v =>
    match (v.member? "message").bind Value.string? with
    | some message => message
    | none => v.compact

/-- What an envelope holds: the result of a success, or the explanation of a failure. -/
def Envelope.payload (e : Envelope) : Except String Value :=
  if e.success then .ok e.result else .error (explanation e.result)

/-! ### The result of a create call -/

/-- The result of a create call: the name that the backend gives the cluster, if it says so. -/
def createdName (source : Source) : Decoder (Option String) :=
  Json.record source "CreatedCluster" none [
    .of "name" (Json.optional Json.text) fun name _ => name]

/-! ### The result of a status call -/

/-- The reported state of a container, if there is one. -/
def containerState (source : Source) : Decoder (Option String) :=
  Json.record source "ContainerInfo" none [
    .of "state" (Json.optional Json.text) fun state _ => state]

/-- A group of containers, as their reported states. -/
structure Group where
  containers : List (Option String) := []
  deriving DecidableEq, Repr, Inhabited

/-- A group of containers. -/
def Group.decoder (source : Source) : Decoder Group :=
  Json.record source "ContainerGroup" {} [
    .of "containers" (Json.list (containerState source)) fun containers _ => { containers }]

/-- The groups of containers of a cluster. -/
def groups (source : Source) : Decoder (List Group) := Json.list (Group.decoder source)

/-- The state of a cluster is that of the first container of its first group; without one, or
without a report of its state, it is unknown. -/
def firstState (groups : List Group) : Cluster.ContainerState :=
  match (groups.head?.bind (·.containers.head?)).bind id with
  | some report => .ofReport report
  | none => .unknown

end Provisioning.Backend
