/-
**Requests as JSON.**

A request is an object of four members, or an array of them in their order; each may be missing and
then has its default.  A missing port is written as null.

Main definitions:

* `Request.json` — the value that stands for a request;
* `Request.ofText` — **reading** a request.
-/

import Provisioning.Request
import Provisioning.Json.Decode

set_option autoImplicit false
set_option relaxedAutoImplicit false

namespace Provisioning.Request

open Json (Value RecordField Source)

/-- The value of a port. -/
def portJson : Option Int64 → Value
  | none => .null
  | some p => .integer p.toInt

/-- The value that stands for a request. -/
def json (r : Request) : Value :=
  .object [
    ("serviceNamePrefix", .string r.serviceName),
    ("clientPort", portJson r.clientPort),
    ("nodeNames", .strings r.nodes),
    ("plugins", .strings r.plugins)]

/-- The array form of a request: its fields without their names. -/
def jsonArray (r : Request) : Value :=
  .array [.string r.serviceName, portJson r.clientPort, .strings r.nodes, .strings r.plugins]

/-- The fields of a request. -/
def fields : List (RecordField Request) := [
  .of "serviceNamePrefix" Json.text fun name r => { r with serviceName := name },
  .of "clientPort" (Json.optional Json.int64) fun port r => { r with clientPort := port },
  .of "nodeNames" (Json.list Json.text) fun nodes r => { r with nodes := nodes },
  .of "plugins" (Json.list Json.text) fun plugins r => { r with plugins := plugins }]

/-- A request, from a text or from a value. -/
def decoder (source : Source) : Json.Decoder Request :=
  Json.record source "ProvisioningRequest" {} fields

/-- **Reading** a request. -/
def ofText (text : String) : Except Json.Fault Request := Json.decodeText (decoder .text) text

end Provisioning.Request
