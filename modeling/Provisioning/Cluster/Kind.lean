/-
**The kinds of clusters.**

A workspace is made of three clusters: a coordination service, a broker bound to it and a worker
bound to the broker.  They are created in this order.

Main definitions:

* `Cluster.Kind`, `Cluster.Kind.all` — the kinds in their order;
* `Cluster.Kind.name` — the name of a kind, `Cluster.Kind.resource` — its collection at the backend;
* `Cluster.Kind.ofJson` — the kind that a JSON value names.
-/

import Provisioning.Json.Decode

set_option autoImplicit false
set_option relaxedAutoImplicit false

namespace Provisioning.Cluster

/-- The kinds of clusters. -/
inductive Kind where
  | coordinationService
  | broker
  | worker
  deriving DecidableEq, Repr, Inhabited

namespace Kind

/-- The kinds in the order of their creation. -/
def all : List Kind := [.coordinationService, .broker, .worker]

/-- The name of a kind. -/
def name : Kind → String
  | .coordinationService => "coordination-service"
  | .broker => "broker"
  | .worker => "worker"

/-- The name of a kind inside the name of a state. -/
def title : Kind → String
  | .coordinationService => "CoordinationService"
  | .broker => "Broker"
  | .worker => "Worker"

/-- The backend's collection of the clusters of a kind. -/
def resource : Kind → String
  | .coordinationService => "zookeepers"
  | .broker => "brokers"
  | .worker => "workers"

/-- The kind of a name. -/
def ofName? (s : String) : Option Kind := all.find? (·.name == s)

theorem ofName?_name (k : Kind) : ofName? k.name = some k := by cases k <;> decide

/-- The kind of a name, or the fault of an unknown one. -/
def ofName (s : String) : Except Json.Fault Kind :=
  match ofName? s with
  | some k => .ok k
  | none => .error (.unknownVariant s (all.map name))

/-- The kind that a value names: a string, or an object whose only member has that name and is
null. -/
def ofJson : Json.Value → Except Json.Fault Kind
  | .string s => ofName s
  | .object [(s, content)] => do
    let k ← ofName s
    match content with
    | .null => .ok k
    | other => .error ((Json.Raw.ofValue other).mismatch "unit")
  | .object _ => .error (.invalidValue .map "map with a single key")
  | other => .error ((Json.Raw.ofValue other).mismatch "string or map")

end Kind

end Provisioning.Cluster
