/-
**Orders for clusters, and the clusters they make.**

An order is what the backend is asked to create: a name, the client port, the nodes as the request
lists them, and what only clusters of its kind have, with the cluster that it is bound to.  A
descriptor is what is known of the cluster once it was created; its name is the one under which the
backend runs it, which need not be the one that was ordered.

Main definitions:

* `Cluster.Order`, `Cluster.Order.kind`, `Cluster.Order.boundTo?`, `Cluster.Order.auxiliaryPorts`;
* `Cluster.Order.json` — the body of the create call;
* `Cluster.Descriptor`, `Cluster.Order.descriptor` — **the cluster** an order makes.
-/

import Provisioning.Cluster.Kind
import Provisioning.Cluster.NameSet

set_option autoImplicit false
set_option relaxedAutoImplicit false

namespace Provisioning.Cluster

open Json (Value)

/-- What only the clusters of one kind have. -/
inductive Role where
  | coordinationService (peerPort electionPort : UInt16)
  | broker (coordinationService : String) (exporterPort jmxPort : UInt16)
  | worker (broker : String) (jmxPort : UInt16) (plugins : List String)
  deriving DecidableEq, Repr

/-- An order for a cluster. -/
structure Order where
  name : String
  clientPort : UInt16
  nodes : List String
  role : Role
  deriving DecidableEq, Repr

namespace Order

/-- The kind of cluster that is ordered. -/
def kind (o : Order) : Kind :=
  match o.role with
  | .coordinationService .. => .coordinationService
  | .broker .. => .broker
  | .worker .. => .worker

/-- The cluster that the ordered one is bound to. -/
def boundTo? (o : Order) : Option String :=
  match o.role with
  | .coordinationService .. => none
  | .broker coordinationService _ _ => some coordinationService
  | .worker broker _ _ => some broker

/-- The ports besides the client port. -/
def auxiliaryPorts (o : Order) : List UInt16 :=
  match o.role with
  | .coordinationService peerPort electionPort => [peerPort, electionPort]
  | .broker _ exporterPort jmxPort => [exporterPort, jmxPort]
  | .worker _ jmxPort _ => [jmxPort]

/-- The plugins that are installed. -/
def plugins (o : Order) : List String :=
  match o.role with
  | .worker _ _ plugins => plugins
  | _ => []

/-- The value of a port. -/
def port (p : UInt16) : Value := .natural p.toNat

/-- The body of the create call. -/
def json (o : Order) : Value :=
  match o.role with
  | .coordinationService peerPort electionPort =>
    .object [
      ("name", .string o.name),
      ("clientPort", port o.clientPort),
      ("peerPort", port peerPort),
      ("electionPort", port electionPort),
      ("nodeNames", .strings o.nodes)]
  | .broker coordinationService exporterPort jmxPort =>
    .object [
      ("name", .string o.name),
      ("zookeeperClusterName", .string coordinationService),
      ("clientPort", port o.clientPort),
      ("exporterPort", port exporterPort),
      ("jmxPort", port jmxPort),
      ("nodeNames", .strings o.nodes)]
  | .worker broker jmxPort plugins =>
    .object [
      ("name", .string o.name),
      ("brokerClusterName", .string broker),
      ("clientPort", port o.clientPort),
      ("jmxPort", port jmxPort),
      ("plugins", .strings plugins),
      ("nodeNames", .strings o.nodes)]

end Order

/-- A cluster that was created. -/
structure Descriptor where
  name : String
  kind : Kind
  clientPort : UInt16
  /-- The cluster it is bound to; none for a coordination service. -/
  boundTo : Option String
  /-- The nodes, ascending. -/
  nodes : List String
  deriving DecidableEq, Repr

/-- The value that stands for a cluster; the cluster it is bound to is left out where there is
none. -/
def Descriptor.json (d : Descriptor) : Value :=
  let bound := match d.boundTo with
    | none => []
    | some name => [("bound_cluster_name", Value.string name)]
  .object ([
      ("name", .string d.name),
      ("kind", .string d.kind.name),
      ("client_port", .natural d.clientPort.toNat)]
    ++ bound ++ [("node_names", .strings d.nodes)])

/-- **The cluster** that an order makes, under the name the backend gives it. -/
def Order.descriptor (o : Order) (name : String) : Descriptor where
  name := name
  kind := o.kind
  clientPort := o.clientPort
  boundTo := o.boundTo?
  nodes := NameSet.ofList o.nodes

end Provisioning.Cluster
