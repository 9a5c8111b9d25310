/-
**The state of a cluster's container.**

The backend reports the state of a container as a word, in any case of its letters; only the words
of a running, a starting and a stopped container are understood.

Main definitions:

* `Cluster.ContainerState`, `Cluster.ContainerState.ofReport` — the states, and the one a word
  stands for;
* `Cluster.Status` — the state reported for a cluster.
-/

set_option autoImplicit false
set_option relaxedAutoImplicit false

namespace Provisioning.Cluster

/-- What is known of a cluster's container. -/
inductive ContainerState where
  | pending
  | running
  | failed
  | unknown
  deriving DecidableEq, Repr, Inhabited

namespace ContainerState

/-- All states. -/
def all : List ContainerState := [.pending, .running, .failed, .unknown]

/-- The name of a state. -/
def name : ContainerState → String
  | .pending => "pending"
  | .running => "running"
  | .failed => "failed"
  | .unknown => "unknown"

/-- The state of a name. -/
def ofName? (s : String) : Option ContainerState := all.find? (·.name == s)

/-- The reported words that are understood, in lower case. -/
def reports : List (String × ContainerState) := [
  ("running", .running),
  ("created", .pending), ("restarting", .pending), ("pending", .pending),
  ("exited", .failed), ("dead", .failed), ("failed", .failed)]

/-- The state that a reported word stands for.  Only the case of the letters of the basic alphabet
is disregarded. -/
def ofReport (word : String) : ContainerState :=
  (reports.lookup (String.ofList (word.toList.map Char.toLower))).getD .unknown

end ContainerState

/-- The state reported for a cluster. -/
structure Status where
  cluster : String
  state : ContainerState
  deriving DecidableEq, Repr, Inhabited

end Provisioning.Cluster
