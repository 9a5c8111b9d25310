/-
**Provisioning runs.**

A run creates the three clusters of a workspace one after the other, each bound to the one before
under the name that the backend gave it, and waits for each to get ready.  A cluster that was
created is never deleted.  If a create fails, or a cluster does not get ready and the policy is to
fail, the run ends: everything created so far is handed over for compensation and named in the
failure.

Main definitions:

* `Run.Settings` — the policy and the polling;
* `Run.StageReport`, `Run.Workspace` — what a run has made;
* `Run.Failure` — how a run ended before its end;
* `Run.establish` — one stage: create a cluster, and wait for it;
* `Run.workflow` — **the run** of a request.
-/

import Provisioning.Allocation
import Provisioning.Poll

set_option autoImplicit false
set_option relaxedAutoImplicit false

namespace Provisioning.Run

open Cluster (Kind Order Descriptor Role)
open Workflow (entering noting calling)

/-- How runs are carried out. -/
structure Settings where
  policy : Readiness.Policy := .proceed
  polling : Readiness.Polling := {}
  deriving DecidableEq, Repr, Inhabited

/-- A cluster of the workspace, and how the wait for it ended. -/
structure StageReport where
  cluster : Descriptor
  readiness : Readiness
  deriving DecidableEq, Repr

/-- The value that stands for a stage. -/
def StageReport.json (s : StageReport) : Json.Value :=
  .object [("cluster", s.cluster.json), ("readiness", s.readiness.json)]

/-- A finished workspace: the names of its clusters, and the stages in their order. -/
structure Workspace where
  coordinationService : String
  broker : String
  worker : String
  stages : List StageReport
  deriving DecidableEq, Repr

/-- The kinds of the clusters that never reported running. -/
def Workspace.timedOut (w : Workspace) : List Kind :=
  (w.stages.filter (·.readiness.isTimedOut)).map (·.cluster.kind)

/-- Why a stage failed. -/
inductive Cause where
  | create (e : Backend.CallError)
  | readiness (t : Readiness.Timeout)
  deriving DecidableEq, Repr

/-- The text of a cause. -/
def Cause.message : Cause → String
  | .create e => s!"create request failed: {e.message}"
  | .readiness t => s!"readiness check failed: {t.message}"

/-- How a run ended before its end. -/
structure Failure where
  stage : Kind
  cause : Cause
  /-- The clusters created before the failure; they are left running. -/
  created : List Descriptor
  deriving DecidableEq, Repr

/-- The text of a failure. -/
def Failure.message (f : Failure) : String :=
  s!"{f.stage.name} stage failed: {f.cause.message}"

/-! ### Stages -/

/-- End a run: say why, publish the failure and hand over what was created. -/
def abort (stage : Kind) (cause : Cause) (created : List Descriptor) : Workflow Failure := do
  noting (.aborted stage cause.message)
  entering (.failed stage)
  calling (.compensate stage created)
  return { stage, cause, created }

/-- Steps that may end the run. -/
abbrev Steps := ExceptT Failure Workflow

/-- One stage: create the ordered cluster, and wait for it.  `earlier` holds the stages before. -/
def establish (settings : Settings) (earlier : List StageReport) (order : Order) :
    Steps StageReport := do
  let created := earlier.map (·.cluster)
  entering (.creating order.kind)
  match ← calling (.create order) with
  | .error e => throw (← abort order.kind (.create e) created)
  | .ok name =>
    let cluster := order.descriptor name
    entering (.awaiting cluster.kind)
    match ← Poll.wait settings.polling cluster.name with
    | .ok attempts => return { cluster, readiness := .running attempts }
    | .error timeout =>
      match settings.policy with
      | .fail => throw (← abort cluster.kind (.readiness timeout) (created ++ [cluster]))
      | .proceed =>
        noting (.continuing cluster.kind timeout)
        return { cluster, readiness := .timedOut timeout }

/-! ### The orders of a run -/

/-- The order for the coordination service. -/
def coordinationServiceOrder (r : Request) (port : UInt16) (a : Allotment) : Order where
  name := a.coordinationServiceName
  clientPort := port
  nodes := r.nodes
  role := .coordinationService a.peerPort a.electionPort

/-- The order for a broker that is bound to a coordination service. -/
def brokerOrder (r : Request) (port : UInt16) (a : Allotment) (coordinationService : String) :
    Order where
  name := a.brokerName
  clientPort := port
  nodes := r.nodes
  role := .broker coordinationService a.exporterPort a.brokerJmxPort

/-- The order for a worker that is bound to a broker. -/
def workerOrder (r : Request) (port : UInt16) (a : Allotment) (broker : String) : Order where
  name := a.workerName
  clientPort := port
  nodes := r.nodes
  role := .worker broker a.workerJmxPort r.plugins

/-! ### The run -/

/-- The three stages. -/
def stages (settings : Settings) (r : Request) (port : UInt16) (a : Allotment) :
    Steps Workspace := do
  noting (.started r.nodes.length port)
  let coordination ← establish settings [] (coordinationServiceOrder r port a)
  let broker ← establish settings [coordination]
    (brokerOrder r port a coordination.cluster.name)
  let worker ← establish settings [coordination, broker] (workerOrder r port a broker.cluster.name)
  entering .complete
  noting (.ready coordination.cluster.name broker.cluster.name worker.cluster.name)
  return {
    coordinationService := coordination.cluster.name
    broker := broker.cluster.name
    worker := worker.cluster.name
    stages := [coordination, broker, worker] }

/-- **The run** of a request with a valid client port. -/
def workflow (settings : Settings) (r : Request) (port : UInt16) (a : Allotment) :
    Workflow (Except Failure Workspace) := (stages settings r port a).run

end Provisioning.Run
