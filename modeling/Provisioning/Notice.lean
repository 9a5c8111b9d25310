/-
**Notices.**

While it works the program says what it does.  A notice is an event of the domain; its severity, the
part of the program it comes from, and its words are functions of it, so that what is done never
depends on what is said.

Main definitions:

* `Severity` — how important a notice is;
* `Notice`, `Notice.severity`, `Notice.origin`, `Notice.text` — **the notices**;
* `runScope`, `runField` — the stretch of work that a run is, and under which name it has its
  identifier.
-/

import Provisioning.Backend.CallError
import Provisioning.Cluster.Order
import Provisioning.Readiness
import Provisioning.Text.Controls

set_option autoImplicit false
set_option relaxedAutoImplicit false

namespace Provisioning

open Cluster (Kind Descriptor ContainerState)

/-- How important a notice is. -/
inductive Severity where
  | error
  | warn
  | info
  | debug
  | trace
  deriving DecidableEq, Repr, Inhabited

namespace Severity

/-- The severities from the most important one on. -/
def all : List Severity := [.error, .warn, .info, .debug, .trace]

/-- The name of a severity. -/
def name : Severity → String
  | .error => "ERROR"
  | .warn => "WARN"
  | .info => "INFO"
  | .debug => "DEBUG"
  | .trace => "TRACE"

/-- The place of a severity, counted from one for the most important. -/
def rank : Severity → Nat
  | .error => 1
  | .warn => 2
  | .info => 3
  | .debug => 4
  | .trace => 5

end Severity

/-- The state of a provisioner, as it is published. -/
inductive ProvisioningState where
  | idle
  | creating (kind : Kind)
  | awaiting (kind : Kind)
  | complete
  | failed (stage : Kind)
  deriving DecidableEq, Repr, Inhabited

namespace ProvisioningState

/-- Whether a run has ended in this state. -/
def isTerminal : ProvisioningState → Bool
  | .complete | .failed _ => true
  | _ => false

/-- The name of a state, apart from the stage of a failure. -/
def name : ProvisioningState → String
  | .idle => "idle"
  | .creating kind => s!"creating-{kind.name}"
  | .awaiting kind => s!"awaiting-{kind.name}"
  | .complete => "complete"
  | .failed _ => "failed"

/-- The name of a state in a notice. -/
def title : ProvisioningState → String
  | .idle => "Idle"
  | .creating kind => s!"Creating{kind.title}"
  | .awaiting kind => s!"Awaiting{kind.title}"
  | .complete => "Complete"
  | .failed stage => s!"Failed({stage.title})"

/-- The value that stands for a state. -/
def json : ProvisioningState → Json.Value
  | .failed stage => .object [("state", .string "failed"), ("stage", .string stage.name)]
  | s => .object [("state", .string s.name)]

end ProvisioningState

/-- The part of the program that a notice comes from. -/
inductive Origin where
  | program
  | client
  | poller
  | orchestrator
  deriving DecidableEq, Repr

/-- The path by which a filter of notices names a part of the program. -/
def Origin.path : Origin → String
  | .program => "workspace_provisioner"
  | .client => "workspace_provisioner::client::service"
  | .poller => "workspace_provisioner::provision::poller"
  | .orchestrator => "workspace_provisioner::provision::orchestrator"

/-- The stretch of work that a run is. -/
def runScope : String := "provision"

/-- The name under which a run has its identifier. -/
def runField : String := "run_id"

/-- **The notices** of the program. -/
inductive Notice where
  | provisioningAgainst (url : String)
  | configRefused (reason : String)
  | started (nodes : Nat) (clientPort : UInt16)
  | stateChanged (state : ProvisioningState)
  | callingCreate (kind : Kind) (url : String)
  | failureReported (endpoint message : String)
  | renamed (kind : Kind) (requested name : String)
  | stateUnavailable (cluster : String) (e : Backend.CallError)
  | running (cluster : String) (attempts : UInt32)
  | retrying (cluster : String) (state : ContainerState) (retries : UInt32)
      (polling : Readiness.Polling)
  | continuing (kind : Kind) (t : Readiness.Timeout)
  | aborted (stage : Kind) (reason : String)
  | leftRunning (stage : Kind) (created : List Descriptor)
  | ready (coordinationService broker worker : String)
  deriving Repr

namespace Notice

/-- How important a notice is. -/
def severity : Notice → Severity
  | .configRefused _ | .aborted _ _ => .error
  | .failureReported _ _ | .renamed _ _ _ | .stateUnavailable _ _ | .continuing _ _
  | .leftRunning _ _ => .warn
  | .provisioningAgainst _ | .started _ _ | .stateChanged _ | .ready _ _ _ => .info
  | .callingCreate _ _ | .running _ _ | .retrying _ _ _ _ => .debug

/-- The part of the program that a notice comes from. -/
def origin : Notice → Origin
  | .provisioningAgainst _ | .configRefused _ => .program
  | .callingCreate _ _ | .failureReported _ _ | .renamed _ _ _ => .client
  | .stateUnavailable _ _ | .running _ _ | .retrying _ _ _ _ => .poller
  | .started _ _ | .stateChanged _ | .continuing _ _ | .aborted _ _ | .leftRunning _ _
  | .ready _ _ _ => .orchestrator

/-- The words of a notice. -/
def message : Notice → String
  | .provisioningAgainst url => s!"Provisioning against {url}"
  | .configRefused reason => reason
  | .started nodes clientPort =>
    s!"Provisioning workspace on {nodes} node(s), client port {clientPort}"
  | .stateChanged _ => "Provisioning state changed"
  | .callingCreate kind url => s!"Creating {kind.name} cluster via POST {url}"
  | .failureReported _ message => s!"Backend reported failure: {message}"
  | .renamed kind requested name =>
    s!"Backend renamed {kind.name} cluster {requested} to {name}"
  | .stateUnavailable cluster e => s!"Container status for {cluster} unavailable: {e.message}"
  | .running cluster attempts => s!"Cluster {cluster} running after {attempts} attempt(s)"
  | .retrying cluster state retries polling =>
    s!"Cluster {cluster} is {state.name}, retry {retries}/{polling.maxRetries} in " ++
      millisecondsText polling.interval
  | .continuing kind t =>
    s!"{kind.name} cluster not confirmed running, continuing: {t.message}"
  | .aborted stage reason => s!"Provisioning aborted at {stage.name} stage: {reason}"
  | .leftRunning stage created =>
    let names := ", ".intercalate (created.map (·.name))
    s!"{stage.name} stage failed; leaving {created.length} created cluster(s) running: {names}"
  | .ready coordinationService broker worker =>
    s!"Workspace ready: zookeeper={coordinationService}, broker={broker}, worker={worker}"

/-- What a notice names apart, under its name. -/
def details : Notice → List (String × String)
  | .stateChanged state => [("state", state.title)]
  | .failureReported endpoint _ => [("endpoint", endpoint)]
  | _ => []

/-- The names under which a notice can be asked for. -/
def fieldNames (n : Notice) : List String := "message" :: n.details.map (·.1)

/-- The text of a notice: its words, with what a terminal would obey written out, and behind them
what it names apart. -/
def text (n : Notice) : String :=
  String.join (Text.withoutControls n.message :: n.details.map fun (name, value) =>
    s!" {name}={value}")

end Notice

end Provisioning
