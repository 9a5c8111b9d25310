/-
**The commands.**

A workspace is provisioned by a run against the backend of the configuration, under the policy of
the configuration unless the command line is stricter.  The state of a cluster is asked for once.

Main definitions:

* `Program.planned` — the request of a command line, validated;
* `Program.runSettings` — how a run is carried out;
* `Program.provision`, `Program.status` — **the commands**.
-/

import Provisioning.Backend.Client
import Provisioning.CommandLine.Invocation
import Provisioning.Notice.Filter
import Provisioning.Program.Fault
import Provisioning.Program.System
import Provisioning.Report.Outcome

set_option autoImplicit false
set_option relaxedAutoImplicit false

namespace Provisioning.Program

open CommandLine (RequestArguments ProvisionArguments)

variable {m : Type → Type} [Monad m]

/-- Give a notice, if the filter admits it, and say the run if the filter follows runs. -/
def System.note (s : System m) (filter : Notice.Filter) (run : Option RunId) (n : Notice) :
    m Unit := do
  if filter.admits run n then
    s.write (.noted (← s.now) (if filter.follows then run else none) n)

/-- The request of a command line, validated. -/
def planned (a : RequestArguments) : Except Fault Request :=
  match a.toRequest.validate with
  | .ok _ => .ok a.toRequest
  | .error reason => .error (.request reason)

/-- How a run is carried out: as the configuration says, but a command line that asks for it ends
the run at a cluster that does not get ready. -/
def runSettings (c : Config) (a : ProvisionArguments) : Run.Settings where
  policy := if a.failOnTimeout then .fail else c.readinessPolicy
  polling := c.polling

/-- **Provision a workspace.** -/
def provision (s : System m) (filter : Notice.Filter) (c : Config) (a : ProvisionArguments) :
    m (Except Fault Report.Completed) := do
  let request := a.request.toRequest
  match request.validate with
  | .error reason => return .error (.request reason)
  | .ok port =>
    let runId ← s.newRun
    let startedAt ← s.now
    let allotment ← s.allot port request.serviceName
    let partner := (Backend.Client.ofConfig c).partner s.exchange s.sleep
      (s.note filter (some runId))
    match ← (provisioning (runSettings c a) request port allotment).runM partner with
    | .ok workspace => return .ok { runId, workspace, startedAt, finishedAt := ← s.now }
    | .error f => return .error (.provisioning f)

/-- **Ask for the state of a cluster.** -/
def status (s : System m) (filter : Notice.Filter) (c : Config) (cluster : String) :
    m (Except Fault Cluster.Status) := do
  let call := (Backend.Client.ofConfig c).status cluster
  match ← Backend.Planned.perform s.exchange (s.note filter none) call with
  | .ok state => return .ok ⟨cluster, state⟩
  | .error e => return .error (.call e)

end Provisioning.Program
