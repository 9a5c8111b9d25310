/-
**Reports of what was done.**

A finished run is reported as a table of its stages or as JSON, a failed one as an error with the
clusters it leaves running, and the state of a cluster as a table of one row.  Names are put into
these tables as they are, so there is no table if one of them is longer than a column can be wide.

Main definitions:

* `Report.Completed` — a finished run with its identifier and its times;
* `Report.Completed.checkedText`, `Report.Completed.json` — **its reports**, the one with a table
  if there is such a table;
* `Report.checkedStatus` — the report of a cluster's state, likewise;
* `Report.failure` — the report of a failed run;
* `Report.Completed.text`, `Report.status` — the reports that tables are in, with no look at how
  wide these are.
-/

import Provisioning.Instant
import Provisioning.Report.Table
import Provisioning.RunId
import Provisioning.Session

set_option autoImplicit false
set_option relaxedAutoImplicit false

namespace Provisioning.Report

open Run (StageReport Workspace)

/-- A finished run with its identifier and its times. -/
structure Completed where
  runId : RunId
  workspace : Workspace
  startedAt : Instant
  finishedAt : Instant
  deriving Repr

/-- How the wait for a cluster ended. -/
def readinessText : Readiness → String
  | .running attempts => s!"running ({attempts} checks)"
  | .timedOut t => s!"NOT READY (last: {t.lastState.name})"

/-- The row of a stage. -/
def stageRow (s : StageReport) : List String :=
  [s.cluster.kind.name, s.cluster.name, s.cluster.boundTo.getD "-", readinessText s.readiness]

/-- The table of the stages. -/
def stageTable (stages : List StageReport) : Table :=
  ⟨["STAGE", "NAME", "BOUND TO", "READINESS"], stages.map stageRow⟩

/-- The report of a finished run, around the table of its stages. -/
def Completed.around (c : Completed) (table : String) : String :=
  let late := c.workspace.timedOut.length
  s!"Workspace provisioned (run {c.runId.text})\n\n" ++ table ++
  (if late = 0 then "" else s!"\nWarning: {late} cluster(s) never reported running\n")

/-- The report of a finished run, whose stages make a table. -/
def Completed.text (c : Completed) : String := c.around (stageTable c.workspace.stages).text

/-- **The report of a finished run**, or why its stages make no table. -/
def Completed.checkedText (c : Completed) : Except Table.Fault String :=
  (stageTable c.workspace.stages).checkedText.map c.around

/-- The value that stands for a finished run. -/
def Completed.json (c : Completed) : Json.Value :=
  .object [
    ("run_id", .string c.runId.text),
    ("coordination_service_name", .string c.workspace.coordinationService),
    ("broker_name", .string c.workspace.broker),
    ("worker_name", .string c.workspace.worker),
    ("stages", .array (c.workspace.stages.map (·.json))),
    ("started_at", .string c.startedAt.text),
    ("finished_at", .string c.finishedAt.text)]

/-- The line of a cluster that is left running. -/
def leftLine (d : Cluster.Descriptor) : String := s!"  - {d.name} ({d.kind.name})\n"

/-- The report of a failed run, with the clusters it leaves running. -/
def failure (f : Failure) : String :=
  let left := f.created
  s!"Error: {f.message}\n" ++
  (if left.isEmpty then ""
   else "\nClusters left running:\n" ++ String.join (left.map leftLine))

/-- The table of a cluster's state. -/
def statusTable (s : Cluster.Status) : Table := ⟨["CLUSTER", "STATE"], [[s.cluster, s.state.name]]⟩

/-- The report of a cluster's state, whose name makes a table. -/
def status (s : Cluster.Status) : String := (statusTable s).text

/-- **The report of a cluster's state**, or why its name makes no table. -/
def checkedStatus (s : Cluster.Status) : Except Table.Fault String := (statusTable s).checkedText

end Provisioning.Report
