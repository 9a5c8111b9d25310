/-
**Plans.**

Before a workspace is made, its plan can be shown: the backend, what the request asks for, the three
stages, and how long their clusters are waited for.

Main definition:

* `Report.plan` — the text of a plan.
-/

import Provisioning.Config
import Provisioning.Request
import Provisioning.ServiceName

set_option autoImplicit false
set_option relaxedAutoImplicit false

namespace Provisioning.Report

/-- Texts with a comma and a blank between them. -/
def listed (texts : List String) : String := ", ".intercalate texts

/-- The port of a request as a plan shows it. -/
def portText : Option Int64 → String
  | some p => toString p.toInt
  | none => "-"

/-- The line of the worker: its name is either chosen by the user or still to be generated. -/
def workerLine (r : Request) : String :=
  let name := ServiceName.sanitize r.serviceName
  if name.isEmpty then "  3. worker     (generated name, bound to broker)\n"
  else s!"  3. worker     {name} (bound to broker)\n"

/-- The line about readiness.  A cluster is asked for once more than it is asked again, as far as
this can be counted: behind the greatest number of retries the count begins anew. -/
def readinessLine (c : Config) : String :=
  s!"Readiness: up to {c.maxRetries + 1} checks every {c.pollIntervalMs}ms, " ++
    s!"on timeout: {c.readinessPolicy.title}\n"

/-- The text of a plan. -/
def plan (r : Request) (c : Config) : String :=
  s!"Backend: {c.apiUrl}\n" ++
  s!"Client port: {portText r.clientPort}\n" ++
  s!"Nodes: {listed r.nodes}\n" ++
  (if r.plugins.isEmpty then "" else s!"Plugins: {listed r.plugins}\n") ++
  "\nStages:\n" ++
  "  1. zookeeper  (generated name)\n" ++
  "  2. broker     (generated name, bound to zookeeper)\n" ++
  workerLine r ++
  "\n" ++ readinessLine c ++
  "\nValidation: PASSED\n"

end Provisioning.Report
