/-
**Compensation.**

When a run fails, whoever takes care of its clusters is told what it has created.  Unless somebody
else is asked to, the clusters are left in place and this is noted.

Main definition:

* `Compensation.leaveRunning` — the notices of leaving the clusters in place.
-/

import Provisioning.Notice

set_option autoImplicit false
set_option relaxedAutoImplicit false

namespace Provisioning.Compensation

/-- The notices of leaving the created clusters in place; there is nothing to say where there is
nothing to leave. -/
def leaveRunning (stage : Cluster.Kind) (created : List Cluster.Descriptor) : List Notice :=
  if created.isEmpty then [] else [.leftRunning stage created]

end Provisioning.Compensation
