/-
**Readiness of a cluster.**

After a cluster was created its containers are still starting, so its state is asked for again and
again, with a pause between two questions, until it is running or the questions are used up.

Main definitions:

* `Readiness.Policy` — what to do about a cluster that never gets ready;
* `Readiness.Polling` — the pause and the number of retries;
* `Readiness.Timeout` — that a cluster never got ready;
* `Readiness` — how the wait for a cluster ended.
-/

import Provisioning.Cluster.Container
import Provisioning.Json.Value

set_option autoImplicit false
set_option relaxedAutoImplicit false

namespace Provisioning

namespace Readiness

/-- What to do about a cluster that never reports running. -/
inductive Policy where
  /-- Note it, and go on with the next cluster. -/
  | proceed
  /-- End the run. -/
  | fail
  deriving DecidableEq, Repr, Inhabited

namespace Policy

/-- The name of a policy. -/
def name : Policy → String
  | .proceed => "proceed"
  | .fail => "fail"

/-- The name of a policy in a plan. -/
def title : Policy → String
  | .proceed => "Proceed"
  | .fail => "Fail"

/-- The policy of a name. -/
def ofName? (s : String) : Option Policy := [proceed, fail].find? (·.name == s)

end Policy

/-- How often and how long to ask. -/
structure Polling where
  /-- The pause between two questions, in milliseconds. -/
  interval : UInt64 := 2000
  /-- How many questions may follow the first one. -/
  maxRetries : UInt32 := 5
  deriving DecidableEq, Repr, Inhabited

/-- The questions were used up before the cluster reported running. -/
structure Timeout where
  cluster : String
  attempts : UInt32
  lastState : Cluster.ContainerState
  deriving DecidableEq, Repr

/-- The text of a timeout. -/
def Timeout.message (t : Timeout) : String :=
  s!"cluster {t.cluster} not running after {t.attempts} attempts (last state: {t.lastState.name})"

/-- The members that stand for a timeout. -/
def Timeout.members (t : Timeout) : List (String × Json.Value) := [
  ("cluster_name", .string t.cluster),
  ("attempts", .natural t.attempts.toNat),
  ("last_state", .string t.lastState.name)]

end Readiness

/-- How the wait for a cluster ended. -/
inductive Readiness where
  /-- It reported running at the given question. -/
  | running (attempts : UInt32)
  | timedOut (t : Readiness.Timeout)
  deriving DecidableEq, Repr

/-- The value that stands for the end of a wait. -/
def Readiness.json : Readiness → Json.Value
  | .running attempts => .object [
      ("status", .string "running"),
      ("attempts", .natural attempts.toNat)]
  | .timedOut t => .object (("status", .string "timed-out") :: t.members)

/-- Whether the cluster never reported running. -/
def Readiness.isTimedOut : Readiness → Bool
  | .running _ => false
  | .timedOut _ => true

/-! ### Durations in messages -/

/-- Three decimal places without the zeros at their end, behind a point; nothing if all are
zero. -/
def thousandths (n : Nat) : List Char :=
  let digits := [n / 100 % 10, n / 10 % 10, n % 10].map Nat.digitChar
  match Shortest.dropFinalZeros digits with
  | [] => []
  | places => '.' :: places

/-- A number of milliseconds in the largest unit that it reaches. -/
def millisecondsText (ms : UInt64) : String :=
  let n := ms.toNat
  if n = 0 then "0ns"
  else if n < 1000 then s!"{n}ms"
  else s!"{n / 1000}{String.ofList (thousandths (n % 1000))}s"

end Provisioning
