/-
**Waiting until a cluster runs.**

The state of the cluster is asked for at once and then after each pause, until it is running or all
questions are used up.  A question that fails counts as one more cluster in an unknown state; no
state ends the wait early, and no pause follows the last question.

Main definitions:

* `Poll.ask` — one question;
* `Poll.wait` — **the wait** for a cluster.
-/

import Provisioning.Workflow

set_option autoImplicit false
set_option relaxedAutoImplicit false

namespace Provisioning.Poll

open Readiness (Polling Timeout)
open Cluster (ContainerState)
open Workflow (noting calling)

/-- One question.  If it fails, the state is unknown. -/
def ask (cluster : String) : Workflow ContainerState := do
  match ← calling (.status cluster) with
  | .ok state => return state
  | .error e =>
    noting (.stateUnavailable cluster e)
    return .unknown

/-- The wait after `retries` retries, with `remaining` more of them to come.  The result of a
success is the number of questions. -/
def waitFrom (polling : Polling) (cluster : String) (retries : UInt32) (remaining : Nat) :
    Workflow (Except Timeout UInt32) := do
  let state ← ask cluster
  if state = .running then
    noting (.running cluster (retries + 1))
    return .ok (retries + 1)
  match remaining with
  | 0 => return .error ⟨cluster, retries + 1, state⟩
  | remaining + 1 =>
    noting (.retrying cluster state (retries + 1) polling)
    calling (.sleep polling.interval)
    waitFrom polling cluster (retries + 1) remaining

/-- **The wait** for a cluster. -/
def wait (polling : Polling) (cluster : String) : Workflow (Except Timeout UInt32) :=
  waitFrom polling cluster 0 polling.maxRetries.toNat

end Provisioning.Poll
