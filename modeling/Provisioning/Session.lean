/-
**One provisioner and its callers.**

A provisioner carries out one run at a time.  Any number of callers may ask it for runs, also while
a run is suspended at one of its calls, and any of them may lose interest in its run.  A session is
the state of a provisioner between two such moments: the state it has published, whether a run
holds it, and the suspended runs of its callers.  A caller whose request is invalid learns so
first; a caller who comes while a run is held is turned away; nobody ever waits.

A run is held from its start to its end, also while its failure is compensated, and it is let go
when its caller abandons it; the published state then stays as it was.

Main definitions:

* `Failure`, `Answer` — what a caller is answered;
* `Session` — the state of a provisioner;
* `Session.call`, `Session.reply`, `Session.abandon` — **the moments**: a caller asks for a run, the
  call of a suspended run is answered, a caller gives up its run.
-/

import Provisioning.Run

set_option autoImplicit false
set_option relaxedAutoImplicit false

namespace Provisioning

open Run (Settings Workspace)
open Workflow (Remark Suspended)

/-- Why a caller gets no workspace. -/
inductive Failure where
  | invalid (reason : Request.Invalid)
  /-- Another run is in progress. -/
  | busy
  | stage (f : Run.Failure)
  deriving DecidableEq, Repr

namespace Failure

/-- The text of a failure. -/
def message : Failure → String
  | .invalid reason => s!"Invalid request: {reason.message}"
  | .busy => "A provisioning run is already in progress"
  | .stage f => f.message

/-- The stage that failed. -/
def stage? : Failure → Option Cluster.Kind
  | .stage f => some f.stage
  | _ => none

/-- The clusters that were created before the failure. -/
def created : Failure → List Cluster.Descriptor
  | .stage f => f.created
  | _ => []

end Failure

/-- What a caller is answered. -/
abbrev Answer := Except Failure Workspace

/-- Who asked for a run. -/
abbrev CallerId := Nat

/-- How the names and ports of a run are found, from its client port and the wished name. -/
abbrev Allotter := UInt16 → String → Allotment

/-- The workflow of a run, whose result is the caller's answer. -/
def provisioning (settings : Settings) (r : Request) (port : UInt16) (a : Allotment) :
    Workflow Answer := do
  match ← Run.workflow settings r port a with
  | .ok workspace => return .ok workspace
  | .error f => return .error (.stage f)

/-- The state of a provisioner between two moments. -/
structure Session where
  settings : Settings
  state : ProvisioningState := .idle
  /-- Whether a run holds the provisioner. -/
  held : Bool := false
  suspended : List (CallerId × Suspended Answer) := []

namespace Session

/-- What a moment leads to, as far as it can be seen: what is published and noted, and then the
caller's answer or the call that its run waits for. -/
structure Outcome where
  remarks : List Remark := []
  reached : Answer ⊕ Call

/-- The last state that is published among remarks. -/
def lastState (before : ProvisioningState) (remarks : List Remark) : ProvisioningState :=
  remarks.foldl (fun state remark =>
    match remark with
    | .published state => state
    | .noted _ => state) before

/-- Let a caller's run go on as far as its next call.  A run that ends lets the provisioner go. -/
def proceed (s : Session) (id : CallerId) (w : Workflow Answer) : Outcome × Session :=
  let (remarks, reached) := w.advance
  let others := s.suspended.filter (·.1 != id)
  let state := lastState s.state remarks
  match reached with
  | .inl answer => (⟨remarks, .inl answer⟩, { s with state, held := false, suspended := others })
  | .inr waiting =>
    (⟨remarks, .inr waiting.call⟩,
      { s with state, held := true, suspended := (id, waiting) :: others })

/-- **A caller asks for a run.**  The request is validated before anything else; while a run holds
the provisioner, a valid one is turned away. -/
def call (s : Session) (id : CallerId) (r : Request) (allot : Allotter) : Outcome × Session :=
  match r.validate with
  | .error reason => (⟨[], .inl (.error (.invalid reason))⟩, s)
  | .ok port =>
    if s.held then (⟨[], .inl (.error .busy)⟩, s)
    else s.proceed id (provisioning s.settings r port (allot port r.serviceName))

/-- What a caller's run waits for. -/
def waiting? (s : Session) (id : CallerId) : Option (Suspended Answer) := s.suspended.lookup id

/-- **The call of a suspended run is answered.**  Without a suspended run of that caller nothing
happens. -/
def reply (s : Session) (id : CallerId) (answer : (call : Call) → call.Answer) :
    Option Outcome × Session :=
  match s.waiting? id with
  | none => (none, s)
  | some waiting =>
    let (outcome, s) := s.proceed id (waiting.resume (answer waiting.call))
    (some outcome, s)

/-- **A caller gives up its run.**  The provisioner is let go; what was published stays. -/
def abandon (s : Session) (id : CallerId) : Session :=
  match s.waiting? id with
  | none => s
  | some _ => { s with held := false, suspended := s.suspended.filter (·.1 != id) }

/-- An invalid request changes nothing, whoever holds the provisioner. -/
theorem call_of_invalid (s : Session) (id : CallerId) {r : Request} {reason : Request.Invalid}
    (hinvalid : r.validate = .error reason) (allot : Allotter) :
    s.call id r allot = (⟨[], .inl (.error (.invalid reason))⟩, s) := by
  simp [call, hinvalid]

/-- While a run holds the provisioner, a valid request is turned away and changes nothing. -/
theorem call_of_held {s : Session} (hheld : s.held = true) (id : CallerId) {r : Request}
    {port : UInt16} (hvalid : r.validate = .ok port) (allot : Allotter) :
    s.call id r allot = (⟨[], .inl (.error .busy)⟩, s) := by
  simp [call, hvalid, hheld]

end Session

end Provisioning
