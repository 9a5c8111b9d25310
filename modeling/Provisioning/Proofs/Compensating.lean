/-
**The last thing that a failed run does.**

Whoever takes care of the clusters of a failed run may do what it likes: delete them, write them
down, ask the backend, or come back to the provisioner with another request.  The run has to be the
same in all these cases.  That the compensation answers nothing is not enough for it, since a run
could still go on behind it, and whatever it did there would come after the effects of somebody
else.

In a workflow that `HandsOver`, nothing comes behind a compensation but the failure that was handed
over, and no failure is left without one.  Carried out in any monad, such a workflow is one without
compensation, and then the compensation of its failure, whoever does it.

Main definitions:

* `Workflow.HandsOver` — **the failure is handed over last**;
* `Workflow.uncompensated` — a workflow without its compensations;
* `Workflow.Partner.withHook` — a partner with somebody else to compensate.

Main results:

* `Workflow.HandsOver.bind`, `Run.handsOver_steps_bind` — one workflow after another;
* `handsOver_provisioning` — runs hand over their failures last;
* `Workflow.HandsOver.runM_withHook` — **the compensation does not change the run**.
-/

import Provisioning.Backend.Client
import Provisioning.Proofs.Course

set_option relaxedAutoImplicit false
set_option autoImplicit false

namespace Provisioning

open Cluster (Kind Order Descriptor)

namespace Workflow

variable {α β : Type}

/-! ### Workflows that hand over their failure -/

/-- Whether a call is a compensation. -/
def isCompensation : Call → Bool
  | .compensate _ _ => true
  | _ => false

/-- **The failure is handed over last**: where the result is a failure, the last call is its
compensation, and there is no other one. -/
inductive HandsOver (failure? : α → Option Run.Failure) : Workflow α → Prop
  | done {a : α} : failure? a = none → HandsOver failure? (.done a)
  | publish {state : ProvisioningState} {next : Workflow α} : HandsOver failure? next →
      HandsOver failure? (.publish state next)
  | note {notice : Notice} {next : Workflow α} : HandsOver failure? next →
      HandsOver failure? (.note notice next)
  | await {call : Call} {resume : call.Answer → Workflow α} : isCompensation call = false →
      (∀ answer, HandsOver failure? (resume answer)) → HandsOver failure? (.await call resume)
  | compensate {f : Run.Failure} {a : α} : failure? a = some f →
      HandsOver failure? (.await (.compensate f.stage f.created) fun _ => .done a)

/-- A workflow that compensates nothing. -/
abbrev Quiet (w : Workflow α) : Prop := HandsOver (fun _ => none) w

/-- **One workflow after another**, where a failure of the first is one of both. -/
theorem HandsOver.bind {failure? : α → Option Run.Failure} {failed? : β → Option Run.Failure}
    {w : Workflow α} {next : α → Workflow β} (h : HandsOver failure? w)
    (hnext : ∀ a, failure? a = none → HandsOver failed? (next a))
    (hfailed : ∀ a f, failure? a = some f → ∃ b, next a = .done b ∧ failed? b = some f) :
    HandsOver failed? (w >>= next) := by
  induction h with
  | done ha => exact hnext _ ha
  | publish _ ih => exact ih.publish
  | note _ ih => exact ih.note
  | await hcall _ ih => exact .await hcall ih
  | compensate hf =>
      obtain ⟨b, hb, hfailed⟩ := hfailed _ _ hf
      rw [bind_await]
      simp only [bind_done, hb]
      exact .compensate hfailed

/-- A workflow that compensates nothing, before another one. -/
theorem Quiet.bind {failed? : β → Option Run.Failure} {w : Workflow α} {next : α → Workflow β}
    (h : Quiet w) (hnext : ∀ a, HandsOver failed? (next a)) : HandsOver failed? (w >>= next) :=
  HandsOver.bind h (fun a _ => hnext a) nofun

theorem quiet_noting (notice : Notice) : Quiet (noting notice) := .note (.done rfl)

theorem quiet_entering (state : ProvisioningState) : Quiet (entering state) :=
  .note (.publish (.done rfl))

theorem quiet_calling {call : Call} (hcall : isCompensation call = false) : Quiet (calling call) :=
  .await hcall fun _ => .done rfl

end Workflow

/-! ### Runs -/

open Workflow (HandsOver Quiet quiet_noting quiet_entering quiet_calling)

theorem Poll.quiet_ask (cluster : String) : Quiet (Poll.ask cluster) := by
  refine (quiet_calling rfl).bind fun reply => ?_
  cases reply with
  | ok state => exact .done rfl
  | error e => exact (quiet_noting _).bind fun _ => .done rfl

/-- A wait compensates nothing, however often it asks. -/
theorem Poll.quiet_waitFrom (polling : Readiness.Polling) (cluster : String) (asked : UInt32)
    (remaining : Nat) : Quiet (Poll.waitFrom polling cluster asked remaining) := by
  induction remaining generalizing asked with
  | zero =>
      rw [Poll.waitFrom.eq_def]
      refine (Poll.quiet_ask cluster).bind fun state => ?_
      by_cases hr : state = .running
      · rw [if_pos hr]
        exact (quiet_noting _).bind fun _ => .done rfl
      · rw [if_neg hr]
        exact .done rfl
  | succ remaining ih =>
      rw [Poll.waitFrom.eq_def]
      refine (Poll.quiet_ask cluster).bind fun state => ?_
      by_cases hr : state = .running
      · rw [if_pos hr]
        exact (quiet_noting _).bind fun _ => .done rfl
      · rw [if_neg hr]
        exact (quiet_noting _).bind fun _ => (quiet_calling rfl).bind fun _ => ih (asked + 1)

namespace Run

/-- The failure with which steps end a run. -/
def failure? {α : Type} : Except Failure α → Option Failure
  | .ok _ => none
  | .error f => some f

/-- What ends a run hands its failure over. -/
theorem handsOver_abort (stage : Kind) (cause : Cause) (created : List Descriptor) :
    HandsOver some (abort stage cause created) :=
  (quiet_noting _).bind fun _ => (quiet_entering _).bind fun _ =>
    .compensate (f := ⟨stage, cause, created⟩) rfl

theorem handsOver_abort_bind {α : Type} (stage : Kind) (cause : Cause)
    (created : List Descriptor) :
    HandsOver failure? (abort stage cause created >>= fun f =>
      (.done (.error f) : Workflow (Except Failure α))) := by
  refine (handsOver_abort stage cause created).bind nofun fun f g hf => ?_
  obtain rfl := Option.some.inj hf
  exact ⟨.error f, rfl, rfl⟩

/-- **Steps one after the other**: a failure of the first ends the run. -/
theorem handsOver_steps_bind {α β : Type} {x : Steps α} {f : α → Steps β}
    (hx : HandsOver failure? x.run) (hf : ∀ a, HandsOver failure? (f a).run) :
    HandsOver failure? (x >>= f).run := by
  rw [ExceptT.run_bind]
  refine hx.bind (fun result hresult => ?_) (fun result g hg => ?_)
  · cases result with
    | ok a => exact hf a
    | error e => cases hresult
  · cases result with
    | ok a => cases hg
    | error e => exact ⟨.error e, rfl, hg⟩

/-- A stage hands its failure over. -/
theorem handsOver_establish (settings : Settings) (earlier : List StageReport) (order : Order) :
    HandsOver failure? (establish settings earlier order).run := by
  rw [run_establish]
  refine (quiet_entering _).bind fun _ => (quiet_calling rfl).bind fun reply => ?_
  cases reply with
  | error e => exact handsOver_abort_bind _ _ _
  | ok name =>
      refine (quiet_entering _).bind fun _ => (Poll.quiet_waitFrom _ _ _ _).bind fun waited => ?_
      cases waited with
      | ok attempts => exact .done rfl
      | error timeout =>
          rw [judge]
          cases settings.policy with
          | fail => exact handsOver_abort_bind _ _ _
          | proceed => exact (quiet_noting _).bind fun _ => .done rfl

/-- **A run hands its failure over.** -/
theorem handsOver_workflow (settings : Settings) (r : Request) (port : UInt16) (a : Allotment) :
    HandsOver failure? (workflow settings r port a) := by
  rw [workflow, stages, run_lift_bind]
  refine (quiet_noting _).bind fun _ => ?_
  refine handsOver_steps_bind (handsOver_establish _ _ _) fun coordination => ?_
  refine handsOver_steps_bind (handsOver_establish _ _ _) fun broker => ?_
  refine handsOver_steps_bind (handsOver_establish _ _ _) fun worker => ?_
  rw [run_lift_bind]
  refine (quiet_entering _).bind fun _ => ?_
  rw [run_lift_bind]
  exact (quiet_noting _).bind fun _ => .done rfl

end Run

/-- The failure of a run, in the answer to its caller. -/
def Answer.failure? : Answer → Option Run.Failure
  | .error (.stage f) => some f
  | _ => none

/-- **What a caller begins hands its failure over.** -/
theorem handsOver_provisioning (settings : Run.Settings) (r : Request) (port : UInt16)
    (a : Allotment) : HandsOver Answer.failure? (provisioning settings r port a) := by
  refine (Run.handsOver_workflow settings r port a).bind (fun result hresult => ?_)
    (fun result f hf => ?_)
  · cases result with
    | ok workspace => exact .done rfl
    | error f => cases hresult
  · cases result with
    | ok workspace => cases hf
    | error g => exact ⟨.error (.stage g), rfl, hf⟩

/-! ### Whoever compensates -/

namespace Workflow

variable {m : Type → Type} {α : Type}

/-- A workflow without its compensations. -/
def uncompensated : Workflow α → Workflow α
  | .done a => .done a
  | .publish state next => .publish state next.uncompensated
  | .note notice next => .note notice next.uncompensated
  | .await (.create order) resume =>
    .await (.create order) fun answer => (resume answer).uncompensated
  | .await (.status cluster) resume =>
    .await (.status cluster) fun answer => (resume answer).uncompensated
  | .await (.sleep ms) resume => .await (.sleep ms) fun answer => (resume answer).uncompensated
  | .await (.compensate _ _) resume => (resume ()).uncompensated

theorem uncompensated_await {call : Call} (hcall : isCompensation call = false)
    (resume : call.Answer → Workflow α) :
    (Workflow.await call resume).uncompensated =
      .await call fun answer => (resume answer).uncompensated := by
  cases call with
  | create order => rfl
  | status cluster => rfl
  | sleep ms => rfl
  | compensate stage created => cases hcall

/-- A partner with somebody else to compensate. -/
def Partner.withHook (partner : Partner m) (hook : Kind → List Descriptor → m Unit) :
    Partner m where
  publish := partner.publish
  note := partner.note
  answer
    | .create order => partner.answer (.create order)
    | .status cluster => partner.answer (.status cluster)
    | .sleep ms => partner.answer (.sleep ms)
    | .compensate stage created => hook stage created

theorem Partner.answer_withHook (partner : Partner m) (hook : Kind → List Descriptor → m Unit)
    {call : Call} (hcall : isCompensation call = false) :
    (partner.withHook hook).answer call = partner.answer call := by
  cases call with
  | create order => rfl
  | status cluster => rfl
  | sleep ms => rfl
  | compensate stage created => cases hcall

/-- Who already compensates in some way can be told to do so. -/
theorem Partner.withHook_eq {partner : Partner m} {hook : Kind → List Descriptor → m Unit}
    (h : ∀ stage created, partner.answer (.compensate stage created) = hook stage created) :
    partner.withHook hook = partner := by
  obtain ⟨publish, note, answer⟩ := partner
  rw [withHook, Partner.mk.injEq]
  refine ⟨rfl, rfl, funext fun call => ?_⟩
  cases call with
  | create order => rfl
  | status cluster => rfl
  | sleep ms => rfl
  | compensate stage created => exact (h stage created).symm

/-- The compensation of a failure, if there is one. -/
def compensating [Monad m] (hook : Kind → List Descriptor → m Unit) : Option Run.Failure → m Unit
  | some f => hook f.stage f.created
  | none => pure ()

/-- **The compensation does not change the run**: it comes when all else is done. -/
theorem HandsOver.runM_withHook [Monad m] [LawfulMonad m] {failure? : α → Option Run.Failure}
    {w : Workflow α} (h : HandsOver failure? w) (partner : Partner m)
    (hook : Kind → List Descriptor → m Unit) :
    w.runM (partner.withHook hook) = do
      let a ← w.uncompensated.runM partner
      compensating hook (failure? a)
      return a := by
  induction h with
  | done hnone => simp only [runM, uncompensated, pure_bind, hnone, compensating]
  | publish _ ih =>
      simp only [runM, uncompensated, bind_assoc, ih]
      rfl
  | note _ ih =>
      simp only [runM, uncompensated, bind_assoc, ih]
      rfl
  | await hcall _ ih =>
      simp only [uncompensated_await hcall, runM, partner.answer_withHook hook hcall, bind_assoc,
        ih]
  | compensate hf =>
      simp only [runM, uncompensated, pure_bind, hf, compensating]
      rfl

end Workflow

/-- What a client does of itself with the clusters of a failed run: it leaves them in place. -/
theorem Backend.Client.withHook_leaveRunning {m : Type → Type} [Monad m] (c : Backend.Client)
    (exchange : Backend.HttpRequest → m Backend.Exchange) (sleep : UInt64 → m Unit)
    (note : Notice → m Unit) :
    (c.partner exchange sleep note).withHook
      (fun stage created => (Compensation.leaveRunning stage created).forM note) =
        c.partner exchange sleep note :=
  Workflow.Partner.withHook_eq fun _ _ => rfl

end Provisioning
