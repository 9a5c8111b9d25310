/-
**Workflows.**

Provisioning is a conversation: the program creates a cluster, asks for its state, sleeps, asks
again, and every step may depend on all answers before.  A workflow is such a conversation as a
value.  It publishes states and gives notices as it goes, and at each **call** it stops until
somebody answers; a call is therefore the only place where a run can be suspended, where something
else can happen, or where it can be abandoned.

Main definitions:

* `Call`, `Call.Answer` — the calls, and what each of them is answered with;
* `Workflow` — **workflows**, a monad;
* `Workflow.advance` — as far as the next call;
* `Workflow.run` — a whole conversation with an `Environment`, whose answers may depend on
  everything that happened before;
* `Workflow.runM` — a whole conversation inside another monad.
-/

import Provisioning.Notice

set_option autoImplicit false
set_option relaxedAutoImplicit false

namespace Provisioning

open Cluster (Kind Order Descriptor ContainerState)

/-- A call that a workflow waits for. -/
inductive Call where
  /-- Create a cluster. -/
  | create (order : Order)
  /-- Ask for the state of a cluster. -/
  | status (cluster : String)
  /-- Let some milliseconds pass. -/
  | sleep (ms : UInt64)
  /-- Take care of what a failed run has created. -/
  | compensate (stage : Kind) (created : List Descriptor)
  deriving Repr

/-- What a call is answered with: the name under which the cluster was created, or its state. -/
abbrev Call.Answer : Call → Type
  | .create _ => Except Backend.CallError String
  | .status _ => Except Backend.CallError ContainerState
  | .sleep _ => Unit
  | .compensate _ _ => Unit

/-- **Workflows** with a result in `α`. -/
inductive Workflow (α : Type) : Type where
  | done (a : α)
  | publish (state : ProvisioningState) (next : Workflow α)
  | note (notice : Notice) (next : Workflow α)
  | await (call : Call) (resume : call.Answer → Workflow α)

namespace Workflow

variable {α β : Type}

instance [Inhabited α] : Inhabited (Workflow α) := ⟨.done default⟩

/-- One workflow after another. -/
protected def bind : Workflow α → (α → Workflow β) → Workflow β
  | .done a, f => f a
  | .publish state next, f => .publish state (next.bind f)
  | .note notice next, f => .note notice (next.bind f)
  | .await call resume, f => .await call fun answer => (resume answer).bind f

instance : Monad Workflow where
  pure := .done
  bind := Workflow.bind

@[simp] theorem pure_eq (a : α) : (pure a : Workflow α) = .done a := rfl

@[simp] theorem bind_done (a : α) (f : α → Workflow β) : (.done a : Workflow α) >>= f = f a := rfl

@[simp] theorem bind_publish (state : ProvisioningState) (next : Workflow α)
    (f : α → Workflow β) : .publish state next >>= f = .publish state (next >>= f) := rfl

@[simp] theorem bind_note (notice : Notice) (next : Workflow α) (f : α → Workflow β) :
    .note notice next >>= f = .note notice (next >>= f) := rfl

@[simp] theorem bind_await (call : Call) (resume : call.Answer → Workflow α)
    (f : α → Workflow β) : .await call resume >>= f = .await call fun a => resume a >>= f := rfl

/-- Ending at once after a workflow changes nothing. -/
theorem bind_pure_eq (w : Workflow α) : w.bind .done = w := by
  induction w with
  | done a => rfl
  | publish state next ih => simp [Workflow.bind, ih]
  | note notice next ih => simp [Workflow.bind, ih]
  | await call resume ih => simp [Workflow.bind, ih]

/-- The order in which workflows are put together does not matter. -/
theorem bind_bind_eq {γ : Type} (w : Workflow α) (f : α → Workflow β) (g : β → Workflow γ) :
    (w.bind f).bind g = w.bind fun a => (f a).bind g := by
  induction w with
  | done a => rfl
  | publish state next ih => simp [Workflow.bind, ih]
  | note notice next ih => simp [Workflow.bind, ih]
  | await call resume ih => simp [Workflow.bind, ih]

instance : LawfulMonad Workflow :=
  LawfulMonad.mk' Workflow bind_pure_eq (fun _ _ => rfl) bind_bind_eq

/-! ### The steps -/

/-- Publish a state. -/
def publishing (state : ProvisioningState) : Workflow Unit := .publish state (.done ())

/-- Give a notice. -/
def noting (notice : Notice) : Workflow Unit := .note notice (.done ())

/-- Call, and wait for the answer. -/
def calling (call : Call) : Workflow call.Answer := .await call .done

/-- Publish a state, and say so first. -/
def entering (state : ProvisioningState) : Workflow Unit := do
  noting (.stateChanged state)
  publishing state

/-! ### Suspension -/

/-- A workflow that waits for the answer to a call. -/
structure Suspended (α : Type) where
  call : Call
  resume : call.Answer → Workflow α

/-- What a workflow does besides calling. -/
inductive Remark where
  | published (state : ProvisioningState)
  | noted (notice : Notice)
  deriving Repr

/-- As far as the next call: what is published and noted on the way, and then the result or the
call. -/
def advance : Workflow α → List Remark × (α ⊕ Suspended α)
  | .done a => ([], .inl a)
  | .publish state next =>
    let (remarks, reached) := next.advance
    (.published state :: remarks, reached)
  | .note notice next =>
    let (remarks, reached) := next.advance
    (.noted notice :: remarks, reached)
  | .await call resume => ([], .inr ⟨call, resume⟩)

/-! ### Whole conversations -/

/-- What happens in a conversation. -/
inductive Event where
  | published (state : ProvisioningState)
  | noted (notice : Notice)
  | called (call : Call)
  deriving Repr

/-- Whoever answers the calls.  An answer may depend on everything that happened before the call. -/
structure Environment where
  answer : List Event → (call : Call) → call.Answer

/-- A whole conversation with an environment, after the events in `before`: all events in their
order, and the result. -/
def run (env : Environment) : Workflow α → (before : List Event) → List Event × α
  | .done a, before => (before, a)
  | .publish state next, before => next.run env (before ++ [.published state])
  | .note notice next, before => next.run env (before ++ [.noted notice])
  | .await call resume, before =>
    (resume (env.answer before call)).run env (before ++ [.called call])

/-- Whoever takes part in a conversation inside a monad. -/
structure Partner (m : Type → Type) where
  publish : ProvisioningState → m Unit
  note : Notice → m Unit
  answer : (call : Call) → m call.Answer

/-- A whole conversation inside a monad. -/
def runM {m : Type → Type} [Monad m] (partner : Partner m) : Workflow α → m α
  | .done a => pure a
  | .publish state next => do partner.publish state; next.runM partner
  | .note notice next => do partner.note notice; next.runM partner
  | .await call resume => do (resume (← partner.answer call)).runM partner

/-! ### Small facts -/

@[simp] theorem run_done (env : Environment) (a : α) (before : List Event) :
    (Workflow.done a).run env before = (before, a) := rfl

/-- A conversation in two parts. -/
theorem run_bind (env : Environment) (w : Workflow α) (f : α → Workflow β)
    (before : List Event) :
    (w >>= f).run env before = (f (w.run env before).2).run env (w.run env before).1 := by
  induction w generalizing before with
  | done a => rfl
  | publish state next ih => exact ih _
  | note notice next ih => exact ih _
  | await call resume ih => exact ih _ _

end Workflow

end Provisioning
