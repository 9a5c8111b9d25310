/-
**What a workflow comes to.**

The acts of a conversation leave out its notices: what is said does not change what is done.  Where
it is asked what is said, both are needed, the calls with their answers and the notices between
them.  A **postcondition** speaks of these and of the result, and a workflow meets it if it holds
whatever the calls are answered.

That a workflow meets a postcondition is defined along the workflow, so it is shown along the
program that makes the workflow: each step takes its call, or its notice, out of the postcondition
of the steps behind it.

Main definitions:

* `Workflow.Meets` — **a workflow meets a postcondition**;
* `Workflow.noticesAmong` — the notices among events;
* `Run.OnSuccess` — a postcondition of steps that may end the run.

Main results:

* `Workflow.Meets.bind`, `Run.meets_steps_bind` — one workflow after another;
* `Workflow.Meets.run` — a conversation with an environment meets what its workflow meets.
-/

import Provisioning.Proofs.Course

set_option relaxedAutoImplicit false
set_option autoImplicit false

namespace Provisioning

namespace Workflow

variable {α β : Type}

/-! ### Postconditions -/

/-- What can be asked of the calls, with their answers, the notices and the result. -/
abbrev Postcondition (α : Type) := List Talk → List Notice → α → Prop

/-- **A workflow meets a postcondition**, whatever its calls are answered. -/
def Meets : Workflow α → Postcondition α → Prop
  | .done a, q => q [] [] a
  | .publish _ next, q => next.Meets q
  | .note notice next, q => next.Meets fun calls notices a => q calls (notice :: notices) a
  | .await call resume, q =>
    ∀ answer, (resume answer).Meets fun calls notices a => q (⟨call, answer⟩ :: calls) notices a

/-- What always holds is met. -/
theorem meets_of_forall {q : Postcondition α} (w : Workflow α)
    (h : ∀ calls notices a, q calls notices a) : w.Meets q := by
  induction w generalizing q with
  | done a => exact h [] [] a
  | publish state next ih => exact ih h
  | note notice next ih => exact ih fun calls notices a => h calls (notice :: notices) a
  | await call resume ih =>
      exact fun answer => ih answer fun calls notices a => h (⟨call, answer⟩ :: calls) notices a

/-- What is weaker than something that is met. -/
theorem Meets.imp {w : Workflow α} {q p : Postcondition α} (h : w.Meets q)
    (hqp : ∀ calls notices a, q calls notices a → p calls notices a) : w.Meets p := by
  induction w generalizing p q with
  | done a => exact hqp [] [] a h
  | publish state next ih => exact ih h hqp
  | note notice next ih => exact ih h fun calls notices a => hqp calls (notice :: notices) a
  | await call resume ih =>
      exact fun answer => ih answer (h answer) fun calls notices a =>
        hqp (⟨call, answer⟩ :: calls) notices a

/-- **One workflow after another**: the second meets what the first leaves to it. -/
theorem Meets.bind {w : Workflow α} {f : α → Workflow β} {q : Postcondition α}
    {p : Postcondition β} (h : w.Meets q)
    (hf : ∀ calls notices a, q calls notices a →
      (f a).Meets fun more others b => p (calls ++ more) (notices ++ others) b) :
    (w >>= f).Meets p := by
  -- What was called and said so far goes into both postconditions.
  induction w generalizing p q with
  | done a => exact hf [] [] a h
  | publish state next ih => exact ih h hf
  | note notice next ih =>
      exact ih h fun calls notices a hq => hf calls (notice :: notices) a hq
  | await call resume ih =>
      exact fun answer => ih answer (h answer) fun calls notices a hq =>
        hf (⟨call, answer⟩ :: calls) notices a hq

theorem meets_noting {q : Postcondition Unit} {notice : Notice} (h : q [] [notice] ()) :
    (noting notice).Meets q := h

theorem meets_entering {q : Postcondition Unit} {state : ProvisioningState}
    (h : q [] [.stateChanged state] ()) : (entering state).Meets q := h

theorem meets_calling {call : Call} {q : Postcondition call.Answer}
    (h : ∀ answer, q [⟨call, answer⟩] [] answer) : (calling call).Meets q := h

/-! ### Conversations -/

/-- The notice of an event. -/
def Event.notice? : Event → Option Notice
  | .noted notice => some notice
  | _ => none

/-- The notices among events. -/
def noticesAmong (events : List Event) : List Notice := events.filterMap Event.notice?

theorem noticesAmong_append (events more : List Event) :
    noticesAmong (events ++ more) = noticesAmong events ++ noticesAmong more :=
  List.filterMap_append

theorem noted_mem_iff {events : List Event} {notice : Notice} :
    .noted notice ∈ events ↔ notice ∈ noticesAmong events := by
  rw [noticesAmong, List.mem_filterMap]
  constructor
  · exact fun h => ⟨_, h, rfl⟩
  · rintro ⟨event, hevent, hnotice⟩
    cases event with
    | noted other =>
        obtain rfl := Option.some.inj hnotice
        exact hevent
    | published state => cases hnotice
    | called call => cases hnotice

/-- **A conversation with an environment** meets what its workflow meets. -/
theorem Meets.run {w : Workflow α} {q : Postcondition α} (h : w.Meets q) (env : Environment)
    (before : List Event) : ∃ notices,
      noticesAmong (w.run env before).1 = noticesAmong before ++ notices ∧
        q (talks (w.acts env before)) notices (w.run env before).2 := by
  induction w generalizing q before with
  | done a => exact ⟨[], (List.append_nil _).symm, h⟩
  | publish state next ih =>
      obtain ⟨notices, hnotices, hq⟩ := ih h (before ++ [.published state])
      rw [noticesAmong_append] at hnotices
      exact ⟨notices, hnotices.trans (by simp [noticesAmong, Event.notice?]), hq⟩
  | note notice next ih =>
      obtain ⟨notices, hnotices, hq⟩ := ih h (before ++ [.noted notice])
      rw [noticesAmong_append] at hnotices
      exact ⟨notice :: notices, hnotices.trans (by simp [noticesAmong, Event.notice?]), hq⟩
  | await call resume ih =>
      obtain ⟨notices, hnotices, hq⟩ :=
        ih (env.answer before call) (h _) (before ++ [.called call])
      rw [noticesAmong_append] at hnotices
      exact ⟨notices, hnotices.trans (by simp [noticesAmong, Event.notice?]), hq⟩

end Workflow

/-! ### Steps that may end the run -/

namespace Run

open Workflow (Postcondition Meets)

variable {α β : Type}

/-- A postcondition of steps, if they do not end the run. -/
def OnSuccess (q : Postcondition α) : Postcondition (Except Failure α) :=
  fun calls notices result => ∀ a, result = .ok a → q calls notices a

/-- **Steps one after the other.** -/
theorem meets_steps_bind {x : Steps α} {f : α → Steps β} {q : Postcondition α}
    {p : Postcondition β} (hx : x.run.Meets (OnSuccess q))
    (hf : ∀ calls notices a, q calls notices a →
      (f a).run.Meets (OnSuccess fun more others b => p (calls ++ more) (notices ++ others) b)) :
    (x >>= f).run.Meets (OnSuccess p) := by
  rw [ExceptT.run_bind]
  refine hx.bind fun calls notices result hresult => ?_
  cases result with
  | ok a => exact hf calls notices a (hresult a rfl)
  | error e => exact nofun

/-- A failure is no success. -/
theorem meets_abort_bind (stage : Cluster.Kind) (cause : Cause) (created : List Cluster.Descriptor)
    (q : Postcondition α) : (abort stage cause created >>= fun f =>
      (.done (.error f) : Workflow (Except Failure α))).Meets (OnSuccess q) :=
  (Workflow.meets_of_forall _ fun _ _ _ => trivial).bind fun _ _ _ _ => nofun

end Run

end Provisioning
