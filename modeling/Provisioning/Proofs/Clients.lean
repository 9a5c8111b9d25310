/-
**Clients that only know the calls.**

An environment sees everything that happens in a run, notices included, and so two runs that ask the
same questions may well be told different things.  A client sees less.  It is asked one call after
the other, and its answers can depend on the calls that were made before, but on nothing else.

With such a client a run is determined by its acts.  If some conversation of a workflow has only
answers that the client gives, then this is the conversation that the workflow has with the client.
So to say what a run does it is enough to write down some acts, see that they are a conversation of
the workflow, and check the answers; this is how two different workflows can be compared that meet
the same client.

Main definitions:

* `Workflow.Answerer` — **who answers calls** and knows the calls before;
* `Workflow.AnsweredBy` — calls with the answers that an answerer gives.

Main results:

* `Workflow.answeredBy_acts` — all calls of a run are answered by the one who answers;
* `Workflow.eq_acts_of_ends` — **a conversation with these answers is the run**.
-/

import Provisioning.Proofs.Conversation

set_option relaxedAutoImplicit false
set_option autoImplicit false

namespace Provisioning.Workflow

variable {α : Type}

/-- **Who answers calls**: from the calls before, and the call. -/
abbrev Answerer := List Call → (call : Call) → call.Answer

/-- The calls among what has happened. -/
def callsAmong (events : List Event) : List Call := events.filterMap Event.call?

@[simp] theorem callsAmong_concat_published (events : List Event) (state : ProvisioningState) :
    callsAmong (events ++ [.published state]) = callsAmong events := by
  rw [callsAmong, List.filterMap_append]
  exact List.append_nil _

@[simp] theorem callsAmong_concat_noted (events : List Event) (notice : Notice) :
    callsAmong (events ++ [.noted notice]) = callsAmong events := by
  rw [callsAmong, List.filterMap_append]
  exact List.append_nil _

@[simp] theorem callsAmong_concat_called (events : List Event) (call : Call) :
    callsAmong (events ++ [.called call]) = callsAmong events ++ [call] := by
  rw [callsAmong, List.filterMap_append]
  rfl

/-- An answerer as an environment, of which it learns the calls only. -/
def Answerer.environment (client : Answerer) : Environment where
  answer before := client (callsAmong before)

/-- **The answers are those of an answerer** who was called as in `before` already. -/
def AnsweredBy (client : Answerer) (before : List Call) (talks : List Talk) : Prop :=
  Throughout (fun more talk => talk.2 = client (before ++ more.map (·.1)) talk.1) talks

variable {client : Answerer} {before : List Call}

theorem answeredBy_nil : AnsweredBy client before [] := throughout_nil

theorem answeredBy_append_iff {talks more : List Talk} :
    AnsweredBy client before (talks ++ more) ↔
      AnsweredBy client before talks ∧ AnsweredBy client (before ++ talks.map (·.1)) more := by
  simp only [AnsweredBy, throughout_append_iff, List.map_append, List.append_assoc]

theorem answeredBy_cons_iff {call : Call} {answer : call.Answer} {talks : List Talk} :
    AnsweredBy client before (⟨call, answer⟩ :: talks) ↔
      answer = client before call ∧ AnsweredBy client (before ++ [call]) talks := by
  simp only [AnsweredBy, throughout_cons_iff, List.map_nil, List.map_cons, List.append_nil,
    List.append_assoc, List.singleton_append]

/-- **All calls of a run** have the answers of the one who answers. -/
theorem answeredBy_acts (client : Answerer) (w : Workflow α) (before : List Event) :
    AnsweredBy client (callsAmong before) (talks (w.acts client.environment before)) := by
  induction w generalizing before with
  | done a => exact answeredBy_nil
  | publish state next ih =>
      have hnext := ih (before ++ [.published state])
      rwa [callsAmong_concat_published] at hnext
  | note notice next ih =>
      have hnext := ih (before ++ [.noted notice])
      rwa [callsAmong_concat_noted] at hnext
  | await call resume ih =>
      have hrest := ih (client.environment.answer before call) (before ++ [.called call])
      rw [callsAmong_concat_called] at hrest
      exact answeredBy_cons_iff.mpr ⟨rfl, hrest⟩

/-- **A conversation with the answers of a client is the run with this client**, and so is its
result.  The answers say at each call which of its conversations it is. -/
theorem eq_acts_of_ends {w : Workflow α} {acts : List Act} {a : α} (h : Ends w acts a)
    (before : List Event) (hanswered : AnsweredBy client (callsAmong before) (talks acts)) :
    acts = w.acts client.environment before ∧ a = (w.run client.environment before).2 := by
  induction w generalizing acts before with
  | done b =>
      obtain ⟨rfl, rfl⟩ := ends_done_iff.mp h
      exact ⟨rfl, rfl⟩
  | publish state next ih =>
      obtain ⟨rest, rfl, hrest⟩ := ends_publish_iff.mp h
      have hnext : AnsweredBy client (callsAmong (before ++ [.published state])) (talks rest) := by
        rwa [callsAmong_concat_published]
      obtain ⟨hacts, hresult⟩ := ih hrest _ hnext
      exact ⟨congrArg (_ :: ·) hacts, hresult⟩
  | note notice next ih =>
      have hnext : AnsweredBy client (callsAmong (before ++ [.noted notice])) (talks acts) := by
        rwa [callsAmong_concat_noted]
      exact ih (ends_note_iff.mp h) _ hnext
  | await call resume ih =>
      obtain ⟨answer, rest, rfl, hrest⟩ := ends_await_iff.mp h
      obtain ⟨rfl, hmore⟩ := answeredBy_cons_iff.mp hanswered
      have hnext : AnsweredBy client (callsAmong (before ++ [.called call])) (talks rest) := by
        rwa [callsAmong_concat_called]
      obtain ⟨hacts, hresult⟩ := ih _ hrest _ hnext
      exact ⟨congrArg (_ :: ·) hacts, hresult⟩

end Provisioning.Workflow
