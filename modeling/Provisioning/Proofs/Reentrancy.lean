/-
**Calls from inside.**

A provisioner hands its calls to code that it does not know, and this code may come back to it with
another request before it answers: a client that provisions something on the way, a hook that
compensates a failed run by beginning a new one.  At each of these points the provisioner is held by
the run that is being answered, also where that run has published its failure.  So whoever comes
back is refused, and the run goes on as if nobody had come.

To compare the two runs it is not enough that a refused caller leaves no trace.  Which callers are
refused depends on the runs that are under way where they come, and these have to be looked at in
the history *with* the callers.  `WithInner` says so: it goes along that history, and takes out a
call wherever a run is under way.

Main definitions:

* `History.Refuses` — **callers who are refused** at a history, and what they see;
* `History.WithInner` — **calls from inside** the runs of a history.

Main results:

* `History.Sound.foldl_withInner` — a history is the same without the calls from inside;
* `inner_calls_invisible` — **they are refused and leave no trace**, and the hook does not matter.
-/

import Provisioning.Proofs.CarriedOut
import Provisioning.Proofs.Compensating

set_option relaxedAutoImplicit false
set_option autoImplicit false

namespace Provisioning

open Run (Settings)

namespace History

/-- Whether a run is under way, so that whoever comes may come from inside of it. -/
def UnderWay (h : History) : Prop := ∃ f ∈ h.flights, f.inFlight = true

/-- **Callers who are refused** learn why: their request is invalid, whoever holds the provisioner,
or else a run is under way.  Nothing is published or noted, nobody is called, and the history stays
as it is. -/
structure Refuses (h : History) : Prop where
  invalid (id : CallerId) (r : Request) (reason : Request.Invalid) (allot : Allotter) :
    r.validate = .error reason →
      h.session.call id r allot = (⟨[], .inl (.error (.invalid reason))⟩, h.session) ∧
        h.step (.call id r allot) = h
  busy (id : CallerId) (r : Request) (port : UInt16) (allot : Allotter) :
    r.validate = .ok port → h.UnderWay →
      h.session.call id r allot = (⟨[], .inl (.error .busy)⟩, h.session) ∧
        h.step (.call id r allot) = h

/-- **Calls from inside**: `all` has the moments of `outer`, and between them calls that come while
a run is under way, or with an invalid request. -/
inductive WithInner : History → (outer all : List Moment) → Prop
  | nil (h : History) : WithInner h [] []
  | outer {h : History} {outer all : List Moment} (moment : Moment) :
      WithInner (h.step moment) outer all → WithInner h (moment :: outer) (moment :: all)
  | inner {h : History} {outer all : List Moment} (id : CallerId) (r : Request)
      (allot : Allotter) : h.UnderWay ∨ (∃ reason, r.validate = .error reason) →
      WithInner (h.step (.call id r allot)) outer all →
      WithInner h outer (.call id r allot :: all)

variable {settings : Settings} {h : History}

/-- **A sound history refuses** whoever comes from inside. -/
theorem Sound.refuses (hsound : h.Sound settings) : h.Refuses where
  invalid id r reason allot hinvalid := by
    have hrefusal : h.session.refusal? r = some (.invalid reason) := by
      rw [Session.refusal?, hinvalid]
    exact ⟨Session.call_of_refusal hrefusal id allot, step_call_of_refusal hrefusal id allot⟩
  busy id r port allot hvalid hunderWay := by
    have hrefusal : h.session.refusal? r = some .busy := by
      rw [Session.refusal?, hvalid]
      exact if_pos (hsound.held_iff.mpr hunderWay)
    exact ⟨Session.call_of_refusal hrefusal id allot, step_call_of_refusal hrefusal id allot⟩

/-- A call from inside leaves no trace. -/
theorem Refuses.step_call (hrefuses : h.Refuses) (id : CallerId) {r : Request} (allot : Allotter)
    (hinner : h.UnderWay ∨ ∃ reason, r.validate = .error reason) :
    h.step (.call id r allot) = h := by
  cases hvalidate : r.validate with
  | error reason => exact (hrefuses.invalid id r reason allot hvalidate).2
  | ok port =>
      rcases hinner with hunderWay | ⟨reason, hinvalid⟩
      · exact (hrefuses.busy id r port allot hvalidate hunderWay).2
      · cases hvalidate.symm.trans hinvalid

/-- **A history is the same without the calls from inside.** -/
theorem Sound.foldl_withInner (hsound : h.Sound settings) {outer all : List Moment}
    (hinner : WithInner h outer all) : all.foldl History.step h = outer.foldl History.step h := by
  induction hinner with
  | nil h => rfl
  | outer moment _ ih => exact ih (hsound.step moment)
  | inner id r allot hcomes _ ih =>
      have hsame := hsound.refuses.step_call id allot hcomes
      rw [hsame] at ih
      rw [List.foldl_cons, hsame]
      exact ih hsound

end History

/-! ### The theorem -/

/-- **Calls from inside are invisible.**

In every history whoever comes with an invalid request, or while a run is under way, is refused and
leaves no trace; so every history is the same, with its answers, its calls and its published states,
without such callers.  In particular, where a run is answered as an environment answers it, it does
what the conversation with this environment says, whoever visits the provisioner at each of the
calls.  And a run that is carried out in any monad is the same, whoever compensates its failure, a
client that leaves the clusters in place or another hook: the hook comes when all else is done. -/
theorem inner_calls_invisible (settings : Settings) :
    (∀ moments : List Moment, (History.after settings moments).Refuses) ∧
    (∀ outer all : List Moment, History.WithInner (History.opened settings) outer all →
      History.after settings all = History.after settings outer) ∧
    (∀ (moments : List Moment) (id : CallerId) (r : Request) (port : UInt16) (allot : Allotter)
      (env : Workflow.Environment) (visits : List Workflow.Event → Call → List Visit),
      (History.after settings moments).session.held = false → r.validate = .ok port →
      let a := allot port r.serviceName
      let w := provisioning settings r port a
      History.after settings (moments ++ .call id r allot :: w.moments id env visits []) =
        (History.after settings moments).carriedOut
          ⟨id, r, port, a, w.acts env [], .returned (w.run env []).2⟩) ∧
    (∀ (r : Request) (port : UInt16) (a : Allotment) (m : Type → Type) [Monad m] [LawfulMonad m]
      (partner : Workflow.Partner m)
      (hook : Cluster.Kind → List Cluster.Descriptor → m Unit),
      (provisioning settings r port a).runM (partner.withHook hook) = do
        let answer ← (provisioning settings r port a).uncompensated.runM partner
        Workflow.compensating hook answer.failure?
        return answer) ∧
    ∀ (m : Type → Type) [Monad m] (c : Backend.Client)
      (exchange : Backend.HttpRequest → m Backend.Exchange) (sleep : UInt64 → m Unit)
      (note : Notice → m Unit),
      (c.partner exchange sleep note).withHook
        (fun stage created => (Compensation.leaveRunning stage created).forM note) =
          c.partner exchange sleep note := by
  refine ⟨fun moments => (History.sound_after settings moments).refuses, ?_, ?_, ?_, ?_⟩
  · intro outer all hinner
    exact (History.sound_opened settings).foldl_withInner hinner
  · intro moments id r port allot env visits hfree hvalid a w
    rw [History.after, List.foldl_append]
    exact (History.sound_after settings moments).foldl_moments hfree id hvalid allot env visits
  · intro r port a m _ _ partner hook
    exact (handsOver_provisioning settings r port a).runM_withHook partner hook
  · intro m _ c exchange sleep note
    exact c.withHook_leaveRunning exchange sleep note

/-- A run whose first call fails, visited at that call and at its compensation. -/
theorem inner_calls_invisible_of_refused :
    let r : Request := { clientPort := some 9092, nodes := ["node"] }
    let allot : Allotter := fun _ _ => default
    let reply := Workflow.answering (.error (.timeout "zookeepers")) (.ok .unknown)
    let visits : List Workflow.Event → Call → List Visit :=
      fun _ _ => [⟨1, r, allot⟩, ⟨0, {}, allot⟩]
    let w := provisioning {} r 9092 default
    let outer := [.call 0 r allot, .reply 0 reply, .reply 0 reply]
    let all := [.call 0 r allot, .call 1 r allot, .reply 0 reply, .call 0 {} allot,
      .call 1 r allot, .reply 0 reply]
    let hook : Cluster.Kind → List Cluster.Descriptor → StateM (List Cluster.Kind) Unit :=
      fun stage _ => modify (stage :: ·)
    let partner : Workflow.Partner (StateM (List Cluster.Kind)) :=
      ⟨fun _ => pure (), fun _ => pure (), fun call => pure (reply call)⟩
    History.after {} all = History.after {} outer ∧
      History.after {} (.call 0 r allot :: w.moments 0 ⟨fun _ => reply⟩ visits []) =
        (History.after {} []).carriedOut ⟨0, r, 9092, default, w.acts ⟨fun _ => reply⟩ [],
          .returned (.error (.stage ⟨.coordinationService, .create (.timeout "zookeepers"), []⟩))⟩ ∧
      w.runM (partner.withHook hook) = do
        let answer ← w.uncompensated.runM partner
        Workflow.compensating hook answer.failure?
        return answer := by
  intro r allot reply visits w outer all hook partner
  obtain ⟨-, houter, hvisits, hhook, -⟩ := inner_calls_invisible {}
  have hinner : History.WithInner (History.opened {}) outer all :=
    .outer _ <| .inner 1 r allot (.inl ⟨_, List.mem_singleton.mpr rfl, rfl⟩) <| .outer _ <|
      .inner 0 {} allot (.inr ⟨_, rfl⟩) <|
        .inner 1 r allot (.inl ⟨_, List.mem_singleton.mpr rfl, rfl⟩) <| .outer _ <| .nil _
  exact ⟨houter outer all hinner, hvisits [] 0 r 9092 allot ⟨fun _ => reply⟩ visits rfl rfl,
    hhook r 9092 default (StateM (List Cluster.Kind)) partner hook⟩

end Provisioning
