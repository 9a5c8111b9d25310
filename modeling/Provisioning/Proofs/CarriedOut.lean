/-
**Runs that a provisioner carries out.**

There are two ways to answer the calls of a run.  An environment answers them in one go, and what
comes out is a whole conversation.  A provisioner stops at each call, and learns the answer at some
later moment; in between it may be asked for other runs.  What is known of conversations holds of
provisioners because the second way comes to the same as the first: if the calls of a run are
answered as an environment answers them, one moment after the other, then the provisioner does what
the conversation says and returns its result, whoever came in between.

Main definitions:

* `Visit` — a caller who comes in between;
* `Workflow.moments` — **the moments of a run** with an environment, and with visits at its calls;
* `History.carriedOut` — a history with one more run, from its beginning to its end.

Main results:

* `History.Sound.foldl_moments` — **a provisioner carries out the conversation** with the
  environment, whatever the visits are.
-/

import Provisioning.Proofs.History

set_option relaxedAutoImplicit false
set_option autoImplicit false

namespace Provisioning

open Run (Settings)
open Workflow (Act Event remarkActs)

/-- A caller who comes in between. -/
structure Visit where
  id : CallerId
  request : Request
  allot : Allotter

/-- The moment of a visit. -/
def Visit.moment (v : Visit) : Moment := .call v.id v.request v.allot

/-- **The moments of a caller's run** with an environment, after the events in `before`: at each
call there are visits, which may depend on everything that happened before, and then the answer. -/
def Workflow.moments {α : Type} (id : CallerId) (env : Workflow.Environment)
    (visits : List Event → Call → List Visit) : Workflow α → (before : List Event) → List Moment
  | .done _, _ => []
  | .publish state next, before => next.moments id env visits (before ++ [.published state])
  | .note notice next, before => next.moments id env visits (before ++ [.noted notice])
  | .await call resume, before =>
    (visits before call).map Visit.moment ++ .reply id (env.answer before) ::
      (resume (env.answer before call)).moments id env visits (before ++ [.called call])

/-! ### One stretch, step by step -/

namespace Session

/-- A state that is published stays until the next one is. -/
theorem proceed_publish (s : Session) (id : CallerId) (state : ProvisioningState)
    (next : Workflow Answer) :
    s.proceed id (.publish state next) =
      (⟨.published state :: (Session.proceed { s with state } id next).1.remarks,
        (Session.proceed { s with state } id next).1.reached⟩,
        (Session.proceed { s with state } id next).2) := by
  rcases hnext : next.advance with ⟨remarks, answer | waiting⟩
  · simp [proceed, Workflow.advance, hnext, lastState]
  · simp [proceed, Workflow.advance, hnext, lastState]

/-- A notice changes nothing. -/
theorem proceed_note (s : Session) (id : CallerId) (notice : Notice) (next : Workflow Answer) :
    s.proceed id (.note notice next) =
      (⟨.noted notice :: (s.proceed id next).1.remarks, (s.proceed id next).1.reached⟩,
        (s.proceed id next).2) := by
  rcases hnext : next.advance with ⟨remarks, answer | waiting⟩
  · simp [proceed, Workflow.advance, hnext, lastState]
  · simp [proceed, Workflow.advance, hnext, lastState]

end Session

namespace History

/-- A history with one more run, from its beginning to its end. -/
def carriedOut (h : History) (f : Flight) : History where
  session := { h.session with state := lastPublished h.session.state f.acts }
  flights := h.flights ++ [f]
  log := h.log ++ f.block

/-- A history whose last run goes on with a workflow, as far as its next call. -/
def proceeding (s : Session) (past : List Flight) (f : Flight) (log : List (CallerId × Event))
    (w : Workflow Answer) : History where
  session := (s.proceed f.caller w).2
  flights := past ++ [{ f with
    acts := f.acts ++ remarkActs (s.proceed f.caller w).1.remarks
    standing := .ofReached (s.proceed f.caller w).1.reached }]
  log := log ++ (s.proceed f.caller w).1.events.map fun event => (f.caller, event)

variable {s : Session} {past : List Flight} {f : Flight} {log : List (CallerId × Event)}

/-- A published state is one thing more that the run has done. -/
theorem proceeding_publish (state : ProvisioningState) (next : Workflow Answer) :
    proceeding s past f log (.publish state next) =
      proceeding { s with state } past { f with acts := f.acts ++ [.published state] }
        (log ++ [(f.caller, .published state)]) next := by
  simp [proceeding, Session.proceed_publish, Session.Outcome.events, Act.event]

theorem proceeding_note (notice : Notice) (next : Workflow Answer) :
    proceeding s past f log (.note notice next) = proceeding s past f log next := by
  simp [proceeding, Session.proceed_note, Session.Outcome.events]

/-- At a call the run waits, and holds the provisioner. -/
theorem proceeding_await (call : Call) (resume : call.Answer → Workflow Answer) :
    proceeding s past f log (.await call resume) = {
      session := { s with
        held := true
        suspended := (f.caller, ⟨call, resume⟩) :: s.suspended.filter (·.1 != f.caller) }
      flights := past ++ [{ f with standing := .waiting call }]
      log := log ++ [(f.caller, .called call)] } := by
  simp [proceeding, Session.proceed, Workflow.advance, Session.lastState, Session.Outcome.events,
    Standing.ofReached, Standing.openCall?]

/-- At its end the run lets the provisioner go. -/
theorem proceeding_done (answer : Answer) :
    proceeding s past f log (.done answer) = {
      session := { s with
        held := false
        suspended := s.suspended.filter (·.1 != f.caller) }
      flights := past ++ [{ f with standing := .returned answer }]
      log } := by
  simp [proceeding, Session.proceed, Workflow.advance, Session.lastState, Session.Outcome.events,
    Standing.ofReached, Standing.openCall?]

/-! ### The moments -/

/-- Whoever comes while the provisioner is held leaves no trace. -/
theorem foldl_visits {h : History} (hheld : h.session.held = true) (visits : List Visit) :
    (visits.map Visit.moment).foldl History.step h = h := by
  induction visits with
  | nil => rfl
  | cons v visits ih =>
      obtain ⟨failure, hrefusal⟩ : ∃ failure, h.session.refusal? v.request = some failure := by
        refine Option.ne_none_iff_exists'.mp fun hnone => ?_
        rw [(Session.refusal?_eq_none_iff.mp hnone).1] at hheld
        cases hheld
      rw [List.map_cons, List.foldl_cons, Visit.moment, step_call_of_refusal hrefusal]
      exact ih

/-- The answer to its call lets a run go on. -/
theorem step_reply_proceeding (hpast : ∀ g ∈ past, g.inFlight = false)
    (halone : s.suspended.filter (·.1 != f.caller) = []) (call : Call)
    (resume : call.Answer → Workflow Answer) (answer : (call : Call) → call.Answer) :
    (proceeding s past f log (.await call resume)).step (.reply f.caller answer) =
      proceeding { s with held := true, suspended := [(f.caller, ⟨call, resume⟩)] } past
        { f with acts := f.acts ++ [.answered call (answer call)] }
        (log ++ [(f.caller, .called call)]) (resume (answer call)) := by
  have hover (o : Session.Outcome) : past.map (Flight.replied f.caller answer o) = past :=
    (List.map_congr_left fun g hg =>
      Flight.replied_of_not_in_flight _ _ _ (hpast g hg)).trans (List.map_id past)
  rw [proceeding_await, halone]
  simp [step, Session.reply, Session.waiting?, proceeding, hover, Flight.replied]

/-- **A run that is answered as an environment answers it** goes on to the end of the conversation.
Along the induction the run has come to `w`, and what it has done before is in `f` and `log`. -/
theorem foldl_moments (env : Workflow.Environment) (visits : List Event → Call → List Visit)
    (hpast : ∀ g ∈ past, g.inFlight = false) (w : Workflow Answer) (before : List Event)
    (s : Session) (f : Flight) (log : List (CallerId × Event))
    (halone : s.suspended.filter (·.1 != f.caller) = []) :
    (w.moments f.caller env visits before).foldl History.step (proceeding s past f log w) = {
      session := { s with
        state := lastPublished s.state (w.acts env before), held := false, suspended := [] }
      flights := past ++ [{ f with
        acts := f.acts ++ w.acts env before, standing := .returned (w.run env before).2 }]
      log := log ++ (w.acts env before).map fun act => (f.caller, act.event) } := by
  induction w generalizing before s f log with
  | done a =>
      rw [Workflow.moments, List.foldl_nil, proceeding_done, halone]
      simp [Workflow.acts, lastPublished]
  | publish state next ih =>
      rw [Workflow.moments, proceeding_publish]
      refine (ih _ { s with state } { f with acts := f.acts ++ [.published state] } _
        halone).trans ?_
      simp [Workflow.acts, Workflow.run, lastPublished, Act.event]
  | note notice next ih =>
      rw [Workflow.moments, proceeding_note]
      exact ih _ s f log halone
  | await call resume ih =>
      have hheld : (proceeding s past f log (.await call resume)).session.held = true := by
        rw [proceeding_await]
      rw [Workflow.moments, List.foldl_append, foldl_visits hheld, List.foldl_cons,
        step_reply_proceeding hpast halone]
      refine (ih _ _ _ { f with acts := f.acts ++ [.answered call (env.answer before call)] } _
        ?_).trans ?_
      · simp
      · simp [Workflow.acts, Workflow.run, lastPublished, Act.event]

/-- **A provisioner carries out the conversation** of a valid request with an environment, whoever
comes in between. -/
theorem Sound.foldl_moments {settings : Settings} {h : History} (hsound : h.Sound settings)
    (hfree : h.session.held = false) (id : CallerId) {r : Request} {port : UInt16}
    (hvalid : r.validate = .ok port) (allot : Allotter) (env : Workflow.Environment)
    (visits : List Event → Call → List Visit) :
    let a := allot port r.serviceName
    let w := provisioning settings r port a
    (.call id r allot :: w.moments id env visits []).foldl History.step h =
      h.carriedOut ⟨id, r, port, a, w.acts env [], .returned (w.run env []).2⟩ := by
  intro a w
  have hnobody := hsound.free_of_not_held hfree
  have halone : h.session.suspended.filter (·.1 != id) = [] := by
    rw [hnobody.none_suspended]
    rfl
  have hbegun : h.step (.call id r allot) =
      proceeding h.session h.flights { Flight.started id r port a with acts := [] } h.log w := by
    rw [step_call_of_not_held hfree id hvalid allot, hsound.settings_eq]
    rfl
  rw [List.foldl_cons, hbegun]
  refine (History.foldl_moments env visits hnobody.none_in_flight w [] h.session _ h.log
    halone).trans ?_
  rw [carriedOut, Flight.block, Flight.events]
  simp [Flight.started, Standing.openCall?, hfree, hnobody.none_suspended]

end History

end Provisioning
