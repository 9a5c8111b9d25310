/-
**Every run begins afresh.**

A provisioner lives longer than its runs, and what it keeps of one of them could reach the next: a
name or a port that counts as taken, a list of clusters that was not emptied, a counter that goes on
where it stood, or the provisioner itself, held by a run that nobody answers any more.  Most of this
would be seen only in the second run, and only after a first one that failed or was given up.

Nothing reaches the next run.  Between two runs a provisioner keeps the state that it has published,
and this is never read by a run.  So a history that goes on behind another one, at whose end nobody
is under way, does at each moment what it would do at a provisioner that was just opened: `behind`
puts the one behind the other, and commutes with every moment.

Main definition:

* `History.behind` — a history that goes on **behind** another one.

Main results:

* `Session.call_in_state`, `Session.reply_in_state` — **the published state is not read**;
* `History.step_behind`, `History.after_append` — a history behind an idle one goes its own way;
* `begins_afresh` — **what was before leaves no trace**.
-/

import Provisioning.Proofs.CarriedOut
import Provisioning.Proofs.PublishedStates

set_option relaxedAutoImplicit false
set_option autoImplicit false

namespace Provisioning

open Run (Settings)
open Workflow (Act Event Remark remarkActs statesAmong)

/-! ### The published state -/

namespace Session

/-- What was published before shows only where nothing was published since. -/
theorem lastState_append (before : ProvisioningState) (remarks : List Remark) :
    lastState before remarks = (statesAmong (remarkActs remarks)).getLast?.getD before :=
  (lastState_eq before remarks).trans (lastPublished_eq before _)

variable (s : Session) (state : ProvisioningState) (id : CallerId)

/-- A stretch of a run, whatever was published before. -/
theorem proceed_in_state (w : Workflow Answer) :
    Session.proceed { s with state } id w =
      ((s.proceed id w).1,
        { (s.proceed id w).2 with state := lastState state (s.proceed id w).1.remarks }) := by
  rcases hw : w.advance with ⟨remarks, answer | waiting⟩
  · simp only [proceed, hw]
  · simp only [proceed, hw]

/-- **Who asks for a run** sees the same, whatever was published before. -/
theorem call_in_state (r : Request) (allot : Allotter) :
    Session.call { s with state } id r allot =
      ((s.call id r allot).1,
        { (s.call id r allot).2 with state := lastState state (s.call id r allot).1.remarks }) := by
  let s' : Session := { s with state }
  cases hrefusal : s.refusal? r with
  | some failure =>
      have hrefusal' : s'.refusal? r = some failure := hrefusal
      rw [call_of_refusal hrefusal, call_of_refusal hrefusal']
      rfl
  | none =>
      obtain ⟨hnot, port, hvalid⟩ := refusal?_eq_none_iff.mp hrefusal
      have hnot' : s'.held = false := hnot
      rw [call_of_not_held hnot id hvalid, call_of_not_held hnot' id hvalid]
      exact proceed_in_state s state id _

/-- **Whose call is answered** sees the same, whatever was published before. -/
theorem reply_in_state (answer : (call : Call) → call.Answer) :
    Session.reply { s with state } id answer =
      ((s.reply id answer).1,
        { (s.reply id answer).2 with
          state := lastState state (((s.reply id answer).1.map (·.remarks)).getD []) }) := by
  rw [reply, reply]
  have hwaiting : Session.waiting? { s with state } id = s.waiting? id := rfl
  rw [hwaiting]
  cases s.waiting? id with
  | none => rfl
  | some waiting => simp only [proceed_in_state s state id, Option.map_some, Option.getD_some]

/-- Who gives up its run leaves the published state as it was. -/
theorem abandon_in_state : Session.abandon { s with state } id = { s.abandon id with state } := by
  rw [abandon, abandon]
  have hwaiting : Session.waiting? { s with state } id = s.waiting? id := rfl
  rw [hwaiting]
  cases s.waiting? id with
  | none => rfl
  | some waiting => rfl

end Session

/-! ### One history behind another -/

namespace History

/-- A history that goes on **behind** another one: its runs and its log come behind those before,
and the state that was published before stays until it publishes one. -/
def behind (past h : History) : History where
  session := { h.session with state := h.states.getLast?.getD past.session.state }
  flights := past.flights ++ h.flights
  log := past.log ++ h.log

/-- A history in which nobody is under way. -/
def Idle (h : History) : Prop := ∀ f ∈ h.flights, f.inFlight = false

variable {past h : History}

/-- The runs of an idle history stay as they are. -/
theorem Idle.map_flights (hidle : past.Idle) {g : Flight → Flight}
    (hg : ∀ f : Flight, f.inFlight = false → g f = f) : past.flights.map g = past.flights :=
  (List.map_congr_left fun f hf => hg f (hidle f hf)).trans (List.map_id _)

/-- What a moment adds to the log adds its states to those that were published. -/
theorem getLast?_states_log (id : CallerId) (o : Session.Outcome) (session : Session)
    (flights : List Flight) :
    (History.states
        ⟨session, flights, h.log ++ o.events.map fun event => (id, event)⟩).getLast?.getD
        past.session.state =
      Session.lastState (h.states.getLast?.getD past.session.state) o.remarks := by
  have hstates : (o.events.map fun event => (id, event)).filterMap (fun e => e.2.state?) =
      statesAmong (remarkActs o.remarks) := by
    rw [List.filterMap_map]
    exact filterMap_state?_events (remarkActs o.remarks) _
  rw [Session.lastState_append, states, List.filterMap_append, hstates, List.getLast?_append,
    Option.getD_or]
  rfl

/-- **A moment behind an idle history** does what it does without it. -/
theorem step_behind (hidle : past.Idle) (moment : Moment) :
    (past.behind h).step moment = past.behind (h.step moment) := by
  cases moment with
  | call id r allot =>
      rw [step, behind, Session.call_in_state h.session _ id r allot]
      simp only [step, behind, getLast?_states_log, List.append_assoc]
  | reply id answer =>
      have hover (o : Session.Outcome) :
          past.flights.map (Flight.replied id answer o) = past.flights :=
        hidle.map_flights fun f hf => Flight.replied_of_not_in_flight id answer o hf
      rw [step, behind, Session.reply_in_state h.session _ id answer]
      simp only [step]
      rcases h.session.reply id answer with ⟨_ | o, session⟩
      · rfl
      · simp only [behind, getLast?_states_log, List.map_append, hover, List.append_assoc,
          Option.map_some, Option.getD_some]
  | abandon id =>
      have hover : past.flights.map (Flight.dropped id) = past.flights :=
        hidle.map_flights fun f hf => Flight.dropped_of_not_in_flight id hf
      rw [step, behind, Session.abandon_in_state h.session _ id]
      simp only [step, behind, List.map_append, hover]
      rfl

theorem foldl_behind (hidle : past.Idle) (moments : List Moment) :
    moments.foldl step (past.behind h) = past.behind (moments.foldl step h) := by
  induction moments generalizing h with
  | nil => rfl
  | cons moment moments ih => rw [List.foldl_cons, List.foldl_cons, step_behind hidle, ih]

/-- A sound history that is idle is like one that was just opened, but for what was before. -/
theorem Sound.behind_opened {settings : Settings} (hsound : past.Sound settings)
    (hidle : past.Idle) : past.behind (opened settings) = past := by
  have hfree : past.Free := by
    rcases hsound.control with hfree | ⟨_, f, waiting, hheld⟩
    · exact hfree
    · have hflight := hidle f hheld.mem
      rw [Flight.inFlight, hheld.waits] at hflight
      cases hflight
  have hsession : { (opened settings).session with state := past.session.state } =
      past.session := by
    rw [opened, ← hsound.settings_eq, ← hfree.not_held, ← hfree.none_suspended]
  rw [behind]
  simp only [opened, List.append_nil] at hsession ⊢
  exact congrArg (History.mk · past.flights past.log) hsession

/-- **Behind an idle history** all goes as at a provisioner that was just opened. -/
theorem after_append {settings : Settings} {moments : List Moment}
    (hidle : (after settings moments).Idle) (more : List Moment) :
    after settings (moments ++ more) = (after settings moments).behind (after settings more) := by
  rw [after, List.foldl_append]
  change more.foldl step (after settings moments) = _
  rw [← (sound_after settings moments).behind_opened hidle, foldl_behind hidle,
    (sound_after settings moments).behind_opened hidle]
  rfl

end History

/-! ### The theorem -/

/-- **Every run begins afresh.**

Whatever happened to a provisioner, runs that returned, failed at any stage or were given up at any
call, and callers who were refused: once no run is under way, all goes on as at a provisioner that
was just opened with the same settings.  The same runs begin and do the same, the same is seen of
them in the same order, and at every moment a caller with a request, and a caller whose call is
answered, sees the same: what is published and noted, and the answer or the next call.  In
particular a run that is carried out with an environment does what its workflow does with that
environment, whoever comes in between. -/
theorem begins_afresh (settings : Settings) (past more : List Moment)
    (hidle : (History.after settings past).Idle) :
    let before := History.after settings past
    let fresh := History.after settings more
    let both := History.after settings (past ++ more)
    both.flights = before.flights ++ fresh.flights ∧
      both.log = before.log ++ fresh.log ∧
      both.states = before.states ++ fresh.states ∧
      (∀ (id : CallerId) (r : Request) (allot : Allotter),
        (both.session.call id r allot).1 = (fresh.session.call id r allot).1) ∧
      (∀ (id : CallerId) (answer : (call : Call) → call.Answer),
        (both.session.reply id answer).1 = (fresh.session.reply id answer).1) ∧
      ∀ (id : CallerId) (r : Request) (port : UInt16) (allot : Allotter)
        (env : Workflow.Environment) (visits : List Event → Call → List Visit),
        r.validate = .ok port →
        let w := provisioning settings r port (allot port r.serviceName)
        let run := .call id r allot :: w.moments id env visits []
        (History.after settings (past ++ run)).flights = before.flights ++
            [⟨id, r, port, allot port r.serviceName, w.acts env [], .returned (w.run env []).2⟩] ∧
          (History.after settings (past ++ run)).states =
            before.states ++ statesAmong (w.acts env []) := by
  intro before fresh both
  have hboth : both = before.behind fresh := History.after_append hidle more
  have hstates (h : History) : (before.behind h).states = before.states ++ h.states :=
    List.filterMap_append
  refine ⟨?_, ?_, ?_, ?_, ?_, ?_⟩
  · rw [hboth, History.behind]
  · rw [hboth, History.behind]
  · rw [hboth, hstates]
  · intro id r allot
    rw [hboth, History.behind, Session.call_in_state fresh.session]
  · intro id answer
    rw [hboth, History.behind, Session.reply_in_state fresh.session]
  · intro id r port allot env visits hvalid w run
    let f : Flight :=
      ⟨id, r, port, allot port r.serviceName, w.acts env [], .returned (w.run env []).2⟩
    have hrun : History.after settings run = (History.opened settings).carriedOut f :=
      (History.sound_opened settings).foldl_moments rfl id hvalid allot env visits
    have hflights : (History.after settings run).flights = [f] := by
      rw [hrun]
      rfl
    rw [History.after_append hidle run, hstates, (History.sound_after settings run).states_eq,
      hflights, List.flatMap_singleton]
    exact ⟨congrArg (before.flights ++ ·) hflights, rfl⟩

/-- A run that was given up when its first cluster was created, and another one behind it. -/
theorem begins_afresh_of_abandoned :
    let r : Request := { clientPort := some 9092, nodes := ["node"] }
    let allot : Allotter := fun _ _ => default
    let created := Workflow.answering (.ok "zk") (.ok .unknown)
    let refused := Workflow.answering (.error (.timeout "zookeepers")) (.ok .unknown)
    let past := [.call 0 r allot, .reply 0 created, .abandon 0]
    let more := [.call 1 r allot, .reply 1 refused, .reply 1 refused]
    (History.after {} past).Idle ∧
      (History.after {} past).states = [.creating .coordinationService,
        .awaiting .coordinationService] ∧
      (History.after {} (past ++ more)).states = (History.after {} past).states ++
        [.creating .coordinationService, .failed .coordinationService] ∧
      (History.after {} (past ++ more)).flights =
        (History.after {} past).flights ++ (History.after {} more).flights := by
  intro r allot created refused past more
  have hidle : (History.after {} past).Idle := by
    intro f hf
    obtain rfl := List.mem_singleton.mp hf
    rfl
  obtain ⟨hflights, -, hstates, -⟩ := begins_afresh {} past more hidle
  exact ⟨hidle, rfl, hstates, hflights⟩

end Provisioning
