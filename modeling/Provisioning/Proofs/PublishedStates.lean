/-
**What is published, and what is done.**

A provisioner publishes how far it is, and this is all that most of its observers ever see: a
progress bar, a watchdog, a second caller who waits for the end of the first.  None of them looks at
the calls.  But the states are published by hand, between the calls, and nothing in the type of a
run keeps the two together: a state that is published too early, or not at all on one of the ways to
fail, makes every observer wait for something that has happened.

So the published state is tied to the run from both sides.  The states of a run are the beginning of
one fixed list, perhaps with a failure behind them, and at each call the latest state is the one
that belongs to the call, whatever the calls before it were answered.  Between two runs nothing is
published at all, so that what an observer finds there is how the last run ended, or where it was
given up.

Main definitions:

* `Run.milestones`, `Run.OnTrack` — **the states that a run publishes**;
* `Run.stateAt`, `Run.InStep` — the state that belongs to a call;
* `Run.Announced` — the acts of a run, as far as they are published;
* `History.states`, `History.Announced` — **what is published agrees with the runs**.

Main results:

* `Run.Course.announced` — every run publishes what it does;
* `published_states` — **all runs, of all callers, in all histories**.
-/

import Provisioning.Proofs.History

set_option relaxedAutoImplicit false
set_option autoImplicit false

namespace Provisioning

namespace Run

open Cluster (Kind Order Descriptor)
open Workflow (Act statesAmong statesAmong_append Throughout throughout_nil throughout_append_iff
  throughout_cons_iff throughout_of_forall filterMap_eq_nil_of_subset)

/-! ### The states of a run -/

/-- The states of a run that goes through all its stages. -/
def milestones : List ProvisioningState := [
  .creating .coordinationService, .awaiting .coordinationService,
  .creating .broker, .awaiting .broker,
  .creating .worker, .awaiting .worker,
  .complete]

/-- The states of the stages of some kinds. -/
def stageStates (kinds : List Kind) : List ProvisioningState :=
  kinds.flatMap fun kind => [.creating kind, .awaiting kind]

/-- The milestones are the states of all stages, and the end. -/
theorem milestones_eq : milestones = stageStates Kind.all ++ [.complete] := rfl

/-- **The states that a run publishes**: it goes from milestone to milestone, and if it fails then
at a state of the stage that fails. -/
inductive OnTrack : List ProvisioningState → Prop
  | going {states : List ProvisioningState} : states <+: milestones → OnTrack states
  | failed {states : List ProvisioningState} {last : ProvisioningState} {stage : Kind} :
      states ++ [last] <+: milestones → last = .creating stage ∨ last = .awaiting stage →
      OnTrack (states ++ [last] ++ [.failed stage])

/-- What a run has published on the way is on track, too. -/
theorem OnTrack.of_prefix {states more : List ProvisioningState} (h : OnTrack more)
    (hle : states <+: more) : OnTrack states := by
  cases h with
  | going h => exact OnTrack.going (hle.trans h)
  | failed h hlast =>
      rcases List.prefix_concat_iff.mp hle with rfl | hle
      · exact OnTrack.failed h hlast
      · exact OnTrack.going (hle.trans h)

theorem not_isTerminal_of_mem_stageStates {kinds : List Kind} {state : ProvisioningState}
    (h : state ∈ stageStates kinds) : state.isTerminal = false := by
  obtain ⟨kind, _, h⟩ := List.mem_flatMap.mp h
  rcases List.mem_cons.mp h with rfl | h
  · rfl
  · rw [List.mem_singleton.mp h]
    rfl

/-- In front of a milestone there is no terminal state. -/
theorem not_isTerminal_of_milestones {states : List ProvisioningState} {last : ProvisioningState}
    (h : states ++ [last] <+: milestones) {state : ProvisioningState} (hstate : state ∈ states) :
    state.isTerminal = false := by
  rw [milestones_eq] at h
  rcases List.prefix_concat_iff.mp h with h | h
  · obtain ⟨rfl, _⟩ := List.append_inj' h rfl
    exact not_isTerminal_of_mem_stageStates hstate
  · exact not_isTerminal_of_mem_stageStates (h.subset (List.mem_append_left _ hstate))

/-- **Nothing follows on a terminal state** in what one run publishes. -/
theorem OnTrack.nil_of_isTerminal {before after : List ProvisioningState}
    {state : ProvisioningState} (h : OnTrack (before ++ state :: after))
    (hstate : state.isTerminal = true) : after = [] := by
  rcases List.eq_nil_or_concat after with rfl | ⟨front, final, rfl⟩
  · rfl
  · -- Something follows on the state, so it is in front of a milestone, or of a failure.
    rw [List.concat_eq_append, ← List.cons_append, ← List.append_assoc] at h
    have hmem : state ∈ before ++ state :: front := List.mem_append_right _ List.mem_cons_self
    generalize before ++ state :: front = states at h hmem
    have hnot : state.isTerminal = false := by
      generalize hall : states ++ [final] = all at h
      cases h with
      | going h => exact not_isTerminal_of_milestones (hall ▸ h) hmem
      | failed h hlast =>
          obtain ⟨rfl, _⟩ := List.append_inj' hall rfl
          rcases List.mem_append.mp hmem with hmem | hmem
          · exact not_isTerminal_of_milestones h hmem
          · rcases hlast with rfl | rfl
            · rw [List.mem_singleton.mp hmem]
              rfl
            · rw [List.mem_singleton.mp hmem]
              rfl
    rw [hstate] at hnot
    cases hnot

/-! ### The states of the stages -/

@[simp] theorem statesAmong_wait {retries : Nat} (interval : UInt64) (cluster : String)
    (answers : Poll.Answers retries) : statesAmong (answers.acts interval cluster) = [] :=
  Poll.Answers.filterMap_acts_eq_nil (fun _ => rfl) rfl answers

@[simp] theorem statesAmong_opening (order : Order) (reply : Except Backend.CallError String) :
    statesAmong (opening order reply) = [.creating order.kind] := rfl

@[simp] theorem statesAmong_creation (settings : Settings) (order : Order) (name : String)
    (answers : Poll.Answers settings.polling.maxRetries.toNat) :
    statesAmong (creation settings order name answers) =
      [.creating order.kind, .awaiting order.kind] := by
  simp [creation]

@[simp] theorem statesAmong_aborting (stage : Kind) (created : List Descriptor) :
    statesAmong (aborting stage created) = [.failed stage] := rfl

/-- The states of a run that fails at a stage, from the kinds on that were left. -/
def FailsOn (kinds : List Kind) (states : List ProvisioningState) (stage : Kind) : Prop :=
  ∃ before last, states = before ++ [last] ++ [.failed stage] ∧
    before ++ [last] <+: stageStates kinds ∧ (last = .creating stage ∨ last = .awaiting stage)

/-- A stage that fails does so at one of its two states. -/
theorem Stage.failsOn {settings : Settings} {earlier : List StageReport} {order : Order}
    {acts : List Act} {f : Failure} (h : Stage settings earlier order acts (.error f))
    (kinds : List Kind) : FailsOn (order.kind :: kinds) (statesAmong acts) f.stage := by
  cases h with
  | refused e =>
      refine ⟨[], .creating order.kind, by simp, ?_, .inl rfl⟩
      exact List.prefix_append [_] _
  | unready name answers _ _ =>
      refine ⟨[.creating order.kind], .awaiting order.kind, by simp, ?_, .inr rfl⟩
      exact List.prefix_append [_, _] _

/-- The stages that are passed are published one behind the other. -/
theorem Stages.statesAmong_eq {settings : Settings} {r : Request} {port : UInt16} {a : Allotment}
    {earlier reports : List StageReport} {acts : List Act} {kinds : List Kind}
    (h : Stages settings (nextOrder r port a) earlier acts (.ok reports))
    (hkinds : (clusters earlier).map (·.kind) ++ kinds = Kind.all) :
    statesAmong acts = stageStates kinds := by
  generalize hresult : Except.ok reports = result at h
  induction h generalizing kinds with
  | complete hnext =>
      obtain rfl := kinds_of_nextOrder_none hkinds hnext
      rfl
  | failed _ _ => cases hresult
  | passed hnext hstage _ ih =>
      obtain ⟨rest, rfl⟩ := kinds_of_nextOrder hkinds hnext
      cases hstage with
      | passed name answers _ =>
          rw [statesAmong_append, ih (kinds_concat hkinds rfl) hresult, statesAmong_creation]
          rfl

/-- The stages in front of a failure are published one behind the other, and then the failure. -/
theorem Stages.failsOn {settings : Settings} {r : Request} {port : UInt16} {a : Allotment}
    {earlier : List StageReport} {acts : List Act} {f : Failure} {kinds : List Kind}
    (h : Stages settings (nextOrder r port a) earlier acts (.error f))
    (hkinds : (clusters earlier).map (·.kind) ++ kinds = Kind.all) :
    FailsOn kinds (statesAmong acts) f.stage := by
  generalize hresult : Except.error f = result at h
  induction h generalizing kinds with
  | complete _ => cases hresult
  | failed hnext hstage =>
      obtain rfl := Except.error.inj hresult
      obtain ⟨rest, rfl⟩ := kinds_of_nextOrder hkinds hnext
      exact hstage.failsOn rest
  | @passed _ order _ _ _ _ hnext hstage _ ih =>
      obtain ⟨rest, rfl⟩ := kinds_of_nextOrder hkinds hnext
      cases hstage with
      | passed name answers _ =>
          obtain ⟨before, last, hstates, hle, hlast⟩ := ih (kinds_concat hkinds rfl) hresult
          refine ⟨.creating order.kind :: .awaiting order.kind :: before, last, ?_, ?_, hlast⟩
          · rw [statesAmong_append, hstates, statesAmong_creation]
            rfl
          · exact (List.prefix_append_right_inj [_, _]).mpr hle

/-! ### The state of a call -/

/-- The stage that an act begins. -/
def begunBy? : Act → Option Kind
  | .answered (.create order) _ => some order.kind
  | _ => none

/-- The stage that is under way after some acts: that of the last create call. -/
def stageAfter (acts : List Act) : Option Kind := (acts.filterMap begunBy?).getLast?

/-- **The state that belongs to a call** in a stage. -/
def stateAt (stage : Option Kind) : Call → Option ProvisioningState
  | .create order => some (.creating order.kind)
  | .status _ | .sleep _ => stage.map .awaiting
  | .compensate stage _ => some (.failed stage)

/-- **At a call** the latest state that was published is the one that belongs to it. -/
def InStep (before : List Act) : Act → Prop
  | .published _ => True
  | .answered call _ => ∃ state, stateAt (stageAfter before) call = some state ∧
      (statesAmong before).getLast? = some state

/-- During a wait the state is that of the stage, and it stays so. -/
theorem inStep_wait {kind : Kind} {before : List Act} (hstage : stageAfter before = some kind)
    (hstate : (statesAmong before).getLast? = some (.awaiting kind)) {retries : Nat}
    (interval : UInt64) (cluster : String) (answers : Poll.Answers retries) :
    Throughout (fun more => InStep (before ++ more)) (answers.acts interval cluster) := by
  refine throughout_of_forall fun more act hmore hact => ?_
  have hstates : statesAmong more = [] :=
    filterMap_eq_nil_of_subset (statesAmong_wait interval cluster answers) hmore
  have hbegun : more.filterMap begunBy? = [] :=
    filterMap_eq_nil_of_subset
      (Poll.Answers.filterMap_acts_eq_nil (fun _ => rfl) rfl answers) hmore
  have hstage : stageAfter (before ++ more) = some kind := by
    rw [stageAfter, List.filterMap_append, hbegun, List.append_nil]
    exact hstage
  have hstate : (statesAmong (before ++ more)).getLast? = some (.awaiting kind) := by
    rw [statesAmong_append, hstates, List.append_nil]
    exact hstate
  rcases Poll.Answers.eq_of_mem_acts hact with ⟨reply, rfl⟩ | rfl
  · exact ⟨_, congrArg (Option.map _) hstage, hstate⟩
  · exact ⟨_, congrArg (Option.map _) hstage, hstate⟩

/-- What a stage begins with is in step, whatever was before. -/
theorem inStep_opening (before : List Act) (order : Order)
    (reply : Except Backend.CallError String) :
    Throughout (fun more => InStep (before ++ more)) (opening order reply) := by
  simp [opening, throughout_cons_iff, InStep, stateAt]

theorem inStep_creation (before : List Act) (settings : Settings) (order : Order) (name : String)
    (answers : Poll.Answers settings.polling.maxRetries.toNat) :
    Throughout (fun more => InStep (before ++ more)) (creation settings order name answers) := by
  rw [creation, throughout_append_iff, throughout_cons_iff]
  refine ⟨inStep_opening before order _, trivial, ?_⟩
  let asked : List Act :=
    before ++ (opening order (.ok name) ++ [.published (.awaiting order.kind)])
  have hstage : stageAfter asked = some order.kind := by
    rw [stageAfter, List.filterMap_append]
    exact List.getLast?_concat
  have hstate : (statesAmong asked).getLast? = some (.awaiting order.kind) := by
    rw [statesAmong_append, statesAmong_append, ← List.append_assoc]
    exact List.getLast?_concat
  simpa [asked, List.append_assoc] using
    inStep_wait hstage hstate settings.polling.interval name answers

theorem inStep_aborting (before : List Act) (stage : Kind) (created : List Descriptor) :
    Throughout (fun more => InStep (before ++ more)) (aborting stage created) := by
  simp [aborting, throughout_cons_iff, InStep, stateAt]

theorem Stage.inStep {settings : Settings} {earlier : List StageReport} {order : Order}
    {acts : List Act} {result : Except Failure StageReport}
    (h : Stage settings earlier order acts result) (before : List Act) :
    Throughout (fun more => InStep (before ++ more)) acts := by
  cases h with
  | refused e =>
      refine throughout_append_iff.mpr ⟨inStep_opening before order _, ?_⟩
      simpa [List.append_assoc] using inStep_aborting (before ++ opening order (.error e)) _ _
  | unready name answers _ _ =>
      refine throughout_append_iff.mpr ⟨inStep_creation before settings order name answers, ?_⟩
      simpa [List.append_assoc] using
        inStep_aborting (before ++ creation settings order name answers) _ _
  | passed name answers _ => exact inStep_creation before settings order name answers

/-- **The stages are in step**, whatever was before them. -/
theorem Stages.inStep {settings : Settings} {next : List StageReport → Option Order}
    {earlier : List StageReport} {acts : List Act} {result : Except Failure (List StageReport)}
    (h : Stages settings next earlier acts result) (before : List Act) :
    Throughout (fun more => InStep (before ++ more)) acts := by
  induction h generalizing before with
  | complete _ => exact throughout_nil
  | failed _ hstage => exact hstage.inStep before
  | @passed _ _ acts _ _ _ _ hstage _ ih =>
      refine throughout_append_iff.mpr ⟨hstage.inStep before, ?_⟩
      simpa [List.append_assoc] using ih (before ++ acts)

/-! ### Runs -/

/-- The state in which a run ends. -/
def finalState : Except Failure Workspace → ProvisioningState
  | .ok _ => .complete
  | .error f => .failed f.stage

/-- **A run publishes what it does.** -/
structure Announced (acts : List Act) (result : Except Failure Workspace) : Prop where
  on_track : OnTrack (statesAmong acts)
  in_step : Throughout InStep acts
  final : (statesAmong acts).getLast? = some (finalState result)

/-- **Every run publishes what it does.** -/
theorem Course.announced {settings : Settings} {r : Request} {port : UInt16} {a : Allotment}
    {acts : List Act} {result : Except Failure Workspace}
    (h : Course settings r port a acts result) : Announced acts result := by
  cases h with
  | failed h =>
      obtain ⟨before, last, hstates, hle, hlast⟩ := h.failsOn rfl
      refine ⟨?_, h.inStep [], ?_⟩
      · rw [hstates]
        exact OnTrack.failed (hle.trans (List.prefix_append _ _)) hlast
      · rw [hstates]
        exact List.getLast?_concat
  | @complete acts _ _ _ h =>
      have hstates : statesAmong (acts ++ [.published .complete]) = milestones := by
        rw [statesAmong_append, h.statesAmong_eq rfl]
        rfl
      refine ⟨?_, ?_, ?_⟩
      · rw [hstates]
        exact OnTrack.going (List.prefix_refl _)
      · rw [throughout_append_iff, throughout_cons_iff]
        exact ⟨h.inStep [], trivial, throughout_nil⟩
      · rw [hstates]
        rfl

end Run

/-! ### Histories -/

open Run (Settings OnTrack InStep stateAt stageAfter finalState)
open Workflow (Act Event Suspended statesAmong remarkActs Throughout throughout_append_iff
  throughout_cons_iff)

/-- The states that a run has published. -/
def Flight.states (f : Flight) : List ProvisioningState := statesAmong f.acts

theorem Flight.states_goneOn (f : Flight) (call : Call) (answer : call.Answer)
    (o : Session.Outcome) :
    (f.goneOn call answer o).states = f.states ++ statesAmong (remarkActs o.remarks) :=
  Workflow.statesAmong_append _ _

/-- The state that an event publishes. -/
def Workflow.Event.state? : Event → Option ProvisioningState
  | .published state => some state
  | _ => none

/-- **The states that were published** in a history, as they were seen. -/
def History.states (h : History) : List ProvisioningState := h.log.filterMap (·.2.state?)

/-- The last of some states, unless there are none. -/
theorem lastPublished_eq (before : ProvisioningState) (acts : List Act) :
    lastPublished before acts = (statesAmong acts).getLast?.getD before := by
  induction acts generalizing before with
  | nil => rfl
  | cons act acts ih =>
      cases act with
      | published state =>
          rw [Workflow.statesAmong_published, List.getLast?_cons, Option.getD_some]
          exact ih state
      | answered call answer => exact ih before

/-- What an event tells of an act is the state that it publishes. -/
theorem state?_event (act : Act) : act.event.state? = act.state? := by
  cases act with
  | published state => rfl
  | answered call answer => rfl

/-- The states among what is seen of acts, and of calls that have no answer yet. -/
theorem filterMap_state?_events (acts : List Act) (calls : List Call) :
    (acts.map Act.event ++ calls.map Event.called).filterMap Event.state? = statesAmong acts := by
  have hacts : (acts.map Act.event).filterMap Event.state? = statesAmong acts := by
    rw [List.filterMap_map]
    exact congrArg (List.filterMap · acts) (funext state?_event)
  have hopen : (calls.map Event.called).filterMap Event.state? = [] := by
    refine List.filterMap_eq_nil_iff.mpr fun event hevent => ?_
    obtain ⟨call, _, rfl⟩ := List.mem_map.mp hevent
    rfl
  rw [List.filterMap_append, hacts, hopen, List.append_nil]

theorem states_block (f : Flight) : f.block.filterMap (·.2.state?) = f.states := by
  rw [Flight.block, List.filterMap_map]
  exact filterMap_state?_events f.acts f.standing.openCall?.toList

namespace History

variable {settings : Settings} {h : History}

/-- Only runs publish states, one run behind the other. -/
theorem Sound.states_eq (hsound : h.Sound settings) :
    h.states = h.flights.flatMap Flight.states := by
  rw [states, hsound.log_eq, List.filterMap_flatMap]
  exact congrArg (List.flatMap · h.flights) (funext states_block)

/-- The published state is the last one that was published. -/
theorem Sound.state_eq_getLast? (hsound : h.Sound settings) :
    h.session.state = h.states.getLast?.getD .idle := by
  rw [hsound.state_eq, lastPublished_eq, hsound.states_eq, statesAmong, List.filterMap_flatMap]
  rfl

/-- The published state is the last one of the run that began last. -/
theorem Sound.state_of_last (hsound : h.Sound settings) {past : List Flight} {f : Flight}
    (hflights : h.flights = past ++ [f]) {state : ProvisioningState}
    (hstate : f.states.getLast? = some state) : h.session.state = state := by
  rw [hsound.state_eq_getLast?, hsound.states_eq, hflights, List.flatMap_append,
    List.flatMap_singleton, List.getLast?_append, hstate]
  rfl

end History

/-- A run is on track and in step, whether it is over or not. -/
theorem Flight.Faithful.on_track {settings : Settings} {f : Flight} (hf : f.Faithful settings) :
    OnTrack f.states ∧ Throughout InStep f.acts := by
  obtain ⟨more, result, hcourse, _⟩ := hf.exists_course
  obtain ⟨htrack, hstep, _⟩ := hcourse.announced
  rw [Workflow.statesAmong_append] at htrack
  exact ⟨htrack.of_prefix (List.prefix_append _ _), (throughout_append_iff.mp hstep).1⟩

/-- **At its open call** the state of a run is the one that belongs to the call. -/
theorem Flight.Faithful.in_step {settings : Settings} {f : Flight} (hf : f.Faithful settings)
    {call : Call} (hcall : f.standing.openCall? = some call) :
    ∃ state, stateAt (stageAfter f.acts) call = some state ∧
      f.states.getLast? = some state := by
  obtain ⟨more, result, hcourse, hmore⟩ := hf.exists_course
  obtain ⟨answer, rest, rfl⟩ : ∃ answer rest, more = .answered call answer :: rest := by
    cases hs : f.standing with
    | returned answer => simp [hs, Standing.openCall?] at hcall
    | waiting other =>
        obtain rfl : other = call := by simpa [hs, Standing.openCall?] using hcall
        simpa [hs] using hmore
    | abandoned other =>
        obtain rfl : other = call := by simpa [hs, Standing.openCall?] using hcall
        simpa [hs] using hmore
  exact hcourse.announced.in_step f.acts _ rest rfl

/-- When a run has returned, its last state is that of its result. -/
theorem Flight.Faithful.final {settings : Settings} {f : Flight} (hf : f.Faithful settings)
    {answer : Answer} (hstanding : f.standing = .returned answer) :
    ∃ result, answer = answerOf result ∧ f.states.getLast? = some (finalState result) := by
  obtain ⟨result, hcourse, hanswer⟩ := hf.course_of_returned hstanding
  exact ⟨result, hanswer, hcourse.announced.final⟩

/-! ### The theorem -/

/-- The state in which an answer leaves the provisioner, when a run has returned it. -/
structure Answer.Settled (answer : Answer) (state : ProvisioningState) : Prop where
  complete_iff : state = .complete ↔ ∃ workspace, answer = .ok workspace
  failed_iff (stage : Cluster.Kind) :
    state = .failed stage ↔ ∃ f, answer = .error (.stage f) ∧ f.stage = stage
  /-- No run returns that it was refused. -/
  not_refused : answer ≠ .error .busy ∧ ∀ reason, answer ≠ .error (.invalid reason)

theorem settled_answerOf (result : Except Run.Failure Run.Workspace) :
    (answerOf result).Settled (finalState result) := by
  cases result with
  | ok workspace => exact ⟨by simp [finalState], by simp [finalState], by simp⟩
  | error f => exact ⟨by simp [finalState], by simp [finalState], by simp⟩

/-- **What is published agrees with the runs**, as it can be seen in a history. -/
structure History.Announced (h : History) : Prop where
  /-- The state is the last one that was published, and it is idle before. -/
  state_eq : h.session.state = h.states.getLast?.getD .idle
  /-- Only runs publish states, one run behind the other. -/
  states_eq : h.states = h.flights.flatMap Flight.states
  on_track : ∀ f ∈ h.flights, OnTrack f.states
  /-- At each call that was answered, the state was that of the call. -/
  in_step : ∀ f ∈ h.flights, Throughout InStep f.acts
  /-- At the call that waits for an answer, the state is that of the call. -/
  at_call : ∀ f ∈ h.flights, ∀ call, f.standing = .waiting call →
    stateAt (stageAfter f.acts) call = some h.session.state
  /-- When a run returns, the state is that of its answer. -/
  returned (id : CallerId) (reply : (call : Call) → call.Answer) (o : Session.Outcome)
    (answer : Answer) : (h.session.reply id reply).1 = some o → o.reached = .inl answer →
      answer.Settled (h.session.reply id reply).2.state
  /-- A caller who is answered at once was refused, and the state is as before. -/
  refused (id : CallerId) (r : Request) (allot : Allotter) (answer : Answer) :
    (h.session.call id r allot).1.reached = .inl answer →
      (answer = .error .busy ∨ ∃ reason, answer = .error (.invalid reason)) ∧
        (h.session.call id r allot).2.state = h.session.state
  /-- A call publishes nothing just if it is refused. -/
  unchanged_iff (id : CallerId) (r : Request) (allot : Allotter) :
    (h.step (.call id r allot)).states = h.states ↔
      (h.session.call id r allot).1.reached = .inl (.error .busy) ∨
        ∃ reason, (h.session.call id r allot).1.reached = .inl (.error (.invalid reason))
  /-- From a terminal state, and from the state that was left where no run is under way, only the
  beginning of a run is published. -/
  leaving (moment : Moment) :
    h.session.state.isTerminal = true ∨ (∀ f ∈ h.flights, f.inFlight = false) →
      (h.step moment).states = h.states ∨ ∃ rest,
        (h.step moment).states = h.states ++ .creating .coordinationService :: rest

namespace History

variable {settings : Settings} {h : History}

theorem Sound.at_call (hsound : h.Sound settings) {f : Flight} (hf : f ∈ h.flights) {call : Call}
    (hstanding : f.standing = .waiting call) :
    f.states.getLast? = some h.session.state ∧
      stateAt (stageAfter f.acts) call = some h.session.state := by
  have hflight : f.inFlight = true := by rw [Flight.inFlight, hstanding]
  obtain ⟨past, waiting, hheld⟩ := hsound.held_of_inFlight hf hflight
  obtain ⟨state, hstate, hlast⟩ := (hsound.faithful f hf).in_step
    (by rw [hstanding]; rfl : f.standing.openCall? = some call)
  rw [hsound.state_of_last hheld.flights_eq hlast]
  exact ⟨hlast, hstate⟩

/-- When a run returns, the state is that of its answer. -/
theorem Sound.settled_of_returned (hsound : h.Sound settings) {id : CallerId}
    {reply : (call : Call) → call.Answer} {o : Session.Outcome} {answer : Answer}
    (hreply : (h.session.reply id reply).1 = some o) (hreached : o.reached = .inl answer) :
    answer.Settled (h.session.reply id reply).2.state := by
  rcases hsound.waiting_cases id with ⟨hnone, _⟩ | ⟨past, f, waiting, hheld, rfl⟩
  · simp [Session.reply, hnone] at hreply
  · have hsound' := hsound.step_reply_of_held hheld reply
    have hsession :
        (h.session.reply f.caller reply).2 = (h.step (.reply f.caller reply)).session := by
      rw [hheld.step_reply reply]
      simp [Session.reply, Session.waiting?, hheld.suspended_eq]
    obtain rfl : (h.session.proceed f.caller (waiting.resume (reply waiting.call))).1 = o := by
      simpa [Session.reply, Session.waiting?, hheld.suspended_eq] using hreply
    have hflights := hheld.flights_step_reply reply
    have hfaithful := hsound'.faithful_of_last hflights
    obtain ⟨result, rfl, hlast⟩ := hfaithful.final (congrArg Standing.ofReached hreached)
    rw [hsession, hsound'.state_of_last hflights hlast]
    exact settled_answerOf result

/-- A run that begins publishes its first state. -/
theorem states_step_call {h : History} (hfree : h.session.held = false) (id : CallerId)
    {r : Request} {port : UInt16} (hvalid : r.validate = .ok port) (allot : Allotter) :
    (h.step (.call id r allot)).states = h.states ++ [.creating .coordinationService] := by
  rw [step_call_of_not_held hfree id hvalid allot, states, List.filterMap_append, states_block]
  rfl

/-- At a terminal state a run publishes nothing more. -/
theorem Sound.states_step_reply (hsound : h.Sound settings)
    (hterminal : h.session.state.isTerminal = true) {past : List Flight} {f : Flight}
    {waiting : Suspended Answer} (hheld : h.Held past f waiting)
    (reply : (call : Call) → call.Answer) :
    (h.step (.reply f.caller reply)).states = h.states := by
  have hsound' := hsound.step_reply_of_held hheld reply
  have hflights := hheld.flights_step_reply reply
  have hfaithful := hsound'.faithful_of_last hflights
  obtain ⟨hlast, _⟩ := hsound.at_call hheld.mem hheld.waits
  obtain ⟨before, hbefore⟩ := List.getLast?_eq_some_iff.mp hlast
  -- What is published now stands behind a terminal state of the same run.
  have htrack := hfaithful.on_track.1
  rw [Flight.states_goneOn, hbefore, List.append_assoc, List.singleton_append] at htrack
  rw [hsound'.states_eq, hsound.states_eq, hflights, hheld.flights_eq, List.flatMap_append,
    List.flatMap_append, List.flatMap_singleton, List.flatMap_singleton, Flight.states_goneOn,
    htrack.nil_of_isTerminal hterminal, List.append_nil]

/-- The invariant says that what is published agrees with the runs. -/
theorem Sound.announced (hsound : h.Sound settings) : h.Announced where
  state_eq := hsound.state_eq_getLast?
  states_eq := hsound.states_eq
  on_track f hf := (hsound.faithful f hf).on_track.1
  in_step f hf := (hsound.faithful f hf).on_track.2
  at_call f hf call hstanding := (hsound.at_call hf hstanding).2
  returned id reply o answer := hsound.settled_of_returned
  refused id r allot answer hreached := by
    cases hrefusal : h.session.refusal? r with
    | some failure =>
        rw [Session.call_of_refusal hrefusal] at hreached ⊢
        obtain rfl := Sum.inl.inj hreached
        rcases Session.eq_of_refusal hrefusal with rfl | ⟨reason, rfl⟩
        · exact ⟨.inl rfl, rfl⟩
        · exact ⟨.inr ⟨reason, rfl⟩, rfl⟩
    | none =>
        obtain ⟨hfree, port, hvalid⟩ := Session.refusal?_eq_none_iff.mp hrefusal
        rw [Session.call_of_not_held hfree id hvalid, Session.proceed_provisioning] at hreached
        cases hreached
  unchanged_iff id r allot := by
    cases hrefusal : h.session.refusal? r with
    | some failure =>
        rw [step_call_of_refusal hrefusal, Session.call_of_refusal hrefusal]
        rcases Session.eq_of_refusal hrefusal with rfl | ⟨reason, rfl⟩
        · exact ⟨fun _ => .inl rfl, fun _ => rfl⟩
        · exact ⟨fun _ => .inr ⟨reason, rfl⟩, fun _ => rfl⟩
    | none =>
        obtain ⟨hfree, port, hvalid⟩ := Session.refusal?_eq_none_iff.mp hrefusal
        rw [states_step_call hfree id hvalid, Session.call_of_not_held hfree id hvalid,
          Session.proceed_provisioning]
        simp
  leaving moment hstate := by
    cases moment with
    | call id r allot =>
        cases hrefusal : h.session.refusal? r with
        | some failure => exact .inl (by rw [step_call_of_refusal hrefusal])
        | none =>
            obtain ⟨hfree, port, hvalid⟩ := Session.refusal?_eq_none_iff.mp hrefusal
            exact .inr ⟨[], states_step_call hfree id hvalid allot⟩
    | reply id reply =>
        rcases hsound.waiting_cases id with ⟨hnone, hflights⟩ | ⟨past, f, waiting, hheld, rfl⟩
        · exact .inl (by rw [(step_of_not_waiting hnone reply hflights).1])
        · rcases hstate with hterminal | hnone
          · exact .inl (hsound.states_step_reply hterminal hheld reply)
          · have hflight := hnone f hheld.mem
            rw [Flight.inFlight, hheld.waits] at hflight
            cases hflight
    | abandon id => exact .inl rfl

end History

/-- **All that is ever published.**  A run with any environment, whose answers may depend on
everything before, publishes what it does; and in every history what is published agrees with the
runs, whoever called, was refused or gave up. -/
theorem published_states (settings : Settings) :
    (∀ (r : Request) (port : UInt16) (a : Allotment) (env : Workflow.Environment),
      let w := Run.workflow settings r port a
      Run.Announced (w.acts env []) (w.run env []).2) ∧
    ∀ moments : List Moment, (History.after settings moments).Announced := by
  constructor
  · intro r port a env w
    exact (Run.ends_workflow_iff.mp (Workflow.ends_acts env w [])).announced
  · intro moments
    exact (History.sound_after settings moments).announced

end Provisioning
