/-
**A run keeps to its plan.**

A dry run shows a plan, and nothing ties the run to it but that both begin with the same arguments.
The plan cleans the wished name, and the allocator cleans it again; the plan counts the questions by
an addition, and the wait counts them one by one.  What the plan says can therefore be wrong without
anybody noticing, until a worker has another name than the one that was shown, or a cluster is given
up before its time.

Here the sheet that is read from a plan is held against everything that the run can do: the bodies
that are sent, for every backend and for every stream of draws, and the calls stage by stage, with
the pauses between them.

Main definitions:

* `Run.Staged` — **calls that go stage by stage**, with a number of questions and a pause;
* `Program.World.Refuses` — a provisioning ends in a validation error;
* `Program.KeepsTo` — **a run keeps to its plan**.

Main results:

* `Run.Shape.staged` — every run goes stage by stage;
* `Allotment.claim?_of_draw?` — how the name of a worker is found;
* `Program.World.slept_provision` — a provisioning sleeps as its calls say;
* `Program.planned_run` — **the plan and the run**.
-/

import Provisioning.Proofs.Distinct
import Provisioning.Proofs.ExactWait
import Provisioning.Proofs.Executions
import Provisioning.Proofs.NonemptyNames
import Provisioning.Proofs.PlanSheet

set_option relaxedAutoImplicit false
set_option autoImplicit false

namespace Provisioning

/-! ### The name of the worker -/

/-- A scan that finds a name has used a draw. -/
theorem length_lt_of_scanName? {free : String → Bool} {built : List Char} {name : String}
    {draws rest : List UInt64} (h : scanName? free built draws = some (name, rest)) :
    rest.length < draws.length := by
  induction draws generalizing built with
  | nil => cases h
  | cons draw draws ih =>
      rw [List.length_cons]
      cases hdraw : nameChar? draw with
      | none =>
          rw [scanName?_cons_of_none hdraw] at h
          exact Nat.lt_succ_of_lt (ih h)
      | some c =>
          rw [scanName?_cons_of_some hdraw] at h
          split at h
          · exact Nat.lt_succ_of_lt (ih h)
          · split at h
            · obtain ⟨-, rfl⟩ := Prod.mk.inj (Option.some.inj h)
              exact Nat.lt_succ_self _
            · exact Nat.lt_succ_of_lt (ih h)

/-- A fresh name takes a draw. -/
theorem Allocator.draws_ne_of_name? {a after : Allocator} {name : String}
    (h : a.name? = some (name, after)) : after.draws ≠ a.draws := by
  obtain ⟨⟨found, rest⟩, hscan, hfound⟩ := Option.map_eq_some_iff.mp h
  obtain ⟨rfl, rfl⟩ := Prod.mk.inj hfound
  intro hsame
  have hlt := length_lt_of_scanName? hscan
  rw [show rest = a.draws from hsame] at hlt
  exact Nat.lt_irrefl _ hlt

/-- **How the name of a worker is found**: by the first request to a new allocator.  Just if nothing
of the wish is accepted, it is generated, and takes draws. -/
theorem Allotment.claim?_of_draw? {clientPort : UInt16} {wish : String} {draws : List UInt64}
    {a : Allotment} (h : draw? clientPort wish draws = some a) :
    ∃ after, Allocator.claim? (ServiceName.sanitize wish) { clientPort, draws } =
        some (a.workerName, after) ∧
      (ServiceName.sanitize wish = "" ↔ after.draws ≠ draws) := by
  obtain ⟨⟨_, last⟩, hrun, rfl⟩ := Option.map_eq_some_iff.mp h
  simp only [ofAllocator?, Allocator.run_bind_eq_some_iff, Prod.exists] at hrun
  obtain ⟨worker, after, hworker, _, _, -, _, _, -, _, _, -, _, _, -, _, _, -, _, _, -, _, _, -,
    hlast⟩ := hrun
  obtain ⟨rfl, -⟩ := Prod.mk.inj (Option.some.inj hlast)
  refine ⟨after, hworker, ?_⟩
  rcases Allocator.claim?_spec hworker with ⟨hne, -, -, rfl⟩ | ⟨hempty | htaken, hname⟩
  · exact ⟨fun hempty => absurd hempty hne, fun hdraws => absurd rfl hdraws⟩
  · exact ⟨fun _ => Allocator.draws_ne_of_name? hname, fun _ => hempty⟩
  · cases htaken

/-! ### Stage by stage -/

namespace Run

open Cluster (Kind Order Descriptor)
open Poll (asking)
open Workflow (Talk)

/-- **Calls that go stage by stage**: a cluster is created, and then, unless this has failed, asked
for at most `checks` times, with a pause of `interval` between two questions.  A compensation can
only be the last call. -/
inductive Staged (interval : UInt64) (checks : Nat) : List Call → Prop
  | done : Staged interval checks []
  | compensated (stage : Kind) (created : List Descriptor) :
      Staged interval checks [.compensate stage created]
  | refused {rest : List Call} (order : Order) : Staged interval checks rest →
      Staged interval checks (.create order :: rest)
  | waited {rest : List Call} (order : Order) (cluster : String) {k : Nat} : k < checks →
      Staged interval checks rest →
      Staged interval checks (.create order :: (asking interval cluster k ++ rest))

/-- **Every run goes stage by stage.** -/
theorem Shape.staged {settings : Settings} {kinds : List Kind} {talks : List Talk}
    (h : Shape settings kinds talks) : Staged settings.polling.interval
      (settings.polling.maxRetries.toNat + 1) (talks.map (·.1)) := by
  induction h with
  | done => exact Staged.done
  | @refused kind kinds order e created _ =>
      exact Staged.refused order (Staged.compensated kind created)
  | @unready kind kinds order name answers created _ _ _ =>
      rw [List.map_cons, List.map_append, answers.map_fst_talks]
      exact Staged.waited order name answers.questions_le (Staged.compensated kind created)
  | @passed kind kinds order rest name answers _ _ _ ih =>
      rw [List.map_cons, List.map_append, answers.map_fst_talks]
      exact Staged.waited order name answers.questions_le ih

end Run

namespace Program

open Backend (Client Planned CallError HttpRequest)
open Report (Sheet sheet)
open Workflow (Event Talk talks)

/-! ### Pauses -/

/-- The pause of a call. -/
def pause? : Call → Option UInt64
  | .sleep ms => some ms
  | _ => none

/-- The pauses among calls. -/
def pauses (calls : List Talk) : List UInt64 := calls.filterMap fun talk => pause? talk.1

theorem pauses_eq (calls : List Talk) : pauses calls = (calls.map (·.1)).filterMap pause? := by
  rw [List.filterMap_map]
  rfl

namespace World

variable (w : World) (filter : Notice.Filter) (run : Option RunId)

/-- The client sleeps over a pause only. -/
theorem slept_after (c : Client) (t : Transcript) (event : Event) :
    (w.after filter run c t event).slept = t.slept ++ (event.call?.bind pause?).toList := by
  cases event with
  | published state => exact (List.append_nil _).symm
  | noted n => exact (w.slept_noted filter run t n).trans (List.append_nil _).symm
  | called call =>
      cases call with
      | create o =>
          exact (w.slept_foldl_noted filter run _ _).trans
            ((w.slept_noted filter run t _).trans (List.append_nil _).symm)
      | status cluster =>
          exact (w.slept_foldl_noted filter run _ _).trans (List.append_nil _).symm
      | sleep ms => rfl
      | compensate stage created =>
          exact (w.slept_foldl_noted filter run _ _).trans (List.append_nil _).symm

/-- **A run sleeps as its events say.** -/
theorem slept_events (c : Client) (t : Transcript) (events : List Event) :
    (events.foldl (w.after filter run c) t).slept =
      t.slept ++ events.filterMap fun event => event.call?.bind pause? := by
  induction events generalizing t with
  | nil => exact (List.append_nil _).symm
  | cons event rest ih =>
      rw [List.foldl_cons, ih, slept_after, List.append_assoc]
      cases h : event.call?.bind pause? with
      | none => simp [h]
      | some ms => simp [h]

variable (c : Config) (a : CommandLine.ProvisionArguments) {port : UInt16}

/-- **A provisioning sleeps as its calls say.** -/
theorem slept_provision (hreal : a.dryRun = false)
    (hvalid : a.request.toRequest.validate = .ok port) :
    ((execute w.system filter c (.provision a)).run {}).2.slept = pauses (w.calls c a port) := by
  have hcalls := Workflow.run_calls ((Client.ofConfig c).environment w.backend)
    (w.workflow c a port) []
  obtain ⟨-, -, hslept, -⟩ := w.execute_provision filter c a hreal hvalid
  rw [hslept, pauses_eq, done, afterRun, slept_events, begun, slept_noted, List.nil_append,
    ← List.filterMap_filterMap, ended, hcalls]
  rfl

/-! ### Validation errors -/

/-- **A provisioning ends in a validation error**: the request is refused, before the run or in
it. -/
def Refuses : Prop := ∃ reason,
  ((provision w.system filter c a).run {}).1 = .error (.request reason) ∨
    ((provision w.system filter c a).run {}).1 = .error (.provisioning (.invalid reason))

/-- A valid request is not refused. -/
theorem not_refuses_of_valid (hvalid : a.request.toRequest.validate = .ok port) :
    ¬ w.Refuses filter c a := by
  rintro ⟨reason, hrefused⟩
  obtain ⟨result, -, hresult⟩ := w.exists_course_ended c a port
  rw [(w.provision_eq filter c a hvalid {} rfl).1, hresult] at hrefused
  cases result with
  | ok workspace => exact hrefused.elim nofun nofun
  | error f => exact hrefused.elim nofun nofun

/-- One that is not valid is refused. -/
theorem refuses_of_invalid {reason : Request.Invalid}
    (hinvalid : a.request.toRequest.validate = .error reason) : w.Refuses filter c a := by
  refine ⟨reason, .inl ?_⟩
  rw [provision, hinvalid]
  rfl

end World

/-! ### The run -/

/-- **The worker is called as it is shown**: by the name on its line, and by a generated one just if
the line has none. -/
structure NamedAsShown (s : Sheet) (port : UInt16) (wish : String) (draws : List UInt64)
    (order : Cluster.Order) : Prop where
  body : order.json.member? "name" = some (.string order.name)
  shown : ∀ name, s.worker = some name → order.name = name
  generated : s.worker = none → ServiceName.Generated order.name
  /-- A name is generated if the request for it takes draws. -/
  generated_iff : s.worker = none ↔ ∃ after,
    Allocator.claim? (ServiceName.sanitize wish) { clientPort := port, draws } =
      some (order.name, after) ∧ after.draws ≠ draws

/-- **A run keeps to its plan**: the calls of a provisioning that is executed with a configuration,
for a client port, a wished name and some draws. -/
structure KeepsTo (s : Sheet) (c : Config) (port : UInt16) (wish : String) (draws : List UInt64)
    (calls : List Talk) (real : Transcript) : Prop where
  /-- All that is sent is sent for the calls, in their order. -/
  requests_eq : real.requests = (calls.map (·.1)).filterMap (Client.ofConfig c).request?
  /-- Only orders are sent in bodies. -/
  bodies : ∀ request ∈ real.requests, ∀ body, request.body = some body →
    ∃ order ∈ Run.ordersAmong calls, body = order.json
  clientPort : ∀ order ∈ Run.ordersAmong calls,
    order.json.member? "clientPort" = some (.natural s.clientPort)
  nodes : ∀ order ∈ Run.ordersAmong calls,
    order.json.member? "nodeNames" = some (.strings s.nodes)
  worker : ∀ order ∈ Run.ordersAmong calls, order.kind = .worker →
    NamedAsShown s port wish draws order
  /-- Each cluster is asked for as often as is shown at most, with the pause that is shown. -/
  staged : ∃ interval : UInt64, interval.toNat = s.interval ∧
    Run.Staged interval s.checks (calls.map (·.1))
  slept_eq : real.slept = pauses calls

/-- The worker of a run is called as its sheet shows. -/
theorem namedAsShown_sheet {r : Request} {c : Config} {port : UInt16} {draws : List UInt64}
    {a : Allotment} (hdraw : Allotment.draw? port r.serviceName draws = some a)
    {order : Cluster.Order} (hname : order.name = a.workerName) :
    NamedAsShown (sheet r c port) port r.serviceName draws order := by
  have hclear := Allotment.clear_of_draw? hdraw
  obtain ⟨after, hclaim, hgenerated⟩ := Allotment.claim?_of_draw? hdraw
  refine ⟨(Run.body_eq order).1, fun name hshown => ?_, fun hnone => ?_, ?_⟩
  · obtain ⟨hne, rfl⟩ := Report.worker_sheet_eq_some_iff.mp hshown
    exact hname.trans (hclear.worker_eq hne)
  · rw [hname]
    exact hclear.worker_generated (Report.worker_sheet_eq_none_iff.mp hnone)
  · rw [Report.worker_sheet_eq_none_iff, hgenerated, hname, hclaim]
    constructor
    · exact fun hdraws => ⟨after, rfl, hdraws⟩
    · rintro ⟨other, hother, hdraws⟩
      obtain ⟨-, rfl⟩ := Prod.mk.inj (Option.some.inj hother)
      exact hdraws

/-- **Every run keeps to the sheet of its request.** -/
theorem World.keepsTo (w : World) (filter : Notice.Filter) (c : Config)
    (a : CommandLine.ProvisionArguments) {port : UInt16} {draws : List UInt64}
    (hreal : a.dryRun = false) (hvalid : a.request.toRequest.validate = .ok port)
    (hdraw : Allotment.draw? port a.request.toRequest.serviceName draws =
      some (w.allotment port a.request.toRequest.serviceName)) :
    KeepsTo (sheet a.request.toRequest c port) c port a.request.toRequest.serviceName draws
      (w.calls c a port) ((execute w.system filter c (.provision a)).run {}).2 := by
  let client := Client.ofConfig c
  obtain ⟨result, hcourse, -⟩ := w.exists_course_ended c a port
  have hbound := Run.bound_of_followsOn hcourse.followsOn
  have hcarries : ∀ order ∈ Run.ordersAmong (w.calls c a port), ∃ bound,
      order.Carries a.request.toRequest port bound := by
    intro order horder
    obtain ⟨reply, htalk⟩ := Run.mem_ordersAmong horder
    obtain ⟨before, after, hsplit⟩ := List.append_of_mem htalk
    exact ⟨_, (hbound.orders before _ after hsplit order rfl).1⟩
  have hrequests : ((execute w.system filter c (.provision a)).run {}).2.requests =
      ((w.calls c a port).map (·.1)).filterMap client.request? := by
    have hcalls := Workflow.run_calls (client.environment w.backend) (w.workflow c a port) []
    rw [(w.execute_provision filter c a hreal hvalid).2.1, Client.requests, World.ended,
      ← List.filterMap_filterMap, hcalls]
    rfl
  constructor
  case requests_eq => exact hrequests
  case bodies =>
    intro request hrequest body hbody
    rw [hrequests] at hrequest
    obtain ⟨call, hcall, hsent⟩ := List.mem_filterMap.mp hrequest
    obtain ⟨talk, htalk, rfl⟩ := List.mem_map.mp hcall
    obtain ⟨order, horder, rfl⟩ := Client.exists_order_of_body hsent hbody
    exact ⟨order, List.mem_filterMap.mpr ⟨talk, htalk, by rw [horder]; rfl⟩, rfl⟩
  case clientPort =>
    intro order horder
    obtain ⟨bound, hcarried⟩ := hcarries order horder
    exact hcarried.clientPort
  case nodes =>
    intro order horder
    obtain ⟨bound, hcarried⟩ := hcarries order horder
    exact hcarried.nodes
  case worker =>
    intro order horder hkind
    refine namedAsShown_sheet hdraw ?_
    rw [hcourse.allotted.name_eq order horder, hkind]
    rfl
  case staged => exact ⟨c.pollIntervalMs, rfl, hcourse.shape.staged⟩
  case slept_eq => exact w.slept_provision filter c a hreal hvalid

/-! ### The plan and the run -/

/-- What a dry run prints behind its plan. -/
def hint : String := "Ready to provision. Remove --dry-run to execute.\n"

/-- The plan of a valid request is the text of its sheet. -/
theorem World.standardOutput_validate (w : World) (filter : Notice.Filter) {c : Config}
    {r : CommandLine.RequestArguments} {port : UInt16} (hvalid : r.toRequest.validate = .ok port)
    (hretries : c.maxRetries.toNat < UInt32.size - 1) :
    ((execute w.system filter c (.validate r)).run {}).2.standardOutput =
      (sheet r.toRequest c port).text := by
  rw [execute, run_showPlan_of_valid w c r "" hvalid, Report.plan_eq_text hvalid hretries,
    String.append_empty]
  exact Transcript.textOf_printed _

/-- A refused request shows no plan. -/
theorem empty_ne_text (s : Sheet) (more : String) : "" ≠ s.text ++ more := by
  intro h
  have hline : s.text = "" := (String.append_eq_empty_iff.mp h.symm).1
  exact absurd (String.append_eq_empty_iff.mp hline).2 (by decide)

/-- **The plan and the run.**  With the same configuration and the same arguments, both commands
that show a plan send nothing, and print one just if the run is not refused.  Then, whatever was
drawn and whatever the backend answers, the run keeps to the sheet that is read in both; and no
other sheet that can be read there differs from it in the port behind the base URL, in the name of
the worker, in the number of questions or in the pause. -/
theorem planned_run (w : World) (filter : Notice.Filter) (c : Config)
    (a : CommandLine.ProvisionArguments) (hretries : c.maxRetries.toNat < UInt32.size - 1) :
    let checked := (execute w.system filter c (.validate a.request)).run {}
    let dry := (execute w.system filter c (.provision { a with dryRun := true })).run {}
    let real := (execute w.system filter c (.provision { a with dryRun := false })).run {}
    let wish := a.request.toRequest.serviceName
    (checked.2.requests = [] ∧ dry.2.requests = []) ∧
    ((∃ s : Sheet, checked.2.standardOutput = s.text) ↔
      ¬ w.Refuses filter c { a with dryRun := false }) ∧
    ((∃ s : Sheet, dry.2.standardOutput = s.text ++ hint) ↔
      ¬ w.Refuses filter c { a with dryRun := false }) ∧
    ∀ port draws, a.request.toRequest.validate = .ok port →
      Allotment.draw? port wish draws = some (w.allotment port wish) →
      ∃ s : Sheet, s.Legible ∧ s.backend = c.apiUrl ∧ checked.2.standardOutput = s.text ∧
        dry.2.standardOutput = s.text ++ hint ∧
        (∀ other : Sheet, other.Legible → other.backend = c.apiUrl →
          checked.2.standardOutput = other.text → other.clientPort = s.clientPort ∧
            other.worker = s.worker ∧ other.checks = s.checks ∧ other.interval = s.interval) ∧
        KeepsTo s c port wish draws (w.calls c { a with dryRun := false } port) real.2 := by
  intro checked dry real wish
  cases hvalid : a.request.toRequest.validate with
  | error reason =>
      have hrefused := w.refuses_of_invalid filter c { a with dryRun := false } hvalid
      have hchecked : checked = _ := w.run_showPlan_of_invalid c a.request "" hvalid
      have hdry : dry = _ := w.run_showPlan_of_invalid c a.request hint hvalid
      rw [hchecked, hdry]
      refine ⟨⟨rfl, rfl⟩, ?_, ?_, nofun⟩
      · refine ⟨fun ⟨s, hs⟩ => ?_, fun hnot => absurd hrefused hnot⟩
        rw [← String.append_empty (s := s.text)] at hs
        exact absurd hs (empty_ne_text s "")
      · exact ⟨fun ⟨s, hs⟩ => absurd hs (empty_ne_text s hint), fun hnot => absurd hrefused hnot⟩
  | ok port =>
      have hallowed := w.not_refuses_of_valid filter c { a with dryRun := false } hvalid
      have hchecked : checked = _ := w.run_showPlan_of_valid c a.request "" hvalid
      have hdry : dry = _ := w.run_showPlan_of_valid c a.request hint hvalid
      rw [Report.plan_eq_text hvalid hretries] at hdry
      have hshown := w.standardOutput_validate filter hvalid hretries
      have hdryShown : dry.2.standardOutput =
          (sheet a.request.toRequest c port).text ++ hint := by
        rw [hdry]
        exact Transcript.textOf_printed _
      refine ⟨⟨by rw [hchecked], by rw [hdry]⟩, ⟨fun _ => hallowed, fun _ => ⟨_, hshown⟩⟩,
        ⟨fun _ => hallowed, fun _ => ⟨_, hdryShown⟩⟩, ?_⟩
      intro other draws hport hdraw
      obtain rfl := Except.ok.inj hport
      have hlegible := Report.legible_sheet a.request.toRequest c port
      refine ⟨_, hlegible, rfl, hshown, hdryShown, fun read hread hbackend htext => ?_, ?_⟩
      · obtain ⟨hclient, hworker, hchecks, hinterval, -⟩ :=
          Sheet.text_unique hread hlegible hbackend (htext.symm.trans hshown)
        exact ⟨hclient, hworker, hchecks, hinterval⟩
      · exact w.keepsTo filter c { a with dryRun := false } rfl hvalid hdraw

/-- A wish of which something is accepted, for a cluster that never reports running: the plan shows
what is left of the wish, and the run keeps to it. -/
theorem planned_run_of_silent_cluster :
    let a : CommandLine.ProvisionArguments :=
      { request := { name := "Pipe-1", port := some 9092, nodes := ["node"] } }
    let allotment : Allotment := {
      workerName := "ipe1", coordinationServiceName := "ssssssssss", peerPort := 5001,
      electionPort := 5002, brokerName := "jjjjjjjjjj", exporterPort := 5003, brokerJmxPort := 5004,
      workerJmxPort := 5005 }
    let draws : List UInt64 := List.replicate 10 0x8000000000000000 ++
      [0x2000000000000, 0x3000000000000] ++ List.replicate 10 0x4000000000000000 ++
      [0x4000000000000, 0x5000000000000, 0x6000000000000]
    let w : World := { silentWorld with allotment := fun _ _ => allotment }
    let c : Config := {}
    c.maxRetries.toNat < UInt32.size - 1 ∧
      Allotment.draw? 9092 a.request.toRequest.serviceName draws = some allotment ∧
      ∃ s : Sheet, s.worker = some "ipe1" ∧ s.checks = 6 ∧
        KeepsTo s c 9092 a.request.toRequest.serviceName draws (w.calls c a 9092)
          ((execute w.system (.ofVerbosity 0) c (.provision a)).run {}).2 := by
  intro a allotment draws w c
  have hdraw : Allotment.draw? 9092 a.request.toRequest.serviceName draws = some allotment := by
    decide +kernel
  have hretries : c.maxRetries.toNat < UInt32.size - 1 := by decide
  obtain ⟨-, -, -, hplanned⟩ := planned_run w (.ofVerbosity 0) c a hretries
  obtain ⟨s, -, -, -, -, hunique, hkept⟩ := hplanned 9092 draws rfl hdraw
  -- The sheet is the one of the request, since only one can be read in the plan.
  obtain ⟨-, hworker, hchecks, -⟩ := hunique (sheet a.request.toRequest c 9092)
    (Report.legible_sheet _ _ _) rfl (w.standardOutput_validate (.ofVerbosity 0) rfl hretries)
  refine ⟨hretries, hdraw, s, hworker.symm.trans ?_, hchecks.symm, hkept⟩
  decide

end Program

end Provisioning
