/-
**Names and ports that do not clash.**

Two clusters of one name, or of one port on the same nodes, cannot both run.  A backend may notice
the second one only when it does not come up, and then a workspace is left behind of which one half
works.  So what a run orders has to be told apart already when it is ordered, and this does not
depend on what the backend answers: all names and ports come from the allotment of the run, each
for the cluster of one kind, and a run orders every kind once at most.

The names under which the clusters run are another matter.  They are what the backend answers, and
only a backend that gives every cluster the name it was asked for gives them different names.

Main definitions:

* `Run.ordersAmong` — the orders among calls;
* `Run.Allotted` — every order has what was handed out for its kind;
* `Run.Distinct` — **orders that do not clash**;
* `Run.NamesKept` — every cluster has the name that was ordered.

Main results:

* `Run.Course.allotted` — the orders of a run have what was handed out;
* `Run.Allotted.distinct` — **they do not clash** if it was drawn;
* `names_and_ports_distinct` — **all runs, of all callers, in all histories**.
-/

import Provisioning.Proofs.Binding
import Provisioning.Proofs.MoreDraws

set_option relaxedAutoImplicit false
set_option autoImplicit false

namespace Provisioning

namespace Run

open Cluster (Kind Order Descriptor)
open Workflow (Act Talk talks)

/-! ### Orders -/

/-- The order of a create call. -/
def order? : Call → Option Order
  | .create order => some order
  | _ => none

/-- The orders among calls. -/
def ordersAmong (talks : List Talk) : List Order := talks.filterMap fun talk => order? talk.1

@[simp] theorem ordersAmong_nil : ordersAmong [] = [] := rfl

@[simp] theorem ordersAmong_append (talks more : List Talk) :
    ordersAmong (talks ++ more) = ordersAmong talks ++ ordersAmong more := List.filterMap_append

@[simp] theorem ordersAmong_create (order : Order) (reply : Except Backend.CallError String)
    (talks : List Talk) :
    ordersAmong (⟨.create order, reply⟩ :: talks) = order :: ordersAmong talks := rfl

@[simp] theorem ordersAmong_compensate (stage : Kind) (created : List Descriptor)
    (talks : List Talk) :
    ordersAmong (⟨.compensate stage created, ()⟩ :: talks) = ordersAmong talks := rfl

@[simp] theorem ordersAmong_wait {retries : Nat} (interval : UInt64) (cluster : String)
    (answers : Poll.Answers retries) : ordersAmong (answers.talks interval cluster) = [] :=
  Poll.Answers.filterMap_talks_eq_nil (fun _ => rfl) rfl answers

theorem mem_ordersAmong {talks : List Talk} {order : Order} (h : order ∈ ordersAmong talks) :
    ∃ reply : Except Backend.CallError String, (⟨.create order, reply⟩ : Talk) ∈ talks := by
  obtain ⟨⟨call, reply⟩, htalk, horder⟩ := List.mem_filterMap.mp h
  cases call with
  | create other =>
      obtain rfl := Option.some.inj horder
      exact ⟨reply, htalk⟩
  | status _ => cases horder
  | sleep _ => cases horder
  | compensate _ _ => cases horder

/-! ### What was handed out -/

/-- **Every order has what was handed out for its kind**, and no kind is ordered twice. -/
structure Allotted (a : Allotment) (orders : List Order) : Prop where
  kinds_prefix : orders.map (·.kind) <+: Kind.all
  name_eq : ∀ order ∈ orders, order.name = a.nameOf order.kind
  ports_eq : ∀ order ∈ orders, order.auxiliaryPorts = a.portsOf order.kind

variable {settings : Settings} {r : Request} {port : UInt16} {a : Allotment}

/-- What follows on some clusters has what was handed out for its kind. -/
theorem allotted_of_orderAfter {created : List Descriptor} {order : Order}
    (h : orderAfter r port a created = some order) :
    order.name = a.nameOf order.kind ∧ order.auxiliaryPorts = a.portsOf order.kind := by
  match created, h with
  | [], rfl => exact ⟨rfl, rfl⟩
  | [_], rfl => exact ⟨rfl, rfl⟩
  | [_, _], rfl => exact ⟨rfl, rfl⟩

/-- The kinds are ordered one after the other. -/
theorem Shape.kinds_prefix {kinds : List Kind} {talks : List Talk}
    (h : Shape settings kinds talks) : (ordersAmong talks).map (·.kind) <+: kinds := by
  induction h with
  | done => exact List.nil_prefix
  | refused e created horder =>
      subst horder
      exact List.prefix_cons_inj _ |>.mpr List.nil_prefix
  | unready name answers created horder _ _ =>
      subst horder
      rw [ordersAmong_create, ordersAmong_append, ordersAmong_wait]
      exact List.prefix_cons_inj _ |>.mpr List.nil_prefix
  | passed name answers horder _ _ ih =>
      subst horder
      rw [ordersAmong_create, ordersAmong_append, ordersAmong_wait]
      exact List.prefix_cons_inj _ |>.mpr ih

/-- **The orders of a run have what was handed out.** -/
theorem Course.allotted {acts : List Act} {result : Except Failure Workspace}
    (h : Course settings r port a acts result) : Allotted a (ordersAmong (talks acts)) := by
  have hhanded : ∀ order ∈ ordersAmong (talks acts),
      order.name = a.nameOf order.kind ∧ order.auxiliaryPorts = a.portsOf order.kind := by
    intro order horder
    obtain ⟨reply, htalk⟩ := mem_ordersAmong horder
    obtain ⟨before, after, hsplit⟩ := List.append_of_mem htalk
    exact allotted_of_orderAfter (h.followsOn before _ after hsplit).1
  exact ⟨h.shape.kinds_prefix, fun order horder => (hhanded order horder).1,
    fun order horder => (hhanded order horder).2⟩

/-- The names that are ordered are the first of those that were handed out. -/
theorem Allotted.names_prefix {orders : List Order} (h : Allotted a orders) :
    orders.map (·.name) <+: Kind.all.map a.nameOf := by
  have hnames : orders.map (·.name) = (orders.map (·.kind)).map a.nameOf := by
    rw [List.map_map]
    exact List.map_congr_left h.name_eq
  rw [hnames]
  exact h.kinds_prefix.map a.nameOf

/-- The ports that are ordered are the first of those that were handed out. -/
theorem Allotted.ports_prefix {orders : List Order} (h : Allotted a orders) :
    orders.flatMap Order.auxiliaryPorts <+: Kind.all.flatMap a.portsOf := by
  obtain ⟨rest, hrest⟩ := h.kinds_prefix
  have hports : orders.flatMap Order.auxiliaryPorts = (orders.map (·.kind)).flatMap a.portsOf := by
    rw [List.flatMap_map, List.flatMap_def, List.flatMap_def]
    exact congrArg List.flatten (List.map_congr_left h.ports_eq)
  rw [hports, ← hrest, List.flatMap_append]
  exact List.prefix_append _ _

/-! ### Nothing clashes -/

/-- **Orders that do not clash**, for a wished name and the port that clients connect to. -/
structure Distinct (wish : String) (port : UInt16) (orders : List Order) : Prop where
  /-- The names and the ports of the orders are those in the bodies of the create calls. -/
  bodies : ∀ order ∈ orders, order.json.member? "name" = some (.string order.name) ∧
    ["peerPort", "electionPort", "exporterPort", "jmxPort"].filterMap order.json.member? =
      order.auxiliaryPorts.map Order.port
  names_nodup : (orders.map (·.name)).Nodup
  names_accepted : ∀ order ∈ orders, ServiceName.Accepted order.name
  generated : ∀ order ∈ orders, order.kind ≠ .worker → ServiceName.Generated order.name
  /-- The worker has the accepted form of the wish, unless nothing of the wish is accepted. -/
  worker_eq : ∀ order ∈ orders, order.kind = .worker → ServiceName.sanitize wish ≠ "" →
    order.name = ServiceName.sanitize wish
  ports_nodup : (orders.flatMap Order.auxiliaryPorts).Nodup
  ports_in_range : ∀ p ∈ orders.flatMap Order.auxiliaryPorts,
    ClientPort.least ≤ p.toNat ∧ p.toNat ≤ ClientPort.greatest ∧ p ≠ port

/-- The names and the ports of an order are in the body of its create call. -/
theorem body_eq (order : Order) : order.json.member? "name" = some (.string order.name) ∧
    ["peerPort", "electionPort", "exporterPort", "jmxPort"].filterMap order.json.member? =
      order.auxiliaryPorts.map Order.port := by
  rw [Order.json, Order.auxiliaryPorts]
  cases order.role with
  | coordinationService peerPort electionPort => exact ⟨rfl, rfl⟩
  | broker coordinationService exporterPort jmxPort => exact ⟨rfl, rfl⟩
  | worker broker jmxPort plugins => exact ⟨rfl, rfl⟩

/-- **Orders that have what was handed out do not clash** if that does not. -/
theorem Allotted.distinct {orders : List Order} {wish : String} (h : Allotted a orders)
    (hclear : a.Clear port wish) : Distinct wish port orders where
  bodies order _ := body_eq order
  names_nodup := hclear.names_nodup.sublist h.names_prefix.sublist
  names_accepted order horder := by
    rw [h.name_eq order horder]
    exact hclear.accepted order.kind
  generated order horder hkind := by
    rw [h.name_eq order horder]
    cases hk : order.kind with
    | coordinationService => exact hclear.coordinationService_generated
    | broker => exact hclear.broker_generated
    | worker => exact absurd hk hkind
  worker_eq order horder hkind hne := by
    rw [h.name_eq order horder, hkind]
    exact hclear.worker_eq hne
  ports_nodup := hclear.ports_nodup.sublist h.ports_prefix.sublist
  ports_in_range p hp := by
    obtain ⟨hleast, hne⟩ := hclear.ports_in_range p (h.ports_prefix.subset hp)
    exact ⟨hleast, Nat.le_of_lt_succ p.toNat_lt, hne⟩

/-! ### The names of the clusters -/

/-- **Every cluster has the name that was ordered.** -/
def NamesKept (talks : List Talk) : Prop :=
  ∀ (order : Order) (name : String), (⟨.create order, .ok name⟩ : Talk) ∈ talks → name = order.name

/-- A backend that keeps names keeps those of every run. -/
theorem namesKept_of_answer {env : Workflow.Environment}
    (henv : ∀ before (order : Order) name,
      env.answer before (.create order) = .ok name → name = order.name)
    {α : Type} (w : Workflow α) (before : List Workflow.Event) :
    NamesKept (talks (w.acts env before)) := by
  intro order name htalk
  obtain ⟨earlier, hanswer⟩ := Workflow.exists_answer_of_mem_talks htalk
  exact henv earlier order name hanswer.symm

/-- Where the names are kept, those of the clusters are among those that were ordered. -/
theorem names_sublist {talks : List Talk} (h : NamesKept talks) :
    ((createdAmong talks).map (·.name)).Sublist ((ordersAmong talks).map (·.name)) := by
  induction talks with
  | nil => exact List.Sublist.refl _
  | cons talk talks ih =>
      have hrest := ih fun order name htalk => h order name (List.mem_cons_of_mem _ htalk)
      obtain ⟨call, reply⟩ := talk
      cases call with
      | create order =>
          cases reply with
          | ok name =>
              obtain rfl := h order name List.mem_cons_self
              exact hrest.cons_cons _
          | error e => exact hrest.cons _
      | status _ => exact hrest
      | sleep _ => exact hrest
      | compensate _ _ => exact hrest

/-- The names of a workspace are different if they are those that were ordered. -/
theorem Workspace.Names.nodup {w : Workspace} {talks : List Talk} (h : w.Names talks)
    (hkept : NamesKept talks) (hnodup : ((ordersAmong talks).map (·.name)).Nodup) :
    [w.coordinationService, w.broker, w.worker].Nodup := by
  rw [← h.names_eq]
  exact hnodup.sublist (names_sublist hkept)

end Run

/-! ### All runs -/

/-- **Names and ports do not clash.**  However the draws begin, they can go on to an allotment.
Whatever was drawn, the orders of a run with any environment, whose answers may depend on everything
before, do not clash, and the names of the workspace are different if the backend keeps the names it
is asked for; and so it is in any caller's run in any history, whether it has returned, still waits,
or was given up. -/
theorem names_and_ports_distinct (settings : Run.Settings) :
    (∀ (port : UInt16) (wish : String) (draws : List UInt64),
      ∃ more a, Allotment.draw? port wish (draws ++ more) = some a) ∧
    (∀ (r : Request) (port : UInt16) (draws : List UInt64) (a : Allotment)
      (env : Workflow.Environment), Allotment.draw? port r.serviceName draws = some a →
      let w := Run.workflow settings r port a
      let talks := Workflow.talks (w.acts env [])
      Run.Distinct r.serviceName port (Run.ordersAmong talks) ∧
        (Run.NamesKept talks → ∀ workspace, (w.run env []).2 = .ok workspace →
          [workspace.coordinationService, workspace.broker, workspace.worker].Nodup)) ∧
    ∀ moments : List Moment, ∀ f ∈ (History.after settings moments).flights,
      ∀ draws, Allotment.draw? f.port f.request.serviceName draws = some f.allotment →
        (f.Begins fun talks =>
          Run.Distinct f.request.serviceName f.port (Run.ordersAmong talks)) ∧
        (Run.NamesKept f.talks → ∀ workspace, f.standing = .returned (.ok workspace) →
          [workspace.coordinationService, workspace.broker, workspace.worker].Nodup) := by
  refine ⟨Allotment.exists_draw?, ?_, ?_⟩
  · intro r port draws a env hdraw w talks
    have hcourse := Run.ends_workflow_iff.mp (Workflow.ends_acts env w [])
    have hdistinct := hcourse.allotted.distinct (Allotment.clear_of_draw? hdraw)
    refine ⟨hdistinct, fun hkept workspace hresult => ?_⟩
    rw [hresult] at hcourse
    exact hcourse.names.nodup hkept hdistinct.names_nodup
  · intro moments f hf draws hdraw
    have hfaithful := (History.sound_after settings moments).faithful f hf
    have hclear := Allotment.clear_of_draw? hdraw
    constructor
    · refine hfaithful.begins fun acts answer hends => ?_
      obtain ⟨result, hcourse, _⟩ := ends_provisioning_iff.mp hends
      exact hcourse.allotted.distinct hclear
    · intro hkept workspace hstanding
      obtain ⟨result, hcourse, hanswer⟩ := hfaithful.course_of_returned hstanding
      obtain rfl := answerOf_eq_ok_iff.mp hanswer.symm
      exact hcourse.names.nodup hkept (hcourse.allotted.distinct hclear).names_nodup

/-- A run for which the name of the worker is drawn once more: the draws go on. -/
theorem names_and_ports_distinct_of_collision :
    let r : Request := { serviceName := "aaaaaaaaaa", clientPort := some 9092, nodes := ["node"] }
    let draws : List UInt64 := List.replicate 10 0 ++ List.replicate 10 0x8000000000000000 ++
      [0x2000000000000, 0x3000000000000] ++ List.replicate 10 0x4000000000000000 ++
      [0x4000000000000, 0x5000000000000, 0x6000000000000]
    let env : Workflow.Environment := ⟨fun _ call => match call with
      | .create order => .ok order.name
      | .status _ => .ok .running
      | .sleep _ => ()
      | .compensate _ _ => ()⟩
    ∃ a workspace, Allotment.draw? 9092 r.serviceName draws = some a ∧
      ((Run.workflow {} r 9092 a).run env []).2 = .ok workspace ∧
      workspace.coordinationService = "ssssssssss" ∧ workspace.broker = "jjjjjjjjjj" ∧
      workspace.worker = "aaaaaaaaaa" ∧
      Run.Distinct r.serviceName 9092
        (Run.ordersAmong (Workflow.talks ((Run.workflow {} r 9092 a).acts env []))) ∧
      [workspace.coordinationService, workspace.broker, workspace.worker].Nodup := by
  intro r draws env
  let a : Allotment := {
    workerName := "aaaaaaaaaa", coordinationServiceName := "ssssssssss", peerPort := 5001,
    electionPort := 5002, brokerName := "jjjjjjjjjj", exporterPort := 5003, brokerJmxPort := 5004,
    workerJmxPort := 5005 }
  have hdraw : Allotment.draw? 9092 r.serviceName draws = some a := by decide +kernel
  have h := (names_and_ports_distinct {}).2.1 r 9092 draws a env hdraw
  have hkept : Run.NamesKept (Workflow.talks ((Run.workflow {} r 9092 a).acts env [])) :=
    Run.namesKept_of_answer (fun _ order name hname => (Except.ok.inj hname).symm) _ _
  exact ⟨a, _, hdraw, rfl, rfl, rfl, rfl, h.1, h.2 hkept _ rfl⟩

end Provisioning
