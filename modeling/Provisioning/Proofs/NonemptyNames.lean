/-
**No cluster without a name.**

An empty name is not refused anywhere: a create call with one is sent like any other, and a status
call with one asks for another address.  So no name may be empty wherever it comes from, and there
are two sources.  The names that are ordered are handed out, where a wish of which nothing is
accepted falls back to a drawn name.  The names under which the clusters run are what the backend
answers, and a backend may leave out the name, or give null or an empty one for it; then the cluster
has the name that was ordered.

From there the names go on along the run: into the next order, the questions, the list that is
handed over for compensation and the answer.  All of them are names of clusters that were created,
so one fact about the create calls is enough for all.

Main definitions:

* `Json.Value.Names` — a member of a body that is a name;
* `Cluster.Order.Named`, `Cluster.Descriptor.Named`, `Run.Workspace.Named` — nothing in them has an
  empty name;
* `Run.NamesGiven` — every cluster was created under a name;
* `Run.Named` — **no name among calls is empty**.

Main results:

* `Backend.Client.ne_empty_of_created` — whatever the backend answers, a cluster has a name;
* `Run.Bound.named` — the names along a run come from its create calls;
* `no_empty_name` — **all runs over the wire**, against every backend.
-/

import Provisioning.Proofs.Acknowledged
import Provisioning.Proofs.Distinct
import Provisioning.Proofs.Policies

set_option relaxedAutoImplicit false
set_option autoImplicit false

namespace Provisioning

open Cluster (Kind Order Descriptor)
open Workflow (Act Talk talks)

/-! ### What has a name -/

/-- **A member of a body that is a name**, and not an empty one. -/
def Json.Value.Names (body : Json.Value) (member : String) : Prop :=
  ∃ name, body.member? member = some (.string name) ∧ name ≠ ""

/-- **An order that names its clusters**: its body has a name for the cluster, and one for the
cluster that it is bound to. -/
structure Cluster.Order.Named (o : Order) : Prop where
  own : o.json.Names "name"
  coordinationService : o.kind = .broker → o.json.Names "zookeeperClusterName"
  broker : o.kind = .worker → o.json.Names "brokerClusterName"

/-- **A cluster with a name**, that is bound to one with a name. -/
structure Cluster.Descriptor.Named (d : Descriptor) : Prop where
  name_ne : d.name ≠ ""
  boundTo_ne : ∀ name, d.boundTo = some name → name ≠ ""

/-- **A workspace in which everything has a name**, also where a wait for a cluster was in vain. -/
structure Run.Workspace.Named (w : Run.Workspace) : Prop where
  coordinationService_ne : w.coordinationService ≠ ""
  broker_ne : w.broker ≠ ""
  worker_ne : w.worker ≠ ""
  clusters : ∀ s ∈ w.stages, s.cluster.Named
  timeouts_ne : ∀ s ∈ w.stages, ∀ t, s.readiness = .timedOut t → t.cluster ≠ ""

/-- What carries the request is named if its own name is, and the one of the cluster it is bound
to. -/
theorem Cluster.Order.Carries.named {o : Order} {r : Request} {port : UInt16}
    {bound : Option String} (h : o.Carries r port bound) (hname : o.name ≠ "")
    (hbound : o.kind ≠ .coordinationService → ∃ name, bound = some name ∧ name ≠ "") :
    o.Named where
  own := ⟨o.name, (Run.body_eq o).1, hname⟩
  coordinationService hkind := by
    obtain ⟨name, rfl, hne⟩ := hbound (by simp [hkind])
    exact ⟨name, by simpa [hkind] using h.coordinationService, hne⟩
  broker hkind := by
    obtain ⟨name, rfl, hne⟩ := hbound (by simp [hkind])
    exact ⟨name, by simpa [hkind] using h.broker, hne⟩

/-! ### Names along the calls -/

namespace Run

variable {calls before : List Talk} {r : Request} {port : UInt16}

/-- **Every cluster was created under a name.** -/
def NamesGiven (calls : List Talk) : Prop :=
  ∀ (order : Order) (name : String), (⟨.create order, .ok name⟩ : Talk) ∈ calls → name ≠ ""

theorem NamesGiven.name_ne (h : NamesGiven calls) {d : Descriptor} (hd : d ∈ createdAmong calls) :
    d.name ≠ "" := by
  obtain ⟨order, name, hcreated, rfl⟩ := exists_of_mem_createdAmong hd
  exact h order name hcreated

/-- The last cluster before a call has a name. -/
theorem NamesGiven.lastName_ne (h : NamesGiven calls) (hbefore : before ⊆ calls) {name : String}
    (hlast : lastName before = some name) : name ≠ "" := by
  obtain ⟨d, hd, rfl⟩ := Option.map_eq_some_iff.mp hlast
  have hgiven : NamesGiven before := fun order name hcreated => h order name (hbefore hcreated)
  exact hgiven.name_ne (List.mem_of_getLast? hd)

/-- **No name among calls is empty.** -/
structure Named (calls : List Talk) : Prop where
  orders : ∀ order ∈ ordersAmong calls, order.Named
  questions : ∀ (cluster : String) reply, (⟨.status cluster, reply⟩ : Talk) ∈ calls → cluster ≠ ""
  clusters : ∀ d ∈ createdAmong calls, d.Named

/-- Where clusters of all kinds before a kind were created, and there are such kinds, there is a
last one. -/
theorem exists_lastName {kind : Kind}
    (hkinds : (createdAmong before).map (·.kind) = kindsBefore kind)
    (hkind : kind ≠ .coordinationService) : ∃ name, lastName before = some name := by
  have hcreated : createdAmong before ≠ [] := by
    intro hnil
    rw [hnil] at hkinds
    cases kind with
    | coordinationService => exact hkind rfl
    | broker => cases hkinds
    | worker => cases hkinds
  exact ⟨_, congrArg (Option.map _) (List.getLast?_eq_some_getLast hcreated)⟩

/-- **The names along a run** come from its create calls: those that are ordered, and those that
are given. -/
theorem Bound.named (h : Bound r port calls)
    (hordered : ∀ order ∈ ordersAmong calls, order.name ≠ "") (hgiven : NamesGiven calls) :
    Named calls where
  orders order horder := by
    obtain ⟨reply, hcall⟩ := mem_ordersAmong horder
    obtain ⟨before, after, rfl⟩ := List.append_of_mem hcall
    obtain ⟨hcarries, hkinds⟩ := h.orders before _ after rfl order rfl
    refine hcarries.named (hordered order horder) fun hkind => ?_
    obtain ⟨name, hlast⟩ := exists_lastName hkinds hkind
    exact ⟨name, hlast, hgiven.lastName_ne (List.subset_append_left _ _) hlast⟩
  questions cluster reply hcall := by
    obtain ⟨before, after, rfl⟩ := List.append_of_mem hcall
    have hlast := h.questions before _ after rfl cluster rfl
    exact hgiven.lastName_ne (List.subset_append_left _ _) hlast
  clusters d hd := by
    refine ⟨hgiven.name_ne hd, fun name hbound => ?_⟩
    obtain ⟨before, after, hsplit⟩ := List.append_of_mem hd
    rw [(h.clusters before d after hsplit).boundTo] at hbound
    obtain ⟨last, hlast, rfl⟩ := Option.map_eq_some_iff.mp hbound
    refine hgiven.name_ne ?_
    rw [hsplit]
    exact List.mem_append_left _ (List.mem_of_getLast? hlast)

variable {settings : Settings} {a : Allotment} {acts : List Act}

/-- What is handed over for compensation is what was created. -/
theorem Course.handedOver_eq {result : Except Failure Workspace}
    (h : Course settings r port a acts result) {stage : Kind} {created : List Descriptor}
    (hcall : (⟨.compensate stage created, ()⟩ : Talk) ∈ talks acts) :
    created = createdAmong (talks acts) := by
  obtain ⟨act, hact, htalk⟩ := List.mem_filterMap.mp hcall
  have hover : (stage, created) ∈ compensations acts := by
    refine List.mem_filterMap.mpr ⟨act, hact, ?_⟩
    cases act with
    | published state => cases htalk
    | answered call reply =>
        cases htalk
        rfl
  cases result with
  | ok workspace =>
      rw [h.no_compensation] at hover
      cases hover
  | error f =>
      obtain ⟨before, hbefore, hacts⟩ := h.exact.compensated
      rw [hacts, compensations_append, hbefore] at hover
      cases List.mem_singleton.mp hover
      exact h.exact.created_eq

/-- A workspace of named clusters has only names. -/
theorem Course.named_workspace {workspace : Workspace}
    (h : Course settings r port a acts (.ok workspace)) (hnamed : Named (talks acts)) :
    workspace.Named := by
  have hnames := h.names
  have hall : ∀ name ∈ [workspace.coordinationService, workspace.broker, workspace.worker],
      name ≠ "" := by
    rw [← hnames.names_eq]
    intro name hname
    obtain ⟨d, hd, rfl⟩ := List.mem_map.mp hname
    exact (hnamed.clusters d hd).name_ne
  have hclusters : ∀ s ∈ workspace.stages, s.cluster.Named := by
    intro s hs
    refine hnamed.clusters s.cluster ?_
    rw [← hnames.stages_eq]
    exact List.mem_map_of_mem hs
  refine ⟨hall _ (by simp), hall _ (by simp), hall _ (by simp), hclusters, fun s hs t ht => ?_⟩
  have hcluster := (hclusters s hs).name_ne
  rw [h.stages_eq.1] at hs
  obtain ⟨w, -, rfl⟩ := List.mem_map.mp hs
  rw [Watch.report] at ht
  split at ht
  · cases ht
  · obtain rfl := Readiness.timedOut.inj ht
    exact hcluster

end Run

/-! ### Names over the wire -/

namespace Backend

variable {c : Client} {backend : Responder}

/-- Whatever name is given, a cluster has one if it was ordered under one. -/
theorem resolvedName_ne_empty (kind : Kind) {ordered : String} (given : Option String)
    (hordered : ordered ≠ "") : (resolvedName kind ordered given).1 ≠ "" := by
  rw [resolvedName]
  cases hgiven : given.filter (!·.isEmpty) with
  | none => exact hordered
  | some name =>
      have hname := (Option.filter_eq_some_iff.mp hgiven).2
      rintro rfl
      cases hname

/-- So whatever is concluded from an answer, the cluster has a name. -/
theorem createConclusion_ne_empty {o : Order} {url : Url} {e : Exchange} {name : String}
    (hname : o.name ≠ "") (h : (createConclusion o url e).1 = .ok name) : name ≠ "" := by
  rw [createConclusion] at h
  split at h
  · cases h
  · split at h
    · cases h
    · rename_i given _
      obtain rfl := Except.ok.inj h
      exact resolvedName_ne_empty o.kind given hname

/-- **Whatever the backend answers, a cluster has a name** if it was ordered under one. -/
theorem Client.ne_empty_of_created {before : List Workflow.Event} {o : Order} {name : String}
    (hname : o.name ≠ "")
    (h : (c.environment backend).answer before (.create o) = .ok name) : name ≠ "" := by
  simp only [environment, answer] at h
  rcases c.create_cases o with ⟨url, -, hcreate⟩ | ⟨-, message, hcreate⟩
  · rw [hcreate] at h
    exact createConclusion_ne_empty hname h
  · rw [hcreate] at h
    cases h

/-- Only create calls send a body, and it is that of their order. -/
theorem Client.exists_order_of_body {call : Call} {request : HttpRequest} {body : Json.Value}
    (h : c.request? call = some request) (hbody : request.body = some body) :
    ∃ o, call = .create o ∧ body = o.json := by
  cases call with
  | create o =>
      rw [request?] at h
      rcases c.create_cases o with ⟨url, -, hcreate⟩ | ⟨-, message, hcreate⟩
      · rw [hcreate] at h
        obtain rfl := Option.some.inj h
        exact ⟨o, rfl, (Option.some.inj hbody).symm⟩
      · rw [hcreate] at h
        cases h
  | status cluster =>
      rw [request?] at h
      rcases c.status_cases cluster with ⟨endpoint, url, hstatus⟩ | ⟨e, hstatus⟩
      · rw [hstatus] at h
        obtain rfl := Option.some.inj h
        cases hbody
      · rw [hstatus] at h
        cases h
  | sleep ms => cases h
  | compensate stage created => cases h

end Backend

/-! ### All runs over the wire -/

/-- **No empty name.**  Whatever was drawn for a request, and whatever the backend answers, on the
strength of all requests before: every body that is sent names its clusters, no cluster is asked for
by an empty name, what is handed over for compensation has only names, and so has the answer, be it
a workspace or a failure with the clusters that were created. -/
theorem no_empty_name (settings : Run.Settings) (c : Backend.Client) (backend : Backend.Responder)
    (r : Request) (port : UInt16) (draws : List UInt64) (a : Allotment)
    (hdraw : Allotment.draw? port r.serviceName draws = some a) :
    let w := provisioning settings r port a
    let env := c.environment backend
    let ended := w.run env []
    (∀ request ∈ c.requests ended.1, ∀ body, request.body = some body →
      ∃ order : Order, order.Named ∧ body = order.json) ∧
    (∀ cluster, .called (.status cluster) ∈ ended.1 → cluster ≠ "") ∧
    (∀ stage created, .called (.compensate stage created) ∈ ended.1 → ∀ d ∈ created, d.Named) ∧
    (∀ workspace, ended.2 = .ok workspace → workspace.Named) ∧
    ∀ failure, ended.2 = .error failure → ∀ d ∈ failure.created, d.Named := by
  intro w env ended
  have hends := Workflow.ends_acts env w []
  obtain ⟨result, hcourse, hresult⟩ := ends_provisioning_iff.mp hends
  have hordered : ∀ order ∈ Run.ordersAmong (talks (w.acts env [])), order.name ≠ "" := by
    intro order horder
    rw [hcourse.allotted.name_eq order horder]
    exact ((Allotment.clear_of_draw? hdraw).accepted order.kind).ne_empty
  have hgiven : Run.NamesGiven (talks (w.acts env [])) := by
    intro order name hcreated
    obtain ⟨earlier, hanswer⟩ := Workflow.exists_answer_of_mem_talks hcreated
    have horder := hordered order (List.mem_filterMap.mpr ⟨_, hcreated, rfl⟩)
    exact Backend.Client.ne_empty_of_created horder hanswer.symm
  -- All other names of the run are among these.
  have hnamed := (Run.bound_of_followsOn hcourse.followsOn).named hordered hgiven
  have hclusters := hnamed.clusters
  refine ⟨?_, ?_, ?_, ?_, ?_⟩
  · intro request hrequest body hbody
    obtain ⟨event, hevent, hsent⟩ := List.mem_filterMap.mp hrequest
    obtain ⟨call, hcall, hrequest?⟩ := Option.bind_eq_some_iff.mp hsent
    obtain ⟨order, rfl, rfl⟩ := Backend.Client.exists_order_of_body hrequest? hbody
    obtain rfl := Workflow.Event.eq_called_of_call? hcall
    obtain ⟨reply, hcreate⟩ := Workflow.exists_talk_of_called hevent
    exact ⟨order, hnamed.orders order (List.mem_filterMap.mpr ⟨_, hcreate, rfl⟩), rfl⟩
  · intro cluster hcalled
    obtain ⟨reply, hasked⟩ := Workflow.exists_talk_of_called hcalled
    exact hnamed.questions cluster reply hasked
  · intro stage created hcalled
    obtain ⟨_, hover⟩ := Workflow.exists_talk_of_called hcalled
    rw [hcourse.handedOver_eq hover]
    exact hclusters
  · intro workspace hworkspace
    obtain rfl := answerOf_eq_ok_iff.mp (hresult.symm.trans hworkspace)
    exact hcourse.named_workspace hnamed
  · intro failure hfailure
    have hanswer := hresult.symm.trans hfailure
    cases result with
    | ok workspace => cases hanswer
    | error f =>
        cases hanswer
        have hcreated := hcourse.exact.created_eq
        rw [← hcreated] at hclusters
        exact hclusters

namespace Backend

/-- An envelope whose result has an empty name. -/
def emptyNameReply : String := "\x7b\"isSuccess\":true,\"result\":\x7b\"name\":\"\"\x7d\x7d"

theorem ofText_emptyNameReply : Envelope.ofText (bodyText (Utf8.encode emptyNameReply.toList)) =
    .ok ⟨true, .object [("name", .string "")]⟩ := by
  have hbody := bodyText_encode emptyNameReply
  have hdocument : Json.Document.ofText emptyNameReply =
      ⟨.object [(some "isSuccess", .boolean true),
        (some "result", .object [(some "name", .string "")] true)] true, true⟩ := by
    cbv
  simp only [hbody, Envelope.ofText, Json.decodeText, hdocument]
  rfl

end Backend

/-- A wish of which nothing is accepted, and a backend that gives an empty name: the cluster that is
left running has a name all the same. -/
theorem no_empty_name_of_empty_reply :
    let r : Request := { serviceName := "ABC", clientPort := some 9092, nodes := ["node"] }
    let draws : List UInt64 := List.replicate 10 0 ++ List.replicate 10 0x8000000000000000 ++
      [0x2000000000000, 0x3000000000000] ++ List.replicate 10 0x4000000000000000 ++
      [0x4000000000000, 0x5000000000000, 0x6000000000000]
    let env := Backend.loopback.environment (Backend.answeringPosts Backend.emptyNameReply)
    ∃ a d f, Allotment.draw? 9092 r.serviceName draws = some a ∧ a.workerName = "aaaaaaaaaa" ∧
      ((provisioning Run.strict r 9092 a).run env []).2 = .error f ∧ f.created = [d] ∧
      d.kind = .coordinationService ∧ d.Named := by
  intro r draws env
  let a : Allotment := {
    workerName := "aaaaaaaaaa", coordinationServiceName := "ssssssssss", peerPort := 5001,
    electionPort := 5002, brokerName := "jjjjjjjjjj", exporterPort := 5003, brokerJmxPort := 5004,
    workerJmxPort := 5005 }
  have hdraw : Allotment.draw? 9092 r.serviceName draws = some a := by decide +kernel
  have hack : Backend.loopback.acknowledgement (Backend.answeringPosts Backend.emptyNameReply)
      (Run.started r 9092) (Run.coordinationServiceOrder r 9092 a) =
        some (.object [("name", .string "")]) :=
    Backend.acknowledgement_answeringPosts Backend.ofText_emptyNameReply _ _
  obtain ⟨name, hname⟩ := Backend.Client.answer_of_acknowledgement hack
  have hfailed := Run.run_of_unready hname fun before =>
    Backend.status_answeringPosts Backend.loopback Backend.emptyNameReply before name
  have hnamed := (no_empty_name Run.strict Backend.loopback
    (Backend.answeringPosts Backend.emptyNameReply) r 9092 draws a hdraw).2.2.2.2 _ hfailed
  exact ⟨a, _, _, hdraw, rfl, hfailed, rfl, rfl, hnamed _ (List.mem_singleton.mpr rfl)⟩

end Provisioning
