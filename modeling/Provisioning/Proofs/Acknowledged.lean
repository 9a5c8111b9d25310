/-
**Clusters that the backend has acknowledged.**

When the backend acknowledges a create call, the cluster is there, and a run that fails later has to
report it: nobody else knows of it.  Whether it does depends on the free result of the reply.  A
result that is taken, with a name or without one, makes a cluster of the run.  Any other result is
an error of the create call, and ends the run at once, so that the cluster that was just created is
missing from the report, although its name is known: it is the one that was ordered.

That is so also for a reply without a result, which is an envelope like any other, and whose result
counts as null.  A status call takes null for an empty list, but a create call does not take it for
a cluster without a name.

Main definition:

* `Backend.Client.acknowledgement` — the result with which a create call was acknowledged.

Main results:

* `acknowledged_reported_iff` — **when an acknowledged cluster is reported**;
* `acknowledged_not_always_reported` — an acknowledged cluster that is not.
-/

import Provisioning.Proofs.CreateReply
import Provisioning.Proofs.FailureReport
import Provisioning.Proofs.HttpRun
import Provisioning.Proofs.RunShape

set_option relaxedAutoImplicit false
set_option autoImplicit false

namespace Provisioning

/-! ### Replies of the backend -/

namespace Backend

open Cluster (Order)
open Workflow (Event)

/-- The result with which a create call was acknowledged, after the events before it; nothing if no
request was sent, or it was not acknowledged. -/
def Client.acknowledgement (c : Client) (backend : Responder) (before : List Event) (o : Order) :
    Option Json.Value :=
  match c.create o with
  | .error _ => none
  | .ok planned => acknowledged? (backend (c.requests before) planned.request)

/-- A create call that can be planned concludes what the answer to a create call says. -/
theorem Client.conclude_create {c : Client} {o : Order} {planned : Planned String}
    (h : c.create o = .ok planned) : ∃ url, planned.conclude = createConclusion o url := by
  rcases c.create_cases o with ⟨url, -, hcreate⟩ | ⟨-, message, hcreate⟩
  · obtain rfl := Except.ok.inj (hcreate.symm.trans h)
    exact ⟨url, rfl⟩
  · cases hcreate.symm.trans h

/-- **The answer to an acknowledged create call**: a name, or that the result cannot be read. -/
theorem Client.answer_of_acknowledgement {c : Client} {backend : Responder} {before : List Event}
    {o : Order} {v : Json.Value} (h : c.acknowledgement backend before o = some v) :
    if namesCluster v then
      ∃ name, (c.environment backend).answer before (.create o) = .ok name
    else
      ∃ message, (c.environment backend).answer before (.create o) = .error (.parse message) := by
  rw [acknowledgement] at h
  cases hcreate : c.create o with
  | error e =>
      rw [hcreate] at h
      cases h
  | ok planned =>
      rw [hcreate] at h
      obtain ⟨url, hconclude⟩ := Client.conclude_create hcreate
      have hanswer : (c.environment backend).answer before (.create o) =
          (createConclusion o url (backend (c.requests before) planned.request)).1 := by
        simp only [environment, answer, hcreate, Planned.outcome, hconclude]
      rw [hanswer]
      exact createConclusion_of_acknowledged o url h

/-! ### A backend that only creates -/

/-- A client whose backend is on the same computer. -/
def loopback : Client := { baseUrl := "http://[::1]" }

/-- A backend that answers every create call with a text, and no status call at all. -/
def answeringPosts (text : String) : Responder := fun _ request =>
  match request.method with
  | .post => .answered 200 (some (Utf8.encode text.toList))
  | .get => .timedOut

/-- An envelope without a result. -/
def bareReply : String := "\x7b\"isSuccess\":true\x7d"

/-- An envelope whose result has no name. -/
def namelessReply : String := "\x7b\"isSuccess\":true,\"result\":\x7b\x7d\x7d"

theorem ofText_bareReply :
    Envelope.ofText (bodyText (Utf8.encode bareReply.toList)) = .ok ⟨true, .null⟩ := by
  have hbody := bodyText_encode bareReply
  have hdocument : Json.Document.ofText bareReply =
      ⟨.object [(some "isSuccess", .boolean true)] true, true⟩ := by cbv
  simp only [hbody, Envelope.ofText, Json.decodeText, hdocument]
  rfl

theorem ofText_namelessReply :
    Envelope.ofText (bodyText (Utf8.encode namelessReply.toList)) = .ok ⟨true, .object []⟩ := by
  have hbody := bodyText_encode namelessReply
  have hdocument : Json.Document.ofText namelessReply =
      ⟨.object [(some "isSuccess", .boolean true), (some "result", .object [] true)] true,
        true⟩ := by
    cbv
  simp only [hbody, Envelope.ofText, Json.decodeText, hdocument]
  rfl

/-- Every create call of the client is planned. -/
theorem exists_planned_loopback (o : Order) :
    ∃ planned, loopback.create o = .ok planned ∧ planned.request.method = .post := by
  rw [Client.create]
  cases o.kind with
  | coordinationService => exact ⟨_, rfl, rfl⟩
  | broker => exact ⟨_, rfl, rfl⟩
  | worker => exact ⟨_, rfl, rfl⟩

/-- A cluster is acknowledged with the result of the text. -/
theorem acknowledgement_answeringPosts {text : String} {v : Json.Value}
    (htext : Envelope.ofText (bodyText (Utf8.encode text.toList)) = .ok ⟨true, v⟩)
    (before : List Event) (o : Order) :
    loopback.acknowledgement (answeringPosts text) before o = some v := by
  obtain ⟨planned, hplanned, hmethod⟩ := exists_planned_loopback o
  have hreply : answeringPosts text (loopback.requests before) planned.request =
      .answered 200 (some (Utf8.encode text.toList)) := by
    rw [answeringPosts, hmethod]
  simp only [Client.acknowledgement, hplanned, hreply]
  exact acknowledged?_eq_some_iff.mpr ⟨200, _, ⟨true, v⟩, rfl, rfl, htext, rfl, rfl⟩

/-- A status call that is not answered has failed. -/
theorem status_answeringPosts (c : Client) (text : String) (before : List Event)
    (cluster : String) :
    ∃ e, (c.environment (answeringPosts text)).answer before (.status cluster) = .error e := by
  simp only [Client.environment, Client.answer]
  rcases c.status_cases cluster with ⟨endpoint, url, hstatus⟩ | ⟨e, hstatus⟩
  · rw [hstatus]
    exact ⟨.timeout endpoint, rfl⟩
  · rw [hstatus]
    exact ⟨e, rfl⟩

end Backend

/-! ### The first calls of a run -/

namespace Run

open Backend (CallError)
open Workflow (Event)

/-- Settings with which a cluster is asked for once and has to be running then. -/
def strict : Settings := { policy := .fail, polling := { maxRetries := 0 } }

/-- The events before the first call of a run. -/
def started (r : Request) (port : UInt16) : List Event := [
  .noted (.started r.nodes.length port),
  .noted (.stateChanged (.creating .coordinationService)),
  .published (.creating .coordinationService)]

/-- A strict run up to its first call, and what it comes to if that call or the next one fails. -/
theorem exists_resume (r : Request) (port : UInt16) (a : Allotment) :
    let order := coordinationServiceOrder r port a
    ∃ resume : Except CallError String → Workflow Answer,
      provisioning strict r port a =
        .note (.started r.nodes.length port) (.note (.stateChanged (.creating order.kind))
          (.publish (.creating order.kind) (.await (.create order) resume))) ∧
      (∀ e, resume (.error e) = (do
        return .error (.stage (← abort order.kind (.create e) [])))) ∧
      ∀ name, ∃ ask : Except CallError Cluster.ContainerState → Workflow Answer,
        resume (.ok name) = .note (.stateChanged (.awaiting order.kind))
          (.publish (.awaiting order.kind) (.await (.status name) ask)) ∧
        ∀ e, ask (.error e) = (do
          Workflow.noting (.stateUnavailable name e)
          return .error (.stage (← abort order.kind (.readiness ⟨name, 1, .unknown⟩)
            [order.descriptor name]))) :=
  ⟨_, rfl, fun _ => rfl, fun _ => ⟨_, rfl, fun _ => rfl⟩⟩

variable {r : Request} {port : UInt16} {a : Allotment} {env : Workflow.Environment}

/-- The first call of a run creates the coordination service. -/
theorem exists_first_call (r : Request) (port : UInt16) (a : Allotment)
    (env : Workflow.Environment) : ∃ post, ((provisioning strict r port a).run env []).1 =
      started r port ++ .called (.create (coordinationServiceOrder r port a)) :: post := by
  obtain ⟨resume, hrun, -⟩ := exists_resume r port a
  obtain ⟨post, hpost⟩ := Workflow.exists_run_eq env
    (resume (env.answer (started r port) (.create (coordinationServiceOrder r port a))))
    (started r port ++ [.called (.create (coordinationServiceOrder r port a))])
  rw [List.append_assoc] at hpost
  rw [hrun]
  exact ⟨post, hpost⟩

/-- A strict run whose first call fails. -/
theorem run_of_refused {e : CallError}
    (hcreate : env.answer (started r port) (.create (coordinationServiceOrder r port a)) =
      .error e) :
    ((provisioning strict r port a).run env []).2 =
      .error (.stage ⟨.coordinationService, .create e, []⟩) := by
  obtain ⟨resume, hrun, hrefused, -⟩ := exists_resume r port a
  have hend (after : List Event) :
      ((resume (env.answer (started r port) (.create (coordinationServiceOrder r port a)))).run env
        after).2 = .error (.stage ⟨.coordinationService, .create e, []⟩) := by
    rw [hcreate, hrefused]
    rfl
  rw [hrun]
  exact hend _

/-- A strict run whose first call succeeds, and whose second one fails. -/
theorem run_of_unready {name : String}
    (hcreate : env.answer (started r port) (.create (coordinationServiceOrder r port a)) =
      .ok name)
    (hstatus : ∀ before, ∃ e, env.answer before (.status name) = .error e) :
    ((provisioning strict r port a).run env []).2 =
      .error (.stage ⟨.coordinationService, .readiness ⟨name, 1, .unknown⟩,
        [(coordinationServiceOrder r port a).descriptor name]⟩) := by
  obtain ⟨resume, hrun, -, hresume⟩ := exists_resume r port a
  obtain ⟨ask, hasked, hlate⟩ := hresume name
  have hend (before after : List Event) :
      ((ask (env.answer before (.status name))).run env after).2 =
        .error (.stage ⟨.coordinationService, .readiness ⟨name, 1, .unknown⟩,
          [(coordinationServiceOrder r port a).descriptor name]⟩) := by
    obtain ⟨e, he⟩ := hstatus before
    rw [he, hlate]
    rfl
  have hstep (after : List Event) :
      ((resume (env.answer (started r port) (.create (coordinationServiceOrder r port a)))).run env
        after).2 = .error (.stage ⟨.coordinationService, .readiness ⟨name, 1, .unknown⟩,
          [(coordinationServiceOrder r port a).descriptor name]⟩) := by
    rw [hcreate, hasked]
    exact hend _ _
  rw [hrun]
  exact hstep _

end Run

/-! ### The report -/

/-- Of what occurs at most once there is only one. -/
theorem eq_of_countP_le_one {α : Type} {p : α → Bool} {l : List α} (h : l.countP p ≤ 1) {x y : α}
    (hx : x ∈ l) (hy : y ∈ l) (hpx : p x = true) (hpy : p y = true) : x = y := by
  have hmemx : x ∈ l.filter p := List.mem_filter.mpr ⟨hx, hpx⟩
  have hmemy : y ∈ l.filter p := List.mem_filter.mpr ⟨hy, hpy⟩
  rw [List.countP_eq_length_filter] at h
  rcases hfilter : l.filter p with - | ⟨z, - | ⟨_, _⟩⟩
  · rw [hfilter] at hmemx
    cases hmemx
  · rw [hfilter] at hmemx hmemy
    exact (List.mem_singleton.mp hmemx).trans (List.mem_singleton.mp hmemy).symm
  · rw [hfilter, List.length_cons, List.length_cons] at h
    omega

/-- A cluster that was created is the cluster of a create call. -/
theorem Run.exists_of_mem_createdAmong {talks : List Workflow.Talk} {d : Cluster.Descriptor}
    (h : d ∈ Run.createdAmong talks) :
    ∃ o name, (⟨.create o, .ok name⟩ : Workflow.Talk) ∈ talks ∧ o.descriptor name = d := by
  obtain ⟨⟨call, answer⟩, htalk, hcreated⟩ := List.mem_filterMap.mp h
  cases call with
  | create o =>
      cases answer with
      | ok name => exact ⟨o, name, htalk, Option.some.inj hcreated⟩
      | error e => cases hcreated
  | status cluster => cases hcreated
  | sleep ms => cases hcreated
  | compensate stage created => cases hcreated

/-- The call that created a cluster brings it among those that were created. -/
theorem Run.mem_createdAmong {talks : List Workflow.Talk} {o : Cluster.Order} {name : String}
    (h : (⟨.create o, .ok name⟩ : Workflow.Talk) ∈ talks) :
    o.descriptor name ∈ Run.createdAmong talks :=
  List.mem_filterMap.mpr ⟨_, h, rfl⟩

/-- **When an acknowledged cluster is reported.**  Where a run with a client and a backend ends with
the failure of a stage, the list of the failure is handed over for compensation, and nothing else
is; and a cluster whose create call was acknowledged is in it if and only if the result is one that
is taken. -/
theorem acknowledged_reported_iff (settings : Run.Settings) (c : Backend.Client)
    (backend : Backend.Responder) (r : Request) (port : UInt16) (a : Allotment) (f : Run.Failure) :
    let w := provisioning settings r port a
    let env := c.environment backend
    (w.run env []).2 = .error (.stage f) →
    Run.compensations (w.acts env []) = [(f.stage, f.created)] ∧
      ∀ pre o post v, (w.run env []).1 = pre ++ .called (.create o) :: post →
        c.acknowledgement backend pre o = some v →
        ((∃ d ∈ f.created, d.kind = o.kind) ↔ Backend.namesCluster v = true) := by
  intro w env hfailed
  obtain ⟨result, hcourse, hresult⟩ := exists_course env settings r port a []
  obtain rfl : result = .error f := by
    cases result with
    | ok workspace => cases hfailed.symm.trans hresult
    | error g =>
        cases hfailed.symm.trans hresult
        rfl
  have hexact := hcourse.exact
  obtain ⟨before, hbefore, hacts⟩ := hexact.compensated
  refine ⟨?_, ?_⟩
  · rw [hacts, Run.compensations_append, hbefore]
    rfl
  intro pre o post v hcall hack
  have hanswered := Workflow.mem_talks_of_run hcall (Nat.zero_le _)
  have hanswer := Backend.Client.answer_of_acknowledgement hack
  rw [hexact.created_eq]
  cases htaken : Backend.namesCluster v with
  | true =>
      rw [if_pos htaken] at hanswer
      obtain ⟨name, hname⟩ := hanswer
      rw [hname] at hanswered
      exact ⟨fun _ => rfl, fun _ => ⟨_, Run.mem_createdAmong hanswered, rfl⟩⟩
  | false =>
      rw [htaken, if_neg Bool.false_ne_true] at hanswer
      obtain ⟨message, hmessage⟩ := hanswer
      rw [hmessage] at hanswered
      constructor
      · -- The run creates each kind once, and the create call of this one has failed.
        rintro ⟨d, hd, hkind⟩
        obtain ⟨other, name, hcreated, rfl⟩ := Run.exists_of_mem_createdAmong hd
        have honce := hcourse.shape.orderly.create_once o.kind
        have hsame := eq_of_countP_le_one honce hanswered hcreated
          (by simp [Run.creates]) (beq_iff_eq.mpr hkind)
        cases hsame
      · nofun

/-- A cluster that was acknowledged with a result without a name is reported when it does not get
ready. -/
theorem acknowledged_reported_of_unready :
    let r : Request := { clientPort := some 9092, nodes := ["node"] }
    let run := (provisioning Run.strict r 9092 default).run
      (Backend.loopback.environment (Backend.answeringPosts Backend.namelessReply)) []
    ∃ f, run.2 = .error (.stage f) ∧ ∃ d ∈ f.created, d.kind = .coordinationService := by
  intro r run
  let order := Run.coordinationServiceOrder r 9092 default
  have hack : Backend.loopback.acknowledgement (Backend.answeringPosts Backend.namelessReply)
      (Run.started r 9092) order = some (.object []) :=
    Backend.acknowledgement_answeringPosts Backend.ofText_namelessReply _ _
  obtain ⟨name, hname⟩ := Backend.Client.answer_of_acknowledgement hack
  obtain ⟨post, hcall⟩ := Run.exists_first_call r 9092 default
    (Backend.loopback.environment (Backend.answeringPosts Backend.namelessReply))
  have hfailed := Run.run_of_unready hname fun before =>
    Backend.status_answeringPosts Backend.loopback Backend.namelessReply before name
  refine ⟨_, hfailed, ?_⟩
  have hreported := acknowledged_reported_iff Run.strict Backend.loopback
    (Backend.answeringPosts Backend.namelessReply) r 9092 default _ hfailed
  exact (hreported.2 _ order post _ hcall hack).mpr rfl

/-- **An acknowledged cluster that is not reported**: the reply to its create call has no
result. -/
theorem acknowledged_not_always_reported :
    ¬ ∀ (settings : Run.Settings) (c : Backend.Client) (backend : Backend.Responder) (r : Request)
      (port : UInt16) (a : Allotment) (f : Run.Failure), r.validate = .ok port →
      let run := (provisioning settings r port a).run (c.environment backend) []
      run.2 = .error (.stage f) →
        ∀ pre o post v, run.1 = pre ++ .called (.create o) :: post →
          c.acknowledgement backend pre o = some v → ∃ d ∈ f.created, d.kind = o.kind := by
  intro hall
  let r : Request := { clientPort := some 9092, nodes := ["node"] }
  let order := Run.coordinationServiceOrder r 9092 default
  have hack : Backend.loopback.acknowledgement (Backend.answeringPosts Backend.bareReply)
      (Run.started r 9092) order = some .null :=
    Backend.acknowledgement_answeringPosts Backend.ofText_bareReply _ _
  obtain ⟨message, hanswer⟩ := Backend.Client.answer_of_acknowledgement hack
  obtain ⟨post, hcall⟩ := Run.exists_first_call r 9092 default
    (Backend.loopback.environment (Backend.answeringPosts Backend.bareReply))
  obtain ⟨d, hd, -⟩ := hall Run.strict _ _ r 9092 default _ rfl (Run.run_of_refused hanswer) _ order
    _ _ hcall hack
  cases hd

end Provisioning
