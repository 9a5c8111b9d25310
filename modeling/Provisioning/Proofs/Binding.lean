/-
**Bound to what was created.**

Three names of a cluster travel side by side through a run: the one that is ordered, the one that
the backend gives it, and the one by which the next cluster finds it.  As long as a backend keeps
the names it is asked for, they are all the same, and a run that mixes them up looks well.  When a
backend renames a cluster, such a run binds the next one to a cluster that does not exist, or waits
for the state of another.

What a run orders and what it asks follows from the clusters that were created before, under the
names that their create calls returned.  `Run.FollowsOn` says so for each single call; all that can
be asked about names, nodes and plugins is read off it.

Main definitions:

* `Run.orderAfter` — the order that follows on some clusters;
* `Run.FollowsOn` — **a call follows on the clusters before it**;
* `Cluster.Order.Carries`, `Cluster.Descriptor.Carries` — what the body of a create call, and the
  cluster that it makes, have from the request;
* `Run.Bound` — **every call and every cluster is bound** to the cluster before;
* `Run.Workspace.Names` — a workspace names the clusters that were created.

Main results:

* `Run.Course.followsOn` — every call of a run follows on the clusters before it;
* `bound_to_created` — **all runs, of all callers, in all histories**.
-/

import Provisioning.Proofs.FailureReport
import Provisioning.Proofs.RunShape

set_option relaxedAutoImplicit false
set_option autoImplicit false

namespace Provisioning

/-! ### The nodes of a cluster -/

namespace Cluster.NameSet

/-- A name more keeps the order. -/
theorem pairwise_insert {names : List String} (h : names.Pairwise (· < ·)) (name : String) :
    (insert name names).Pairwise (· < ·) := by
  induction names with
  | nil => exact List.pairwise_singleton _ _
  | cons other rest ih =>
      obtain ⟨hother, hrest⟩ := List.pairwise_cons.mp h
      unfold insert
      split
      · rename_i hlt
        refine List.pairwise_cons.mpr ⟨?_, h⟩
        intro third hthird
        rcases List.mem_cons.mp hthird with rfl | hthird
        · exact hlt
        · exact String.lt_trans hlt (hother third hthird)
      · rename_i hnlt
        split
        · exact h
        · rename_i hne
          -- The name belongs further back, where it meets only names behind `other`.
          have hlt : other < name :=
            String.not_le.mp fun hle => hne (String.le_antisymm hle (String.not_lt.mp hnlt))
          refine List.pairwise_cons.mpr ⟨?_, ih hrest⟩
          intro third hthird
          rcases (mem_insert rest).mp hthird with rfl | hthird
          · exact hlt
          · exact hother third hthird

/-- The names of a set are in strictly ascending order. -/
theorem pairwise_ofList (names : List String) : (ofList names).Pairwise (· < ·) := by
  induction names with
  | nil => exact List.Pairwise.nil
  | cons name rest ih => exact pairwise_insert ih name

end Cluster.NameSet

/-! ### What orders and clusters have from the request -/

/-- **What the body of a create call says of the request**, and of the cluster that the ordered one
is bound to. -/
structure Cluster.Order.Carries (o : Order) (r : Request) (port : UInt16) (bound : Option String) :
    Prop where
  clientPort : o.json.member? "clientPort" = some (.natural port.toNat)
  /-- The nodes are those of the request, in its order and with its repetitions. -/
  nodes : o.json.member? "nodeNames" = some (.strings r.nodes)
  plugins : o.json.member? "plugins" =
    if o.kind = .worker then some (.strings r.plugins) else none
  coordinationService : o.json.member? "zookeeperClusterName" =
    if o.kind = .broker then bound.map .string else none
  broker : o.json.member? "brokerClusterName" =
    if o.kind = .worker then bound.map .string else none

/-- **What a cluster has from the request**, and the cluster it is bound to. -/
structure Cluster.Descriptor.Carries (d : Descriptor) (r : Request) (port : UInt16)
    (bound : Option String) : Prop where
  clientPort : d.clientPort = port
  boundTo : d.boundTo = bound
  ascending : d.nodes.Pairwise (· < ·)
  mem_nodes (node : String) : node ∈ d.nodes ↔ node ∈ r.nodes

namespace Run

open Cluster (Kind Order Descriptor)
open Workflow (Act Talk talks talks_nil talks_append talks_published Throughout throughout_nil
  throughout_append_iff throughout_cons_iff throughout_of_forall filterMap_eq_nil_of_subset)

/-! ### What follows on the clusters so far -/

/-- The order that follows on some clusters: it is bound to the last of them, under the name that
the backend gave it. -/
def orderAfter (r : Request) (port : UInt16) (a : Allotment) : List Descriptor → Option Order
  | [] => some (coordinationServiceOrder r port a)
  | [coordination] => some (brokerOrder r port a coordination.name)
  | [_, broker] => some (workerOrder r port a broker.name)
  | _ => none

/-- What follows on some clusters carries the request, and the name of the last of them. -/
theorem carries_of_orderAfter {r : Request} {port : UInt16} {a : Allotment}
    {created : List Descriptor} {order : Order} (h : orderAfter r port a created = some order) :
    order.Carries r port (created.getLast?.map (·.name)) := by
  match created, h with
  | [], rfl => exact ⟨rfl, rfl, rfl, rfl, rfl⟩
  | [_], rfl => exact ⟨rfl, rfl, rfl, rfl, rfl⟩
  | [_, _], rfl => exact ⟨rfl, rfl, rfl, rfl, rfl⟩

/-- So does the cluster that it makes. -/
theorem carries_descriptor_of_orderAfter {r : Request} {port : UInt16} {a : Allotment}
    {created : List Descriptor} {order : Order} (h : orderAfter r port a created = some order)
    (name : String) : (order.descriptor name).Carries r port (created.getLast?.map (·.name)) := by
  have hascending := Cluster.NameSet.pairwise_ofList r.nodes
  have hmem (node : String) := Cluster.NameSet.mem_ofList (x := node) r.nodes
  match created, h with
  | [], rfl => exact ⟨rfl, rfl, hascending, hmem⟩
  | [_], rfl => exact ⟨rfl, rfl, hascending, hmem⟩
  | [_, _], rfl => exact ⟨rfl, rfl, hascending, hmem⟩

/-- Of the stages before only their clusters matter for the next order. -/
theorem nextOrder_eq (r : Request) (port : UInt16) (a : Allotment) (earlier : List StageReport) :
    nextOrder r port a earlier = orderAfter r port a (clusters earlier) := by
  match earlier with
  | [] | [_] | [_, _] | _ :: _ :: _ :: _ => rfl

/-- The name of the last cluster that calls have created. -/
def lastName (talks : List Talk) : Option String := (createdAmong talks).getLast?.map (·.name)

/-- **A call follows on the clusters before it**: an order is the next one, and what is asked for is
the last cluster. -/
def FollowsOn (r : Request) (port : UInt16) (a : Allotment) (before : List Talk) : Talk → Prop
  | ⟨.create order, _⟩ => orderAfter r port a (createdAmong before) = some order ∧
      (createdAmong before).map (·.kind) = kindsBefore order.kind
  | ⟨.status cluster, _⟩ => lastName before = some cluster
  | _ => True

variable {settings : Settings} {r : Request} {port : UInt16} {a : Allotment}

theorem followsOn_wait {before : List Talk} {cluster : String}
    (hlast : lastName before = some cluster) {retries : Nat}
    (interval : UInt64) (answers : Poll.Answers retries) :
    Throughout (fun more => FollowsOn r port a (before ++ more))
      (answers.talks interval cluster) := by
  refine throughout_of_forall fun more talk hmore htalk => ?_
  have hcreated : createdAmong more = [] :=
    filterMap_eq_nil_of_subset (createdAmong_wait interval cluster answers) hmore
  rcases Poll.Answers.eq_of_mem_talks htalk with ⟨reply, rfl⟩ | rfl
  · rw [FollowsOn, lastName, createdAmong_append, hcreated, List.append_nil]
    exact hlast
  · trivial

theorem Stage.followsOn {earlier : List StageReport} {order : Order} {acts : List Act}
    {result : Except Failure StageReport} (h : Stage settings earlier order acts result)
    (hnext : nextOrder r port a earlier = some order)
    (hkinds : (clusters earlier).map (·.kind) = kindsBefore order.kind) {before : List Talk}
    (hbefore : createdAmong before = clusters earlier) :
    Throughout (fun more => FollowsOn r port a (before ++ more)) (talks acts) := by
  have hcreate (reply : Except Backend.CallError String) :
      FollowsOn r port a (before ++ []) ⟨.create order, reply⟩ := by
    rw [FollowsOn, List.append_nil, hbefore, ← nextOrder_eq]
    exact ⟨hnext, hkinds⟩
  have hcreation (name : String) (answers : Poll.Answers settings.polling.maxRetries.toNat) :
      Throughout (fun more => FollowsOn r port a (before ++ more))
        (⟨.create order, .ok name⟩ :: answers.talks settings.polling.interval name) := by
    refine throughout_cons_iff.mpr ⟨hcreate (.ok name), ?_⟩
    have hlast : lastName (before ++ [⟨.create order, .ok name⟩]) = some name := by
      rw [lastName, createdAmong_append, createdAmong_created, createdAmong_nil,
        List.getLast?_concat]
      rfl
    have hwait : Throughout (fun more => FollowsOn r port a (_ ++ more)) _ :=
      followsOn_wait hlast settings.polling.interval answers
    simpa [List.append_assoc] using hwait
  cases h with
  | refused e =>
      rw [talks_append, talks_opening, talks_aborting]
      exact throughout_cons_iff.mpr ⟨hcreate _, throughout_cons_iff.mpr ⟨trivial, throughout_nil⟩⟩
  | unready name answers _ _ =>
      rw [talks_append, talks_creation, talks_aborting]
      exact throughout_append_iff.mpr ⟨hcreation name answers,
        throughout_cons_iff.mpr ⟨trivial, throughout_nil⟩⟩
  | passed name answers _ =>
      rw [talks_creation]
      exact hcreation name answers

/-- A stage that is passed has created its cluster. -/
theorem Stage.createdAmong_eq {earlier : List StageReport} {order : Order} {acts : List Act}
    {report : StageReport} (h : Stage settings earlier order acts (.ok report)) :
    createdAmong (talks acts) = [report.cluster] := by
  cases h with
  | passed name answers _ => rw [talks_creation, createdAmong_created, createdAmong_wait]

theorem Stage.kind_eq {earlier : List StageReport} {order : Order} {acts : List Act}
    {report : StageReport} (h : Stage settings earlier order acts (.ok report)) :
    report.cluster.kind = order.kind := by
  cases h with
  | passed name answers _ => rfl

/-- **Each call of the stages** follows on the clusters before it. -/
theorem Stages.followsOn {earlier : List StageReport} {acts : List Act}
    {result : Except Failure (List StageReport)}
    (h : Stages settings (nextOrder r port a) earlier acts result) {kinds : List Kind}
    (hkinds : (clusters earlier).map (·.kind) ++ kinds = Kind.all) (before : List Talk)
    (hbefore : createdAmong before = clusters earlier) :
    Throughout (fun more => FollowsOn r port a (before ++ more)) (talks acts) := by
  induction h generalizing kinds before with
  | complete _ => exact throughout_nil
  | failed hnext hstage =>
      obtain ⟨rest, rfl⟩ := kinds_of_nextOrder hkinds hnext
      exact hstage.followsOn hnext (kindsBefore_eq hkinds) hbefore
  | @passed earlier order acts more report result hnext hstage _ ih =>
      obtain ⟨rest, rfl⟩ := kinds_of_nextOrder hkinds hnext
      rw [talks_append]
      refine throughout_append_iff.mpr
        ⟨hstage.followsOn hnext (kindsBefore_eq hkinds) hbefore, ?_⟩
      have hcreated : createdAmong (before ++ talks acts) = clusters (earlier ++ [report]) := by
        rw [createdAmong_append, hbefore, hstage.createdAmong_eq, clusters_concat]
      simpa [List.append_assoc] using ih (kinds_concat hkinds hstage.kind_eq) _ hcreated

/-- The stages that are passed have created their clusters. -/
theorem Stages.createdAmong_eq {next : List StageReport → Option Order}
    {earlier reports : List StageReport} {acts : List Act}
    (h : Stages settings next earlier acts (.ok reports)) :
    clusters reports = clusters earlier ++ createdAmong (talks acts) := by
  generalize hresult : Except.ok reports = result at h
  induction h with
  | complete _ =>
      obtain rfl := Except.ok.inj hresult
      exact (List.append_nil _).symm
  | failed _ _ => cases hresult
  | passed _ hstage _ ih =>
      rw [ih hresult, talks_append, createdAmong_append, hstage.createdAmong_eq, clusters_concat,
        List.append_assoc]

/-- The stages that are passed are those of all kinds. -/
theorem Stages.kinds_eq {earlier reports : List StageReport} {acts : List Act}
    (h : Stages settings (nextOrder r port a) earlier acts (.ok reports)) {kinds : List Kind}
    (hkinds : (clusters earlier).map (·.kind) ++ kinds = Kind.all) :
    (clusters reports).map (·.kind) = Kind.all := by
  generalize hresult : Except.ok reports = result at h
  induction h generalizing kinds with
  | complete hnext =>
      obtain rfl := Except.ok.inj hresult
      obtain rfl := kinds_of_nextOrder_none hkinds hnext
      rwa [List.append_nil] at hkinds
  | failed _ _ => cases hresult
  | passed hnext hstage _ ih =>
      obtain ⟨rest, rfl⟩ := kinds_of_nextOrder hkinds hnext
      exact ih (kinds_concat hkinds hstage.kind_eq) hresult

/-- **Each call of a run** follows on the clusters before it. -/
theorem Course.followsOn {acts : List Act} {result : Except Failure Workspace}
    (h : Course settings r port a acts result) : Throughout (FollowsOn r port a) (talks acts) := by
  cases h with
  | failed h => exact h.followsOn rfl [] rfl
  | complete h =>
      rw [talks_append, talks_published, talks_nil, List.append_nil]
      exact h.followsOn rfl [] rfl

/-! ### What is bound -/

/-- **Every call and every cluster is bound** to the cluster before, under the name that the backend
gave it. -/
structure Bound (r : Request) (port : UInt16) (talks : List Talk) : Prop where
  /-- What is ordered is bound to the last cluster, and that is the one of the kind before. -/
  orders : Throughout (fun before talk => ∀ order, talk.1 = .create order →
    order.Carries r port (lastName before) ∧
      (createdAmong before).map (·.kind) = kindsBefore order.kind) talks
  /-- What is asked for is the last cluster. -/
  questions : Throughout (fun before talk => ∀ cluster, talk.1 = .status cluster →
    lastName before = some cluster) talks
  clusters : Throughout (fun before cluster =>
    cluster.Carries r port (before.getLast?.map (·.name))) (createdAmong talks)

/-- Calls that follow on the clusters before them are bound to these. -/
theorem bound_of_followsOn {talks : List Talk} (h : Throughout (FollowsOn r port a) talks) :
    Bound r port talks where
  orders := by
    refine h.imp ?_
    rintro before ⟨call, reply⟩ hfollows order rfl
    obtain ⟨hnext, hkinds⟩ := hfollows
    exact ⟨carries_of_orderAfter hnext, hkinds⟩
  questions := by
    refine h.imp ?_
    rintro before ⟨call, reply⟩ hfollows cluster rfl
    exact hfollows
  clusters := by
    refine Throughout.filterMap (h.imp ?_)
    rintro before ⟨call, reply⟩ hfollows cluster hcluster
    cases call with
    | create order =>
        cases reply with
        | ok name =>
            obtain rfl := Option.some.inj hcluster
            exact carries_descriptor_of_orderAfter hfollows.1 name
        | error e => cases hcluster
    | status _ => cases hcluster
    | sleep _ => cases hcluster
    | compensate _ _ => cases hcluster

/-- **A workspace names the clusters that were created**, one of each kind, under the names that the
backend gave them. -/
structure Workspace.Names (w : Workspace) (talks : List Talk) : Prop where
  names_eq : (createdAmong talks).map (·.name) = [w.coordinationService, w.broker, w.worker]
  kinds_eq : (createdAmong talks).map (·.kind) = Kind.all
  stages_eq : clusters w.stages = createdAmong talks

/-- A run that succeeds names its clusters. -/
theorem Course.names {acts : List Act} {w : Workspace}
    (h : Course settings r port a acts (.ok w)) : w.Names (talks acts) := by
  cases h with
  | complete h =>
      have hcreated := h.createdAmong_eq
      rw [clusters_nil, List.nil_append] at hcreated
      rw [talks_append, talks_published, talks_nil, List.append_nil]
      refine ⟨?_, ?_, hcreated⟩
      · rw [← hcreated]
        rfl
      · rw [← hcreated]
        exact h.kinds_eq rfl

end Run

/-! ### All runs -/

/-- **Bound to what was created.**  In a run with any environment, whose answers may depend on
everything before and may rename every cluster, each call and each cluster is bound to the cluster
before, and the workspace names the clusters; and so it is in any caller's run in any history,
whether it has returned, still waits, or was given up. -/
theorem bound_to_created (settings : Run.Settings) :
    (∀ (r : Request) (port : UInt16) (a : Allotment) (env : Workflow.Environment),
      let w := Run.workflow settings r port a
      let talks := Workflow.talks (w.acts env [])
      Run.Bound r port talks ∧
        ∀ workspace, (w.run env []).2 = .ok workspace → workspace.Names talks) ∧
    ∀ moments : List Moment, ∀ f ∈ (History.after settings moments).flights,
      f.request.validate = .ok f.port ∧ f.Begins (Run.Bound f.request f.port) ∧
        ∀ workspace, f.standing = .returned (.ok workspace) → workspace.Names f.talks := by
  constructor
  · intro r port a env w talks
    have hcourse := Run.ends_workflow_iff.mp (Workflow.ends_acts env w [])
    refine ⟨Run.bound_of_followsOn hcourse.followsOn, fun workspace hresult => ?_⟩
    rw [hresult] at hcourse
    exact hcourse.names
  · intro moments f hf
    have hfaithful := (History.sound_after settings moments).faithful f hf
    refine ⟨hfaithful.1, hfaithful.begins fun acts answer hends => ?_,
      fun workspace hstanding => ?_⟩
    · obtain ⟨result, hcourse, _⟩ := ends_provisioning_iff.mp hends
      exact Run.bound_of_followsOn hcourse.followsOn
    · obtain ⟨result, hcourse, hanswer⟩ := hfaithful.course_of_returned hstanding
      obtain rfl := answerOf_eq_ok_iff.mp hanswer.symm
      exact hcourse.names

/-- A run whose coordination service is renamed, and that was given up at the create call of its
broker: it asks for the new name, and binds the broker to it. -/
theorem bound_to_created_of_renamed :
    let r : Request := { clientPort := some 9092, nodes := ["b", "a", "b"], plugins := ["p"] }
    ∀ reply : Except Backend.CallError String, ∃ more, Run.Bound r 9092 ([
      ⟨.create (Run.coordinationServiceOrder r 9092 default), .ok "renamed"⟩,
      ⟨.status "renamed", .ok .running⟩,
      ⟨.create (Run.brokerOrder r 9092 default "renamed"), reply⟩] ++ more) := by
  intro r
  let reply := Workflow.answering (.ok "renamed") (.ok .running)
  have h := (bound_to_created {}).2
    [.call 0 r fun _ _ => default, .reply 0 reply, .reply 0 reply, .abandon 0]
  exact (h _ (List.mem_singleton.mpr rfl)).2.1

end Provisioning
