/-
**What a failure reports.**

The clusters of a failed run are left running, and the failure is the only record of them: whoever
cleans up after the run works from its list.  The list is built up along the run and leaves it in
two places, where a create call fails and where a wait does, in each of three stages.  A cluster
that is lost at one of these points runs on unnoticed; one that is listed twice is cleaned up twice.

A failure also says why the run ended.  The cause is not only one that the backend gave: it is the
answer to the last thing that was asked of it, for the very stage that is named.

Main definitions:

* `Run.createdAmong` — the clusters that calls have created;
* `Run.Failure.Explained` — the cause of a failure, in the last calls of the run;
* `Run.Failure.Exact` — **a failure says what has happened**.

Main results:

* `Run.Course.exact` — every failure of a run is exact;
* `failure_report` — **all failures, of all callers, in all histories**.
-/

import Provisioning.Proofs.History

set_option relaxedAutoImplicit false
set_option autoImplicit false

namespace Provisioning

namespace Run

open Cluster (Kind Order Descriptor)
open Workflow (Act Talk talks talks_nil talks_append talks_published)

/-! ### The clusters that were created -/

/-- The cluster that a call has created. -/
def createdBy? : Talk → Option Descriptor
  | ⟨.create order, .ok name⟩ => some (order.descriptor name)
  | _ => none

/-- The clusters that calls have created, in their order. -/
def createdAmong (talks : List Talk) : List Descriptor := talks.filterMap createdBy?

@[simp] theorem createdAmong_nil : createdAmong [] = [] := rfl

@[simp] theorem createdAmong_append (talks more : List Talk) :
    createdAmong (talks ++ more) = createdAmong talks ++ createdAmong more :=
  List.filterMap_append

@[simp] theorem createdAmong_created (order : Order) (name : String) (talks : List Talk) :
    createdAmong (⟨.create order, .ok name⟩ :: talks) =
      order.descriptor name :: createdAmong talks := rfl

@[simp] theorem createdAmong_refused (order : Order) (e : Backend.CallError) (talks : List Talk) :
    createdAmong (⟨.create order, .error e⟩ :: talks) = createdAmong talks := rfl

@[simp] theorem createdAmong_compensate (stage : Kind) (created : List Descriptor)
    (talks : List Talk) :
    createdAmong (⟨.compensate stage created, ()⟩ :: talks) = createdAmong talks := rfl

@[simp] theorem createdAmong_wait {retries : Nat} (interval : UInt64) (cluster : String)
    (answers : Poll.Answers retries) : createdAmong (answers.talks interval cluster) = [] :=
  Poll.Answers.filterMap_talks_eq_nil (fun _ => rfl) rfl answers

/-! ### The cause -/

/-- The kinds that come before a kind. -/
def kindsBefore (stage : Kind) : List Kind := Kind.all.takeWhile (· != stage)

/-- **The cause of a failure**, in the calls of the run.  The create call of the stage failed with
the error that is reported, and the clusters are those of the kinds before it; or the policy is to
fail, the wait for the cluster of the stage ended with the timeout that is reported, and that
cluster is listed too. -/
def Failure.Explained (settings : Settings) (talks : List Talk) (f : Failure) : Prop :=
  match f.cause with
  | .create e =>
    f.created.map (·.kind) = kindsBefore f.stage ∧
      ∃ before order, order.kind = f.stage ∧
        talks = before ++ [⟨.create order, .error e⟩, ⟨.compensate f.stage f.created, ()⟩]
  | .readiness t =>
    settings.policy = .fail ∧ f.created.map (·.kind) = kindsBefore f.stage ++ [f.stage] ∧
      ∃ before order name, ∃ answers : Poll.Answers settings.polling.maxRetries.toNat,
        order.kind = f.stage ∧ ¬ answers.running ∧ t = answers.timeout name ∧
          talks = before ++ ⟨.create order, .ok name⟩ ::
            (answers.talks settings.polling.interval name ++
              [⟨.compensate f.stage f.created, ()⟩])

/-- The cause stands at the end of the calls, whatever was called before. -/
theorem Failure.Explained.behind {settings : Settings} {talks : List Talk} {f : Failure}
    (h : f.Explained settings talks) (earlier : List Talk) :
    f.Explained settings (earlier ++ talks) := by
  rw [Explained] at h ⊢
  cases hcause : f.cause with
  | create e =>
      rw [hcause] at h
      obtain ⟨hkinds, before, order, horder, rfl⟩ := h
      exact ⟨hkinds, earlier ++ before, order, horder, (List.append_assoc _ _ _).symm⟩
  | readiness t =>
      rw [hcause] at h
      obtain ⟨hpolicy, hkinds, before, order, name, answers, horder, hr, ht, rfl⟩ := h
      exact ⟨hpolicy, hkinds, earlier ++ before, order, name, answers, horder, hr, ht,
        (List.append_assoc _ _ _).symm⟩

/-- **A failure says what has happened**: it lists the clusters that were created, in the order of
their calls; it gives the cause; and the run ended with publishing it and handing the list over,
once. -/
structure Failure.Exact (settings : Settings) (acts : List Act) (f : Failure) : Prop where
  created_eq : f.created = createdAmong (talks acts)
  explained : f.Explained settings (talks acts)
  compensated : ∃ before, compensations before = [] ∧
    acts = before ++ [.published (.failed f.stage), .answered (.compensate f.stage f.created) ()]

/-! ### The stages -/

/-- Where the kinds are put apart at one of them, those in front are the kinds before it. -/
theorem kindsBefore_eq {front rest : List Kind} {kind : Kind}
    (h : front ++ kind :: rest = Kind.all) : front = kindsBefore kind := by
  have hnodup : (front ++ kind :: rest).Nodup := by
    rw [h]
    decide
  have hfront : ∀ k ∈ front, (k != kind) = true := by
    intro k hk
    refine bne_iff_ne.mpr fun heq => ?_
    exact (List.nodup_append.mp hnodup).2.2 k hk kind List.mem_cons_self heq
  rw [kindsBefore, ← h, List.takeWhile_append_of_pos hfront,
    List.takeWhile_cons_of_neg (by simp), List.append_nil]

/-- A failed stage explains itself. -/
theorem Stage.explained {settings : Settings} {earlier : List StageReport} {order : Order}
    {acts : List Act} {f : Failure} {rest : List Kind}
    (h : Stage settings earlier order acts (.error f))
    (hkinds : (clusters earlier).map (·.kind) ++ order.kind :: rest = Kind.all) :
    f.created = clusters earlier ++ createdAmong (talks acts) ∧
      f.Explained settings (talks acts) := by
  have hbefore := kindsBefore_eq hkinds
  cases h with
  | refused e =>
      rw [talks_append, talks_opening, talks_aborting]
      refine ⟨(List.append_nil _).symm, hbefore, [], order, rfl, rfl⟩
  | unready name answers hr hp =>
      rw [talks_append, talks_creation, talks_aborting]
      refine ⟨?_, hp, ?_, [], order, name, answers, rfl, hr, rfl, rfl⟩
      · simp
      · rw [List.map_append, hbefore]
        rfl

/-- **A failure among the stages** lists what they have created, and explains itself. -/
theorem Stages.explained {settings : Settings} {r : Request} {port : UInt16} {a : Allotment}
    {earlier : List StageReport} {acts : List Act} {f : Failure} {kinds : List Kind}
    (h : Stages settings (nextOrder r port a) earlier acts (.error f))
    (hkinds : (clusters earlier).map (·.kind) ++ kinds = Kind.all) :
    f.created = clusters earlier ++ createdAmong (talks acts) ∧
      f.Explained settings (talks acts) := by
  -- The failure is found in the last stage, and carried in front through the stages before it.
  generalize hresult : Except.error f = result at h
  induction h generalizing kinds with
  | complete _ => cases hresult
  | failed hnext hstage =>
      obtain rfl := Except.error.inj hresult
      obtain ⟨rest, rfl⟩ := kinds_of_nextOrder hkinds hnext
      exact hstage.explained hkinds
  | passed hnext hstage _ ih =>
      obtain ⟨rest, rfl⟩ := kinds_of_nextOrder hkinds hnext
      cases hstage with
      | passed name answers hp =>
          obtain ⟨hcreated, hexplained⟩ := ih (kinds_concat hkinds rfl) hresult
          rw [talks_append]
          refine ⟨?_, hexplained.behind _⟩
          rw [hcreated]
          simp

/-- **Every failure of a run is exact.** -/
theorem Course.exact {settings : Settings} {r : Request} {port : UInt16} {a : Allotment}
    {acts : List Act} {f : Failure} (h : Course settings r port a acts (.error f)) :
    f.Exact settings acts := by
  obtain ⟨before, hacts, hbefore⟩ := h.ends_aborting
  cases h with
  | failed h =>
      obtain ⟨hcreated, hexplained⟩ := h.explained rfl
      exact ⟨hcreated, hexplained, before, hbefore, hacts⟩

end Run

/-! ### All runs -/

/-- What an answer tells of the acts of its run: a failure is exact, and nothing was handed over
where there is a workspace.  No run is invalid or turned away once it has begun. -/
def Answer.Exact (settings : Run.Settings) (acts : List Workflow.Act) : Answer → Prop
  | .ok _ => Run.compensations acts = []
  | .error (.stage f) => f.Exact settings acts
  | .error (.invalid _) | .error .busy => False

/-- Every answer of a whole conversation is exact. -/
theorem exact_of_ends {settings : Run.Settings} {r : Request} {port : UInt16} {a : Allotment}
    {acts : List Workflow.Act} {answer : Answer}
    (h : Workflow.Ends (provisioning settings r port a) acts answer) :
    answer.Exact settings acts := by
  obtain ⟨result, hcourse, rfl⟩ := ends_provisioning_iff.mp h
  cases result with
  | ok workspace => exact hcourse.no_compensation
  | error f => exact hcourse.exact

/-- **What all failures report.**  With any environment, whose answers may depend on everything
before, the answer of a run is exact; and so is every answer that a caller was given in any
history. -/
theorem failure_report (settings : Run.Settings) :
    (∀ (r : Request) (port : UInt16) (a : Allotment) (env : Workflow.Environment),
      let w := provisioning settings r port a
      Answer.Exact settings (w.acts env []) (w.run env []).2) ∧
    ∀ (moments : List Moment), ∀ f ∈ (History.after settings moments).flights,
      ∀ answer, f.standing = .returned answer → Answer.Exact settings f.acts answer := by
  constructor
  · intro r port a env w
    exact exact_of_ends (Workflow.ends_acts env w [])
  · intro moments f hf answer hstanding
    obtain ⟨_, hfaithful⟩ := (History.sound_after settings moments).faithful f hf
    rw [hstanding] at hfaithful
    exact exact_of_ends hfaithful

/-- A run whose second cluster is refused: the first is listed and handed over. -/
theorem failure_report_of_refused_broker :
    let request : Request := { clientPort := some 9092, nodes := ["node"] }
    let order := Run.coordinationServiceOrder request 9092 default
    let e : Backend.CallError := .timeout "brokers"
    let f : Run.Failure := ⟨.broker, .create e, [order.descriptor "zk"]⟩
    let started : List Workflow.Act := [
      .published (.creating .coordinationService), .answered (.create order) (.ok "zk"),
      .published (.awaiting .coordinationService), .answered (.status "zk") (.ok .running),
      .published (.creating .broker),
      .answered (.create (Run.brokerOrder request 9092 default "zk")) (.error e)]
    Answer.Exact {} (started ++ Run.aborting .broker f.created) (.error (.stage f)) := by
  intro request order e f started
  let created := Workflow.answering (.ok "zk") (.ok .running)
  let refused := Workflow.answering (.error e) (.ok .running)
  have h := (failure_report {}).2 [
    .call 0 request fun _ _ => default,
    .reply 0 created, .reply 0 created, .reply 0 refused, .reply 0 refused]
  exact h _ (List.mem_singleton.mpr rfl) _ rfl

end Provisioning
