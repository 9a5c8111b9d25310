/-
**How a run can go.**

`Provisioning/Run.lean` writes a run as a program: three stages in a row, each of which may throw.
What can be said about all runs is easier to see from outside, where a run is one of a few courses
of events.  A stage is refused, passed, or given up; the stages follow one another as long as they
are passed; and the order of each stage is found from what the stages before it have reported.

The program is opened in this module only.  Every other theorem about runs is an induction over
`Run.Stages`, whose rules are what the program can do, with all the answers it was given.

Main definitions:

* `Run.nextOrder` — the order that follows on the stages so far;
* `Run.Stage`, `Run.Stages`, `Run.Course` — **the courses** of a stage, of the stages, of a run;
* `Run.opening`, `Run.creation`, `Run.aborting` — what all stages have in common.

Main results:

* `Run.ends_establish_iff`, `Run.ends_workflow_iff` — **the conversations of a run** are its
  courses;
* `ends_provisioning_iff`, `exists_course` — and so are those that a caller begins.
-/

import Provisioning.Proofs.Waiting
import Provisioning.Session

set_option relaxedAutoImplicit false
set_option autoImplicit false

namespace Provisioning

namespace Run

open Cluster (Kind Order Descriptor)
open Workflow (Act Ends talks talks_append talks_published entering noting publishing calling
  ends_bind_iff ends_done_iff
  ends_publish_iff ends_note_iff ends_await_iff ends_compensate_iff)

/-! ### What stages have in common -/

/-- The clusters of some stages. -/
def clusters (reports : List StageReport) : List Descriptor := reports.map (·.cluster)

@[simp] theorem clusters_nil : clusters [] = [] := rfl

@[simp] theorem clusters_concat (reports : List StageReport) (report : StageReport) :
    clusters (reports ++ [report]) = clusters reports ++ [report.cluster] := List.map_append

/-- How a stage begins: its create call, with the answer. -/
def opening (order : Order) (reply : Except Backend.CallError String) : List Act :=
  [.published (.creating order.kind), .answered (.create order) reply]

/-- How a stage goes whose cluster was created: the create call, and the wait. -/
def creation (settings : Settings) (order : Order) (name : String)
    (answers : Poll.Answers settings.polling.maxRetries.toNat) : List Act :=
  opening order (.ok name) ++
    .published (.awaiting order.kind) :: answers.acts settings.polling.interval name

/-- How a run ends that fails: the failure is published and then compensated. -/
def aborting (stage : Kind) (created : List Descriptor) : List Act :=
  [.published (.failed stage), .answered (.compensate stage created) ()]

@[simp] theorem talks_opening (order : Order) (reply : Except Backend.CallError String) :
    talks (opening order reply) = [⟨.create order, reply⟩] := rfl

@[simp] theorem talks_creation (settings : Settings) (order : Order) (name : String)
    (answers : Poll.Answers settings.polling.maxRetries.toNat) :
    talks (creation settings order name answers) =
      ⟨.create order, .ok name⟩ :: answers.talks settings.polling.interval name := by
  rw [creation, talks_append, talks_opening, talks_published, Poll.Answers.talks_acts]
  rfl

@[simp] theorem talks_aborting (stage : Kind) (created : List Descriptor) :
    talks (aborting stage created) = [⟨.compensate stage created, ()⟩] := rfl

/-! ### Courses -/

/-- A policy is one of the two. -/
theorem eq_fail_of_ne_proceed {policy : Readiness.Policy} (h : policy ≠ .proceed) :
    policy = .fail := by
  cases policy with
  | proceed => exact absurd rfl h
  | fail => rfl

/-- **The courses of a stage**, behind the stages that `earlier` reports. -/
inductive Stage (settings : Settings) (earlier : List StageReport) (order : Order) :
    List Act → Except Failure StageReport → Prop
  /-- The create call fails. -/
  | refused (e : Backend.CallError) :
      Stage settings earlier order
        (opening order (.error e) ++ aborting order.kind (clusters earlier))
        (.error ⟨order.kind, .create e, clusters earlier⟩)
  /-- The cluster does not report running, and this ends the run. -/
  | unready (name : String) (answers : Poll.Answers settings.polling.maxRetries.toNat) :
      ¬ answers.running → settings.policy = .fail →
      Stage settings earlier order
        (creation settings order name answers ++
          aborting order.kind (clusters earlier ++ [order.descriptor name]))
        (.error ⟨order.kind, .readiness (answers.timeout name),
          clusters earlier ++ [order.descriptor name]⟩)
  /-- The cluster reports running, or it does not matter. -/
  | passed (name : String) (answers : Poll.Answers settings.polling.maxRetries.toNat) :
      answers.running ∨ settings.policy = .proceed →
      Stage settings earlier order (creation settings order name answers)
        (.ok ⟨order.descriptor name, answers.readiness name⟩)

/-- **The courses of the stages** that are left when the stages of `earlier` are passed: `next`
finds the order of each stage, and the stages end where it finds none. -/
inductive Stages (settings : Settings) (next : List StageReport → Option Order) :
    List StageReport → List Act → Except Failure (List StageReport) → Prop
  | complete {earlier : List StageReport} : next earlier = none →
      Stages settings next earlier [] (.ok earlier)
  | failed {earlier : List StageReport} {order : Order} {acts : List Act} {f : Failure} :
      next earlier = some order → Stage settings earlier order acts (.error f) →
      Stages settings next earlier acts (.error f)
  | passed {earlier : List StageReport} {order : Order} {acts more : List Act}
      {report : StageReport} {result : Except Failure (List StageReport)} :
      next earlier = some order → Stage settings earlier order acts (.ok report) →
      Stages settings next (earlier ++ [report]) more result →
      Stages settings next earlier (acts ++ more) result

variable {settings : Settings} {next : List StageReport → Option Order}
  {earlier : List StageReport} {order : Order} {acts : List Act}
  {result : Except Failure (List StageReport)}

/-- Without an order the stages end. -/
theorem stages_of_none_iff (hnext : next earlier = none) :
    Stages settings next earlier acts result ↔ acts = [] ∧ result = .ok earlier := by
  constructor
  · intro h
    cases h with
    | complete => exact ⟨rfl, rfl⟩
    | failed h => rw [hnext] at h; cases h
    | passed h => rw [hnext] at h; cases h
  · rintro ⟨rfl, rfl⟩
    exact Stages.complete hnext

/-- With an order there is one stage more: it ends the run, or the other stages follow. -/
theorem stages_of_some_iff (hnext : next earlier = some order) :
    Stages settings next earlier acts result ↔
      (∃ f, result = .error f ∧ Stage settings earlier order acts (.error f)) ∨
        ∃ before report after, acts = before ++ after ∧
          Stage settings earlier order before (.ok report) ∧
            Stages settings next (earlier ++ [report]) after result := by
  constructor
  · intro h
    cases h with
    | complete h => rw [hnext] at h; cases h
    | failed h hstage =>
        obtain rfl := Option.some.inj (hnext.symm.trans h)
        exact .inl ⟨_, rfl, hstage⟩
    | passed h hstage hmore =>
        obtain rfl := Option.some.inj (hnext.symm.trans h)
        exact .inr ⟨_, _, _, rfl, hstage, hmore⟩
  · rintro (⟨f, rfl, hstage⟩ | ⟨before, report, after, rfl, hstage, hmore⟩)
    · exact Stages.failed hnext hstage
    · exact Stages.passed hnext hstage hmore

/-- The order that follows on the stages so far.  A cluster is bound to the one before it, under
the name the backend gave that one. -/
def nextOrder (r : Request) (port : UInt16) (a : Allotment) : List StageReport → Option Order
  | [] => some (coordinationServiceOrder r port a)
  | [coordination] => some (brokerOrder r port a coordination.cluster.name)
  | [_, broker] => some (workerOrder r port a broker.cluster.name)
  | _ => none

/-- The kinds come in their order: the next order is for the kind that follows on those of the
stages so far. -/
theorem kinds_of_nextOrder {r : Request} {port : UInt16} {a : Allotment}
    {earlier : List StageReport} {order : Order} {kinds : List Kind}
    (hkinds : (clusters earlier).map (·.kind) ++ kinds = Kind.all)
    (hnext : nextOrder r port a earlier = some order) : ∃ rest, kinds = order.kind :: rest := by
  match earlier, hnext with
  | [], rfl => exact ⟨_, hkinds⟩
  | [_], rfl => exact ⟨_, (List.cons.inj hkinds).2⟩
  | [_, _], rfl => exact ⟨_, (List.cons.inj (List.cons.inj hkinds).2).2⟩

/-- One stage more, and one kind less. -/
theorem kinds_concat {earlier : List StageReport} {report : StageReport} {kind : Kind}
    {kinds : List Kind} (hkinds : (clusters earlier).map (·.kind) ++ kind :: kinds = Kind.all)
    (hreport : report.cluster.kind = kind) :
    (clusters (earlier ++ [report])).map (·.kind) ++ kinds = Kind.all := by
  rw [clusters_concat, List.map_append, ← hkinds, List.append_assoc, ← hreport]
  rfl

/-- The stages end when there is a cluster of every kind. -/
theorem kinds_of_nextOrder_none {r : Request} {port : UInt16} {a : Allotment}
    {earlier : List StageReport} {kinds : List Kind}
    (hkinds : (clusters earlier).map (·.kind) ++ kinds = Kind.all)
    (hnext : nextOrder r port a earlier = none) : kinds = [] := by
  match earlier, hnext with
  | _ :: _ :: _ :: _, _ =>
      have hnil := (List.cons.inj (List.cons.inj (List.cons.inj hkinds).2).2).2
      exact (List.append_eq_nil_iff.mp hnil).2

/-- The workspace of three stages. -/
def Workspace.ofStages (coordination broker worker : StageReport) : Workspace where
  coordinationService := coordination.cluster.name
  broker := broker.cluster.name
  worker := worker.cluster.name
  stages := [coordination, broker, worker]

/-- **The courses of a run.** -/
inductive Course (settings : Settings) (r : Request) (port : UInt16) (a : Allotment) :
    List Act → Except Failure Workspace → Prop
  | failed {acts : List Act} {f : Failure} :
      Stages settings (nextOrder r port a) [] acts (.error f) →
      Course settings r port a acts (.error f)
  | complete {acts : List Act} {coordination broker worker : StageReport} :
      Stages settings (nextOrder r port a) [] acts (.ok [coordination, broker, worker]) →
      Course settings r port a (acts ++ [.published .complete])
        (.ok (Workspace.ofStages coordination broker worker))

/-! ### The conversations of a run -/

theorem ends_abort_iff {stage : Kind} {cause : Cause} {created : List Descriptor}
    {acts : List Act} {f : Failure} : Ends (abort stage cause created) acts f ↔
      acts = aborting stage created ∧ f = ⟨stage, cause, created⟩ := by
  simp only [abort, aborting, entering, noting, publishing, calling, Workflow.bind_note,
    Workflow.bind_publish, Workflow.bind_await, Workflow.bind_done, Workflow.pure_eq,
    ends_note_iff, ends_publish_iff, ends_compensate_iff, ends_done_iff]
  constructor
  · rintro ⟨_, rfl, _, rfl, rfl, rfl⟩
    exact ⟨rfl, rfl⟩
  · rintro ⟨rfl, rfl⟩
    exact ⟨_, rfl, _, rfl, rfl, rfl⟩

/-- Ending a run with a failure. -/
theorem ends_abort_bind_iff {α : Type} {stage : Kind} {cause : Cause} {created : List Descriptor}
    {acts : List Act} {result : Except Failure α} :
    Ends (abort stage cause created >>= fun f => .done (.error f)) acts result ↔
      acts = aborting stage created ∧ result = .error ⟨stage, cause, created⟩ := by
  rw [ends_bind_iff]
  constructor
  · rintro ⟨_, f, _, rfl, habort, h⟩
    obtain ⟨rfl, rfl⟩ := ends_abort_iff.mp habort
    obtain ⟨rfl, rfl⟩ := ends_done_iff.mp h
    exact ⟨List.append_nil _, rfl⟩
  · rintro ⟨rfl, rfl⟩
    exact ⟨_, _, [], (List.append_nil _).symm, ends_abort_iff.mpr ⟨rfl, rfl⟩,
      ends_done_iff.mpr ⟨rfl, rfl⟩⟩

/-- A step that cannot end the run, and steps behind it. -/
theorem run_lift_bind {α β : Type} (w : Workflow α) (f : α → Steps β) :
    ((liftM w : Steps α) >>= f).run = w >>= fun a => (f a).run := ExceptT.run_bind_lift w f

/-- What a stage does when the wait for its cluster is over. -/
def judge (settings : Settings) (earlier : List StageReport) (order : Order) (name : String) :
    Except Readiness.Timeout UInt32 → Workflow (Except Failure StageReport)
  | .ok attempts => return .ok ⟨order.descriptor name, .running attempts⟩
  | .error timeout =>
    match settings.policy with
    | .fail => do
      return .error (← abort order.kind (.readiness timeout)
        (clusters earlier ++ [order.descriptor name]))
    | .proceed => do
      noting (.continuing order.kind timeout)
      return .ok ⟨order.descriptor name, .timedOut timeout⟩

/-- A stage, with every end of the run written out. -/
theorem run_establish (settings : Settings) (earlier : List StageReport) (order : Order) :
    (establish settings earlier order).run = (do
      entering (.creating order.kind)
      match ← calling (.create order) with
      | .error e => return .error (← abort order.kind (.create e) (clusters earlier))
      | .ok name =>
        entering (.awaiting order.kind)
        judge settings earlier order name (← Poll.wait settings.polling name)) := by
  simp only [establish, run_lift_bind]
  refine bind_congr fun _ => bind_congr fun reply => ?_
  cases reply with
  | error e =>
      rw [run_lift_bind]
      rfl
  | ok name =>
      simp only [run_lift_bind]
      refine bind_congr fun _ => bind_congr fun waited => ?_
      cases waited with
      | ok attempts => rfl
      | error timeout =>
          rw [judge]
          cases settings.policy with
          | fail =>
              rw [run_lift_bind]
              rfl
          | proceed =>
              rw [run_lift_bind]
              rfl

/-- When the wait is over, the stage is passed or the run is aborted. -/
theorem ends_judge_iff {settings : Settings} {earlier : List StageReport} {order : Order}
    {name : String} (answers : Poll.Answers settings.polling.maxRetries.toNat) {acts : List Act}
    {result : Except Failure StageReport} :
    Ends (judge settings earlier order name (answers.result name)) acts result ↔
      if answers.running ∨ settings.policy = .proceed then
        acts = [] ∧ result = .ok ⟨order.descriptor name, answers.readiness name⟩
      else
        acts = aborting order.kind (clusters earlier ++ [order.descriptor name]) ∧
          result = .error ⟨order.kind, .readiness (answers.timeout name),
            clusters earlier ++ [order.descriptor name]⟩ := by
  rw [Poll.Answers.result, Poll.Answers.readiness]
  by_cases hr : answers.running
  · simp [hr, judge]
  · cases hp : settings.policy with
    | fail => simp [hr, hp, judge, ends_abort_bind_iff]
    | proceed => simp [hr, hp, judge, noting]

/-- **The conversations of a stage are its courses.** -/
theorem ends_establish_iff {settings : Settings} {earlier : List StageReport} {order : Order}
    {acts : List Act} {result : Except Failure StageReport} :
    Ends (establish settings earlier order).run acts result ↔
      Stage settings earlier order acts result := by
  simp only [run_establish, entering, noting, publishing, calling, Workflow.bind_note,
    Workflow.bind_publish, Workflow.bind_await, Workflow.bind_done, Workflow.pure_eq,
    ends_note_iff, ends_publish_iff, ends_await_iff]
  constructor
  · rintro ⟨_, rfl, reply, rest, rfl, h⟩
    cases reply with
    | error e =>
        obtain ⟨rfl, rfl⟩ := ends_abort_bind_iff.mp h
        exact Stage.refused e
    | ok name =>
        -- There is a cluster: its wait is a list of replies, and the last one is judged.
        obtain ⟨_, rfl, hsettle⟩ := ends_publish_iff.mp (ends_note_iff.mp h)
        obtain ⟨_, waited, rest, rfl, hwait, hjudge⟩ := ends_bind_iff.mp hsettle
        obtain ⟨answers, rfl, rfl⟩ := Poll.ends_wait_iff.mp hwait
        rw [ends_judge_iff] at hjudge
        by_cases hp : answers.running ∨ settings.policy = .proceed
        · rw [if_pos hp] at hjudge
          obtain ⟨rfl, rfl⟩ := hjudge
          rw [List.append_nil]
          exact Stage.passed name answers hp
        · rw [if_neg hp] at hjudge
          obtain ⟨rfl, rfl⟩ := hjudge
          obtain ⟨hr, hpolicy⟩ := not_or.mp hp
          exact Stage.unready name answers hr (eq_fail_of_ne_proceed hpolicy)
  · intro h
    cases h with
    | refused e =>
        exact ⟨_, rfl, .error e, _, rfl, ends_abort_bind_iff.mpr ⟨rfl, rfl⟩⟩
    | unready name answers hr hp =>
        refine ⟨_, rfl, .ok name, _, rfl, ends_note_iff.mpr (ends_publish_iff.mpr ⟨_, rfl, ?_⟩)⟩
        refine ends_bind_iff.mpr ⟨_, _, _, rfl, Poll.ends_wait_iff.mpr ⟨answers, rfl, rfl⟩, ?_⟩
        rw [ends_judge_iff, if_neg (not_or.mpr ⟨hr, by simp [hp]⟩)]
        exact ⟨rfl, rfl⟩
    | passed name answers hp =>
        refine ⟨_, rfl, .ok name, _, rfl, ends_note_iff.mpr (ends_publish_iff.mpr ⟨_, rfl, ?_⟩)⟩
        refine ends_bind_iff.mpr ⟨_, _, [], (List.append_nil _).symm,
          Poll.ends_wait_iff.mpr ⟨answers, rfl, rfl⟩, ?_⟩
        rw [ends_judge_iff, if_pos hp]
        exact ⟨rfl, rfl⟩

/-- Steps one after the other: the run ends in the first, or goes on behind it. -/
theorem ends_steps_bind_iff {α β : Type} {x : Steps α} {f : α → Steps β} {acts : List Act}
    {result : Except Failure β} : Ends (x >>= f).run acts result ↔
      (∃ e, result = .error e ∧ Ends x.run acts (.error e)) ∨
        ∃ before a after, acts = before ++ after ∧ Ends x.run before (.ok a) ∧
          Ends (f a).run after result := by
  rw [ExceptT.run_bind, ends_bind_iff]
  constructor
  · rintro ⟨before, stop, after, rfl, hx, h⟩
    cases stop with
    | error e =>
        obtain ⟨rfl, rfl⟩ := ends_done_iff.mp h
        rw [List.append_nil]
        exact .inl ⟨e, rfl, hx⟩
    | ok a => exact .inr ⟨before, a, after, rfl, hx, h⟩
  · rintro (⟨e, rfl, hx⟩ | ⟨before, a, after, rfl, hx, h⟩)
    · exact ⟨acts, .error e, [], (List.append_nil acts).symm, hx, ends_done_iff.mpr ⟨rfl, rfl⟩⟩
    · exact ⟨before, .ok a, after, rfl, hx, h⟩

/-- What a run does when its stages are passed. -/
theorem ends_completion_iff {coordination broker worker : StageReport} {acts : List Act}
    {result : Except Failure Workspace} :
    Ends (do
        liftM (entering .complete)
        liftM (noting (.ready coordination.cluster.name broker.cluster.name worker.cluster.name))
        return Workspace.ofStages coordination broker worker : Steps Workspace).run acts result ↔
      acts = [.published .complete] ∧
        result = .ok (Workspace.ofStages coordination broker worker) := by
  simp only [run_lift_bind, entering, noting, publishing, ExceptT.run_pure, Workflow.bind_note,
    Workflow.bind_publish, Workflow.bind_done, Workflow.pure_eq, ends_note_iff, ends_publish_iff,
    ends_done_iff]
  constructor
  · rintro ⟨_, rfl, rfl, rfl⟩
    exact ⟨rfl, rfl⟩
  · rintro ⟨rfl, rfl⟩
    exact ⟨_, rfl, rfl, rfl⟩

/-- The courses of the stages that are left, with what `finish` allows behind the last one. -/
def Finishes (settings : Settings) (next : List StageReport → Option Order)
    (finish : List StageReport → List Act → Except Failure Workspace → Prop)
    (earlier : List StageReport) (acts : List Act) (result : Except Failure Workspace) : Prop :=
  (∃ f, result = .error f ∧ Stages settings next earlier acts (.error f)) ∨
    ∃ before reports after, acts = before ++ after ∧
      Stages settings next earlier before (.ok reports) ∧ finish reports after result

section Finishes

variable {settings : Settings} {next : List StageReport → Option Order}
  {finish : List StageReport → List Act → Except Failure Workspace → Prop}
  {earlier : List StageReport} {order : Order} {acts : List Act}
  {result : Except Failure Workspace}

/-- Behind the last stage. -/
theorem finishes_of_none_iff (hnext : next earlier = none) :
    Finishes settings next finish earlier acts result ↔ finish earlier acts result := by
  constructor
  · rintro (⟨f, rfl, hstages⟩ | ⟨_, reports, after, rfl, hstages, hfinish⟩)
    · cases ((stages_of_none_iff hnext).mp hstages).2
    · obtain ⟨rfl, hreports⟩ := (stages_of_none_iff hnext).mp hstages
      obtain rfl := Except.ok.inj hreports
      exact hfinish
  · intro hfinish
    exact .inr ⟨[], earlier, acts, rfl, Stages.complete hnext, hfinish⟩

/-- One stage, and those behind it. -/
theorem finishes_of_some_iff (hnext : next earlier = some order) :
    Finishes settings next finish earlier acts result ↔
      (∃ f, result = .error f ∧ Stage settings earlier order acts (.error f)) ∨
        ∃ before report after, acts = before ++ after ∧
          Stage settings earlier order before (.ok report) ∧
            Finishes settings next finish (earlier ++ [report]) after result := by
  constructor
  · rintro (⟨f, rfl, hstages⟩ | ⟨_, reports, after, rfl, hstages, hfinish⟩)
    · rcases (stages_of_some_iff hnext).mp hstages with
        ⟨g, hg, hstage⟩ | ⟨before, report, after, rfl, hstage, hmore⟩
      · obtain rfl := Except.error.inj hg
        exact .inl ⟨f, rfl, hstage⟩
      · exact .inr ⟨before, report, after, rfl, hstage, .inl ⟨f, rfl, hmore⟩⟩
    · rcases (stages_of_some_iff hnext).mp hstages with
        ⟨g, hg, _⟩ | ⟨before, report, between, rfl, hstage, hmore⟩
      · cases hg
      · exact .inr ⟨before, report, between ++ after, List.append_assoc _ _ _, hstage,
          .inr ⟨between, reports, after, rfl, hmore, hfinish⟩⟩
  · rintro (⟨f, rfl, hstage⟩ | ⟨before, report, after, rfl, hstage, hmore⟩)
    · exact .inl ⟨f, rfl, Stages.failed hnext hstage⟩
    · rcases hmore with ⟨f, rfl, hmore⟩ | ⟨between, reports, after, rfl, hmore, hfinish⟩
      · exact .inl ⟨f, rfl, Stages.passed hnext hstage hmore⟩
      · exact .inr ⟨before ++ between, reports, after, (List.append_assoc _ _ _).symm,
          Stages.passed hnext hstage hmore, hfinish⟩

/-- The conversations of a stage and of the steps behind it. -/
theorem ends_establish_bind_iff {steps : StageReport → Steps Workspace}
    (hnext : next earlier = some order)
    (hsteps : ∀ report acts result, Ends (steps report).run acts result ↔
      Finishes settings next finish (earlier ++ [report]) acts result) :
    Ends (establish settings earlier order >>= steps).run acts result ↔
      Finishes settings next finish earlier acts result := by
  rw [ends_steps_bind_iff, finishes_of_some_iff hnext]
  simp only [ends_establish_iff, hsteps]

end Finishes

/-- What a run does behind its stages. -/
def Completes (reports : List StageReport) (acts : List Act)
    (result : Except Failure Workspace) : Prop :=
  ∃ coordination broker worker, reports = [coordination, broker, worker] ∧
    acts = [.published .complete] ∧ result = .ok (Workspace.ofStages coordination broker worker)

theorem course_iff {settings : Settings} {r : Request} {port : UInt16} {a : Allotment}
    {acts : List Act} {result : Except Failure Workspace} :
    Course settings r port a acts result ↔
      Finishes settings (nextOrder r port a) Completes [] acts result := by
  constructor
  · intro h
    cases h with
    | failed h => exact .inl ⟨_, rfl, h⟩
    | complete h => exact .inr ⟨_, _, _, rfl, h, _, _, _, rfl, rfl, rfl⟩
  · rintro (⟨f, rfl, h⟩ | ⟨before, _, _, rfl, h, coordination, broker, worker, rfl, rfl, rfl⟩)
    · exact Course.failed h
    · exact Course.complete h

/-- **The conversations of a run are its courses.** -/
theorem ends_workflow_iff {settings : Settings} {r : Request} {port : UInt16} {a : Allotment}
    {acts : List Act} {result : Except Failure Workspace} :
    Ends (workflow settings r port a) acts result ↔ Course settings r port a acts result := by
  rw [workflow, stages, run_lift_bind, noting, Workflow.bind_note, Workflow.bind_done,
    ends_note_iff, course_iff]
  -- From the first stage to the last, each with the steps behind it.
  refine ends_establish_bind_iff rfl fun coordination _ _ => ?_
  refine ends_establish_bind_iff rfl fun broker _ _ => ?_
  refine ends_establish_bind_iff rfl fun worker acts result => ?_
  rw [finishes_of_none_iff rfl]
  refine ends_completion_iff.trans ?_
  constructor
  · rintro ⟨rfl, rfl⟩
    exact ⟨coordination, broker, worker, rfl, rfl, rfl⟩
  · rintro ⟨_, _, _, hreports, rfl, rfl⟩
    cases hreports
    exact ⟨rfl, rfl⟩

/-! ### Compensation -/

/-- What an act hands over for compensation. -/
def handedOver? : Act → Option (Kind × List Descriptor)
  | .answered (.compensate stage created) _ => some (stage, created)
  | _ => none

/-- What is handed over for compensation among acts. -/
def compensations (acts : List Act) : List (Kind × List Descriptor) := acts.filterMap handedOver?

@[simp] theorem compensations_nil : compensations [] = [] := rfl

@[simp] theorem compensations_append (acts more : List Act) :
    compensations (acts ++ more) = compensations acts ++ compensations more :=
  List.filterMap_append

@[simp] theorem compensations_published (state : ProvisioningState) (acts : List Act) :
    compensations (.published state :: acts) = compensations acts := rfl

@[simp] theorem compensations_opening (order : Order) (reply : Except Backend.CallError String) :
    compensations (opening order reply) = [] := rfl

@[simp] theorem compensations_aborting (stage : Kind) (created : List Descriptor) :
    compensations (aborting stage created) = [(stage, created)] := rfl

@[simp] theorem compensations_wait {retries : Nat} (interval : UInt64) (cluster : String)
    (answers : Poll.Answers retries) : compensations (answers.acts interval cluster) = [] :=
  Poll.Answers.filterMap_acts_eq_nil (fun _ => rfl) rfl answers

@[simp] theorem compensations_creation (settings : Settings) (order : Order) (name : String)
    (answers : Poll.Answers settings.polling.maxRetries.toNat) :
    compensations (creation settings order name answers) = [] := by
  simp [creation]

/-- A failure ends the acts of its stage, and nothing was handed over before. -/
theorem Stage.ends_aborting {settings : Settings} {earlier : List StageReport} {order : Order}
    {acts : List Act} {f : Failure} (h : Stage settings earlier order acts (.error f)) :
    ∃ before, acts = before ++ aborting f.stage f.created ∧ compensations before = [] := by
  cases h with
  | refused e => exact ⟨_, rfl, compensations_opening _ _⟩
  | unready name answers _ _ => exact ⟨_, rfl, compensations_creation _ _ _ answers⟩

theorem Stage.no_compensation {settings : Settings} {earlier : List StageReport} {order : Order}
    {acts : List Act} {report : StageReport} (h : Stage settings earlier order acts (.ok report)) :
    compensations acts = [] := by
  cases h with
  | passed name answers _ => exact compensations_creation _ _ _ answers

theorem Stages.ends_aborting {settings : Settings} {next : List StageReport → Option Order}
    {earlier : List StageReport} {acts : List Act} {f : Failure}
    (h : Stages settings next earlier acts (.error f)) :
    ∃ before, acts = before ++ aborting f.stage f.created ∧ compensations before = [] := by
  generalize hresult : Except.error f = result at h
  induction h with
  | complete _ => cases hresult
  | failed _ hstage =>
      obtain rfl := Except.error.inj hresult
      exact hstage.ends_aborting
  | passed _ hstage _ ih =>
      obtain ⟨before, rfl, hbefore⟩ := ih hresult
      refine ⟨_, (List.append_assoc _ before _).symm, ?_⟩
      rw [compensations_append, hstage.no_compensation, hbefore, List.append_nil]

theorem Stages.no_compensation {settings : Settings} {next : List StageReport → Option Order}
    {earlier : List StageReport} {acts : List Act} {reports : List StageReport}
    (h : Stages settings next earlier acts (.ok reports)) : compensations acts = [] := by
  generalize hresult : Except.ok reports = result at h
  induction h with
  | complete _ => rfl
  | failed _ _ => cases hresult
  | passed _ hstage _ ih =>
      rw [compensations_append, hstage.no_compensation, ih hresult, List.append_nil]

/-- **A run that fails ends with the compensation of its failure**, and hands over nothing else. -/
theorem Course.ends_aborting {settings : Settings} {r : Request} {port : UInt16} {a : Allotment}
    {acts : List Act} {f : Failure} (h : Course settings r port a acts (.error f)) :
    ∃ before, acts = before ++ aborting f.stage f.created ∧ compensations before = [] := by
  cases h with
  | failed h => exact h.ends_aborting

/-- A run that succeeds hands over nothing. -/
theorem Course.no_compensation {settings : Settings} {r : Request} {port : UInt16} {a : Allotment}
    {acts : List Act} {workspace : Workspace}
    (h : Course settings r port a acts (.ok workspace)) : compensations acts = [] := by
  cases h with
  | complete h => rw [compensations_append, h.no_compensation]; rfl

/-- **A compensation follows on the published failure**, wherever it stands in a run. -/
theorem Course.failed_before_compensation {settings : Settings} {r : Request} {port : UInt16}
    {a : Allotment} {before more : List Act} {stage : Kind} {created : List Descriptor}
    {result : Except Failure Workspace}
    (h : Course settings r port a
      (before ++ .answered (.compensate stage created) () :: more) result) :
    ∃ start, before = start ++ [.published (.failed stage)] := by
  cases result with
  | ok workspace =>
      have hnone := h.no_compensation
      rw [compensations_append] at hnone
      cases (List.append_eq_nil_iff.mp hnone).2
  | error f =>
      obtain ⟨start, hacts, hstart⟩ := h.ends_aborting
      -- The compensation is not in `start`, where nothing is handed over, so it is the last act.
      rcases List.append_eq_append_iff.mp hacts with ⟨between, rfl, hrest⟩ | ⟨last, rfl, hrest⟩
      · cases between with
        | nil => cases hrest
        | cons act between =>
            obtain ⟨rfl, _⟩ := List.cons.inj hrest
            rw [compensations_append] at hstart
            cases (List.append_eq_nil_iff.mp hstart).2
      · rcases last with - | ⟨act, - | ⟨other, last⟩⟩
        · cases hrest
        · obtain ⟨rfl, hrest⟩ := List.cons.inj hrest
          cases hrest
          exact ⟨start, rfl⟩
        · have hlength := congrArg List.length hrest
          simp [aborting] at hlength

end Run

/-- What a caller is answered when its run ends. -/
def answerOf : Except Run.Failure Run.Workspace → Answer := Except.mapError .stage

@[simp] theorem answerOf_ok (workspace : Run.Workspace) :
    answerOf (.ok workspace) = .ok workspace := rfl

@[simp] theorem answerOf_error (f : Run.Failure) : answerOf (.error f) = .error (.stage f) := rfl

/-- A caller who gets a workspace gets the one that its run has made. -/
theorem answerOf_eq_ok_iff {result : Except Run.Failure Run.Workspace}
    {workspace : Run.Workspace} : answerOf result = .ok workspace ↔ result = .ok workspace := by
  cases result with
  | ok other => rw [answerOf_ok, Except.ok.injEq, Except.ok.injEq]
  | error f =>
      rw [answerOf_error]
      exact ⟨nofun, nofun⟩

/-- **The conversations of a caller are the courses of its run.** -/
theorem ends_provisioning_iff {settings : Run.Settings} {r : Request} {port : UInt16}
    {a : Allotment} {acts : List Workflow.Act} {answer : Answer} :
    Workflow.Ends (provisioning settings r port a) acts answer ↔
      ∃ result, Run.Course settings r port a acts result ∧ answer = answerOf result := by
  rw [provisioning, Workflow.ends_bind_iff]
  constructor
  · rintro ⟨_, result, _, rfl, hrun, h⟩
    have hcourse := Run.ends_workflow_iff.mp hrun
    cases result with
    | ok workspace =>
        obtain ⟨rfl, rfl⟩ := Workflow.ends_done_iff.mp h
        rw [List.append_nil]
        exact ⟨.ok workspace, hcourse, rfl⟩
    | error f =>
        obtain ⟨rfl, rfl⟩ := Workflow.ends_done_iff.mp h
        rw [List.append_nil]
        exact ⟨.error f, hcourse, rfl⟩
  · rintro ⟨result, hcourse, rfl⟩
    refine ⟨acts, result, [], (List.append_nil acts).symm, Run.ends_workflow_iff.mpr hcourse, ?_⟩
    cases result with
    | ok workspace => exact Workflow.ends_done_iff.mpr ⟨rfl, rfl⟩
    | error f => exact Workflow.ends_done_iff.mpr ⟨rfl, rfl⟩

/-- **Every run has a course**, in whatever surroundings and after whatever events. -/
theorem exists_course (env : Workflow.Environment) (settings : Run.Settings) (r : Request)
    (port : UInt16) (a : Allotment) (before : List Workflow.Event) :
    ∃ result,
      Run.Course settings r port a ((provisioning settings r port a).acts env before) result ∧
      ((provisioning settings r port a).run env before).2 = answerOf result :=
  ends_provisioning_iff.mp (Workflow.ends_acts env (provisioning settings r port a) before)

end Provisioning
