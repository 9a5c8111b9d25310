/-
**Exit status and leftovers.**

Whoever calls the program from a script sees three things of a provisioning: the exit code, what was
printed, and what was reported.  All of them are read off one answer, the last thing that a run
comes to, while the clusters were created long before.  A failure that exits with zero is not
noticed, and a cluster that is missing from the report is left running for good.

The exit code is therefore held against the calls, and these against the requests: a create call has
succeeded if the backend acknowledged it with a result that can name a cluster, and the name is the
one of the result, or the one that was asked for.

There is one more way to end than with a result or with a failure.  The result is shown in a table
unless it is asked for as JSON, and a table cannot be laid out if a backend has given a cluster a
name that is too long for a column.  Then a run that has succeeded breaks down in the end, and
prints nothing.

Main definitions:

* `Run.AllCreated` — a cluster of each kind was created;
* `Run.Watch.RanWithin` — a cluster was seen running within a number of questions;
* `Program.leftRunning` — the clusters that are left running, as they are reported;
* `Program.World.RunSucceeds`, `Program.World.Presentable` — a run succeeds, and its result can be
  shown;
* `Program.World.Reported` — **how a run is reported**.

Main results:

* `Backend.Client.created_iff` — **when a create call succeeds**, and under which name;
* `Run.Course.isOk_iff` — **when a run succeeds**, in its calls;
* `Program.exit_status` — **exit status and leftovers** of a provisioning;
* `Program.exit_status_not_zero_or_one` — a provisioning that breaks down.
-/

import Provisioning.Proofs.AnnouncedPolicy
import Provisioning.Proofs.CreateOutcome
import Provisioning.Proofs.JsonOutput
import Provisioning.Proofs.StageTable
import Provisioning.Proofs.WrittenJson

set_option relaxedAutoImplicit false
set_option autoImplicit false

namespace Provisioning

/-! ### Create calls that succeed -/

namespace Backend

open Cluster (Order)

/-- **When an answer concludes a create call with a name.** -/
theorem createConclusion_eq_ok_iff {o : Order} {url : Url} {e : Exchange} {name : String} :
    (createConclusion o url e).1 = .ok name ↔
      ∃ v, acknowledged? e = some v ∧ namesCluster v = true ∧ name = nameOf o v := by
  constructor
  · intro h
    cases hpayload : (payload o.kind.resource url e).1 with
    | error error =>
        rw [createConclusion_of_error o url hpayload] at h
        cases h
    | ok v =>
        have hack := payload_eq_ok_iff.mp hpayload
        have hconclusion := createConclusion_of_acknowledged o url hack
        cases hnames : namesCluster v with
        | true =>
            rw [createConclusion_of_namesCluster o url hack hnames] at h
            exact ⟨v, hack, hnames, (Except.ok.inj h).symm⟩
        | false =>
            rw [hnames, if_neg Bool.false_ne_true] at hconclusion
            obtain ⟨message, hmessage⟩ := hconclusion
            cases hmessage.symm.trans h
  · rintro ⟨v, hack, hnames, rfl⟩
    exact createConclusion_of_namesCluster o url hack hnames

/-- **When a create call succeeds**: it was acknowledged with a result that can name a cluster, and
this name counts, or else the one that was asked for. -/
theorem Client.created_iff {c : Client} {backend : Responder} {before : List Workflow.Event}
    {o : Order} {name : String} :
    (c.environment backend).answer before (.create o) = .ok name ↔
      ∃ v, c.acknowledgement backend before o = some v ∧ namesCluster v = true ∧
        name = nameOf o v := by
  simp only [environment, answer, acknowledgement]
  rcases c.create_cases o with ⟨url, -, hcreate⟩ | ⟨-, message, hcreate⟩
  · rw [hcreate]
    exact createConclusion_eq_ok_iff
  · rw [hcreate]
    constructor
    · intro h
      cases h
    · rintro ⟨v, hack, -⟩
      cases hack

end Backend

/-! ### Runs that succeed -/

namespace Run

open Cluster (Kind Order Descriptor)
open Poll (stateOf)
open Workflow (Act Talk talks talks_append talks_published talks_nil)

/-- **A cluster of each kind was created.** -/
def AllCreated (calls : List Talk) : Prop :=
  ∀ kind ∈ Kind.all, ∃ (order : Order) (name : String), order.kind = kind ∧
    (⟨.create order, .ok name⟩ : Talk) ∈ calls

/-- The kinds of the clusters that were created are those of the create calls that succeeded. -/
theorem mem_kinds_iff {calls : List Talk} {kind : Kind} :
    kind ∈ (createdAmong calls).map (·.kind) ↔ ∃ (order : Order) (name : String),
      order.kind = kind ∧ (⟨.create order, .ok name⟩ : Talk) ∈ calls := by
  constructor
  · intro hkind
    obtain ⟨d, hd, rfl⟩ := List.mem_map.mp hkind
    obtain ⟨order, name, hcreated, rfl⟩ := exists_of_mem_createdAmong hd
    exact ⟨order, name, rfl, hcreated⟩
  · rintro ⟨order, name, rfl, hcreated⟩
    exact List.mem_map.mpr ⟨_, mem_createdAmong hcreated, rfl⟩

/-- **A cluster was seen running within some questions.** -/
def Watch.RanWithin (w : Watch) (questions : Nat) : Prop :=
  ∃ question ∈ w.questions.take questions, stateOf question.2 = .running

/-- A wait asks no more than it may. -/
theorem Watch.Whole.ranWithin_iff {polling : Readiness.Polling} {w : Watch}
    (h : w.Whole polling) : w.RanWithin (polling.maxRetries.toNat + 1) ↔ w.Ran := by
  obtain ⟨cluster, answers, rfl⟩ := h
  have hle : (ofAnswers cluster answers).questions.length ≤ polling.maxRetries.toNat + 1 := by
    rw [length_questions_ofAnswers]
    exact answers.questions_le
  rw [RanWithin, Ran, List.take_of_length_le hle]

variable {settings : Settings} {r : Request} {port : UInt16} {a : Allotment} {acts : List Act}

/-- Where a wait has ended a run, its cluster was not seen running. -/
theorem exists_not_ran (before : List Talk) (order : Order) (name : String) (interval : UInt64)
    (stage : Kind) (created : List Descriptor) {retries : Nat} {answers : Poll.Answers retries}
    (hnot : ¬ answers.running) :
    ∃ w ∈ watches (before ++ ⟨.create order, .ok name⟩ ::
      (answers.talks interval name ++ [⟨.compensate stage created, ()⟩])), ¬ w.Ran := by
  have hwatch : watches (⟨.create order, .ok name⟩ ::
      (answers.talks interval name ++ [⟨.compensate stage created, ()⟩])) =
      [.ofAnswers (order.descriptor name) answers] := by
    rw [watches_created, watches_append rfl, watches_wait, questionsAhead_wait]
    rw [questionsAhead_compensate, questionsAhead_nil, List.append_nil]
    rfl
  refine ⟨.ofAnswers (order.descriptor name) answers, ?_, ?_⟩
  · rw [watches_append rfl, hwatch]
    exact List.mem_append_right _ List.mem_cons_self
  · rwa [Watch.ran_ofAnswers]

/-- **When a run succeeds**: a cluster of each kind was created, and, if that ends a run, each was
seen running within its questions. -/
theorem Course.isOk_iff {result : Except Failure Workspace}
    (h : Course settings r port a acts result) : result.isOk = true ↔
      AllCreated (talks acts) ∧ (settings.policy = .fail → ∀ w ∈ watches (talks acts),
        w.RanWithin (settings.polling.maxRetries.toNat + 1)) := by
  obtain ⟨hwhole, -⟩ := h.watches_whole
  cases result with
  | ok workspace =>
      refine iff_of_true rfl ⟨fun kind hkind => ?_, fun hpolicy w hw => ?_⟩
      · refine mem_kinds_iff.mp ?_
        rwa [h.names.kinds_eq]
      · refine (hwhole w hw).ranWithin_iff.mpr ((h.stages_eq.2 w hw).resolve_right ?_)
        rw [hpolicy]
        nofun
  | error f =>
      refine iff_of_false Bool.false_ne_true ?_
      rintro ⟨hall, hran⟩
      obtain ⟨hcreated, hexplained, -⟩ := h.exact
      rw [Failure.Explained] at hexplained
      cases hcause : f.cause with
      | create e =>
          rw [hcause, hcreated] at hexplained
          obtain ⟨hkinds, -⟩ := hexplained
          -- The kind of the stage is not among those that were created.
          have hmem := mem_kinds_iff.mpr (hall f.stage (by cases f.stage <;> decide))
          rw [hkinds] at hmem
          revert hmem
          cases f.stage <;> decide
      | readiness t =>
          rw [hcause] at hexplained
          obtain ⟨hpolicy, -, before, order, name, answers, -, hnot, -, htalks⟩ := hexplained
          obtain ⟨w, hw, hlate⟩ := exists_not_ran before order name settings.polling.interval
            f.stage f.created hnot
          rw [← htalks] at hw
          exact hlate ((hwhole w hw).ranWithin_iff.mp (hran hpolicy w hw))

end Run

/-! ### The program -/

namespace Program

open Backend (Client)
open Cluster (Descriptor Order)
open CommandLine (Invocation ProvisionArguments)

/-- **The clusters that are left running**, as they are reported: a line of each, and nothing if
there are none. -/
def leftRunning (created : List Descriptor) : String :=
  match created with
  | [] => ""
  | _ :: _ => "\nClusters left running:\n" ++
      String.join (created.map fun d => s!"  - {d.name} ({d.kind.name})\n")

/-- There is something to report just if there is a cluster. -/
theorem leftRunning_eq_empty_iff (created : List Descriptor) :
    leftRunning created = "" ↔ created = [] := by
  cases created with
  | nil => exact iff_of_true rfl rfl
  | cons d rest =>
      refine iff_of_false (fun h => ?_) (List.cons_ne_nil d rest)
      exact absurd (String.append_eq_empty_iff.mp h).1 (by decide)

/-- The report of a failed stage. -/
theorem failure_stage_eq (f : Run.Failure) : Report.failure (.stage f) =
    s!"Error: {f.stage.name} stage failed: {f.cause.message}\n" ++ leftRunning f.created := by
  have hmessage : s!"Error: {(Failure.stage f).message}\n" =
      s!"Error: {f.stage.name} stage failed: {f.cause.message}\n" := by
    have htext (text : String) : toString text = text := rfl
    unfold Failure.message Run.Failure.message
    simp only [htext, String.append_assoc]
  unfold Report.failure leftRunning
  rw [hmessage, Failure.created]
  cases f.created with
  | nil => rfl
  | cons d rest => rfl

namespace World

variable (w : World) (filter : Notice.Filter) (c : Config) (a : ProvisionArguments)
  (port : UInt16)

/-- **The run of a request succeeds**: a cluster of each kind was created, and, if the configuration
or the command line says that this ends a run, each of them was seen running within its
questions. -/
structure RunSucceeds : Prop where
  created : Run.AllCreated (w.calls c a port)
  ran : c.readinessPolicy = .fail ∨ a.failOnTimeout = true →
    ∀ watch ∈ Run.watches (w.calls c a port), watch.RanWithin (c.maxRetries.toNat + 1)

/-- **Its result can be shown**: as JSON, or in a table into which the name of every cluster
fits. -/
def Presentable : Prop :=
  a.json = true ∨ ∀ d ∈ Run.createdAmong (w.calls c a port),
    d.name.utf8ByteSize ≤ Report.Table.maxWidth

/-- **How a run is reported**: a result is printed if it can be shown, and the program breaks down
over any other; of a failure the stage is said, and the clusters that were created. -/
inductive Reported : Output × ExitCode → Prop
  | printed (text : String) : w.RunSucceeds c a port → w.Presentable c a port →
      Reported (.printed text, 0)
  | brokenDown (text : String) : w.RunSucceeds c a port → ¬ w.Presentable c a port →
      Reported (.reported text, breakdown)
  | failed (f : Run.Failure) : ¬ w.RunSucceeds c a port → (w.ended c a port).2 = .error (.stage f) →
      f.created = Run.createdAmong (w.calls c a port) →
      f.Explained (runSettings c a) (w.calls c a port) →
      Reported (.reported (s!"Error: {f.stage.name} stage failed: {f.cause.message}\n" ++
        leftRunning (Run.createdAmong (w.calls c a port))), 1)

/-- **A run succeeds** just if it ends with a workspace. -/
theorem runSucceeds_iff :
    w.RunSucceeds c a port ↔ ∃ workspace, (w.ended c a port).2 = .ok workspace := by
  obtain ⟨result, hcourse, hresult⟩ := w.exists_course_ended c a port
  have hsucceeds : result.isOk = true ↔ w.RunSucceeds c a port := by
    rw [hcourse.isOk_iff, policy_runSettings_eq_fail_iff]
    exact ⟨fun ⟨hall, hran⟩ => ⟨hall, hran⟩, fun ⟨hall, hran⟩ => ⟨hall, hran⟩⟩
  rw [← hsucceeds, hresult]
  cases result with
  | ok workspace => exact iff_of_true rfl ⟨workspace, rfl⟩
  | error f =>
      refine iff_of_false Bool.false_ne_true ?_
      rintro ⟨workspace, hworkspace⟩
      cases hworkspace

/-- **Every run is reported so.** -/
theorem reported_report : w.Reported c a port (w.report filter c a port) := by
  obtain ⟨result, hcourse, hresult⟩ := w.exists_course_ended c a port
  cases result with
  | ok workspace =>
      have hdone := (w.runSucceeds_iff c a port).mpr ⟨workspace, hresult⟩
      obtain ⟨hshown, hwide⟩ := (w.completed filter c a port workspace).checkedText_eq
        hcourse.stages_ne_nil
      rw [w.report_of_ok filter hresult]
      cases hjson : a.json with
      | true => exact .printed _ hdone (.inl hjson)
      | false =>
          by_cases hfits : workspace.Fits
          · rw [completedText, if_neg Bool.false_ne_true, hshown hfits]
            exact .printed _ hdone (.inr (hcourse.fits_iff.mp hfits))
          · rw [completedText, if_neg Bool.false_ne_true, hwide hfits]
            refine .brokenDown _ hdone fun hpresentable => hfits (hcourse.fits_iff.mpr ?_)
            exact hpresentable.resolve_left (by rw [hjson]; exact Bool.false_ne_true)
  | error f =>
      obtain ⟨hcreated, hexplained, -⟩ := hcourse.exact
      have hfails : ¬ w.RunSucceeds c a port := fun hdone => by
        obtain ⟨workspace, hworkspace⟩ := (w.runSucceeds_iff c a port).mp hdone
        cases hresult.symm.trans hworkspace
      have hreported := Reported.failed f hfails hresult hcreated hexplained
      rw [w.report_of_error filter hresult, failure_stage_eq, hcreated]
      exact hreported

variable {c a port}

/-- The log of a provisioning holds no result. -/
theorem printed_not_mem_log (text : String) : .printed text ∉ w.log filter c a port := by
  intro h
  obtain ⟨time, course, n, hnoted⟩ := eq_noted_of_shows (w.shows_log filter c a port) h
  cases hnoted

/-- **A refused request**: the program exits with one, and prints no result. -/
theorem execute_refused (hreal : a.dryRun = false) {reason : Request.Invalid}
    (hinvalid : a.request.toRequest.validate = .error reason) :
    let execution := (execute w.system filter c (.provision a)).run {}
    execution.1 = 1 ∧ ∀ text, .printed text ∉ execution.2.outputs := by
  have hexecution : (execute w.system filter c (.provision a)).run {} = (1, { w.begun filter c with
      outputs := (w.begun filter c).outputs ++
        [.reported s!"Error: {(Fault.request reason).message}\n"] }) := by
    rw [execute_provision_eq w filter c a hreal, provision, hinvalid]
    rfl
  rw [hexecution]
  refine ⟨rfl, fun text htext => ?_⟩
  have hshows : List.Forall₂ (Shows filter) (w.begun filter c).outputs _ :=
    shows_noted (t := {}) .nil (.provisioningAgainst c.apiUrl)
  rcases List.mem_append.mp htext with hlog | hreport
  · obtain ⟨time, course, n, hnoted⟩ := eq_noted_of_shows hshows hlog
    cases hnoted
  · cases List.mem_singleton.mp hreport

/-- **A run that ends as it is reported**: the exit code, and that a result is printed only with
zero. -/
theorem execute_reported (hreal : a.dryRun = false)
    (hvalid : a.request.toRequest.validate = .ok port) :
    let execution := (execute w.system filter c (.provision a)).run {}
    (execution.1 = 0 ↔ w.RunSucceeds c a port ∧ w.Presentable c a port) ∧
      (execution.1 = breakdown ↔ w.RunSucceeds c a port ∧ ¬ w.Presentable c a port) ∧
      (execution.1 ≠ 0 → (execution.1 = 1 ∨ execution.1 = breakdown) ∧
        ∀ text, .printed text ∉ execution.2.outputs) := by
  obtain ⟨hexit, -, -, houtputs⟩ := w.execute_provision filter c a hreal hvalid
  intro execution
  have hprinted (text : String) (htext : .printed text ∈ execution.2.outputs) :
      (w.report filter c a port).1 = .printed text := by
    rw [houtputs] at htext
    rcases List.mem_append.mp htext with hlog | hreport
    · exact absurd hlog (w.printed_not_mem_log filter text)
    · exact (List.mem_singleton.mp hreport).symm
  have hreported := w.reported_report filter c a port
  generalize w.report filter c a port = report at hexit hprinted hreported
  have hbreakdown : breakdown ≠ 0 := by decide
  have hone : (1 : ExitCode) ≠ 0 ∧ 1 ≠ breakdown := by decide
  rw [hexit]
  cases hreported with
  | printed text hdone hshown =>
      exact ⟨iff_of_true rfl ⟨hdone, hshown⟩, iff_of_false hbreakdown.symm fun h => h.2 hshown,
        fun h => absurd rfl h⟩
  | brokenDown text hdone hwide =>
      exact ⟨iff_of_false hbreakdown fun h => hwide h.2, iff_of_true rfl ⟨hdone, hwide⟩,
        fun _ => ⟨.inr rfl, fun text htext => nomatch hprinted text htext⟩⟩
  | failed f hfails _ _ _ =>
      exact ⟨iff_of_false hone.1 fun h => hfails h.1, iff_of_false hone.2 fun h => hfails h.1,
        fun _ => ⟨.inl rfl, fun text htext => nomatch hprinted text htext⟩⟩

/-- **The clusters of a run** are those whose create calls the backend acknowledged, each under the
name that its result gives, or else the one that was asked for. -/
theorem mem_createdAmong_iff {d : Descriptor} : d ∈ Run.createdAmong (w.calls c a port) ↔
    ∃ before order after v, (w.ended c a port).1 = before ++ .called (.create order) :: after ∧
      (Client.ofConfig c).acknowledgement w.backend before order = some v ∧
      Backend.namesCluster v = true ∧ d = order.descriptor (Backend.nameOf order v) := by
  constructor
  · intro hd
    obtain ⟨order, name, hcreated, rfl⟩ := Run.exists_of_mem_createdAmong hd
    obtain ⟨before, after, hevents, hanswer⟩ := Workflow.exists_call_of_mem_talks hcreated
    obtain ⟨v, hack, hnames, rfl⟩ := Client.created_iff.mp hanswer.symm
    exact ⟨before, order, after, v, hevents, hack, hnames, rfl⟩
  · rintro ⟨before, order, after, v, hevents, hack, hnames, rfl⟩
    have hanswered := Workflow.mem_talks_of_run hevents (Nat.zero_le _)
    rw [Client.created_iff.mpr ⟨v, hack, hnames, rfl⟩] at hanswered
    exact Run.mem_createdAmong hanswered

/-- **What is reported of a failure.** -/
theorem standardError_failed (hreal : a.dryRun = false)
    (hvalid : a.request.toRequest.validate = .ok port)
    (hone : ((execute w.system filter c (.provision a)).run {}).1 = 1) :
    let created := Run.createdAmong (w.calls c a port)
    ∃ f : Run.Failure, (w.ended c a port).2 = .error (.stage f) ∧ f.created = created ∧
      f.Explained (runSettings c a) (w.calls c a port) ∧
      ((execute w.system filter c (.provision a)).run {}).2.standardError =
        s!"Error: {f.stage.name} stage failed: {f.cause.message}\n" ++ leftRunning created := by
  intro created
  rw [(w.execute_provision filter c a hreal hvalid).1] at hone
  rw [w.standardError_provision filter c a hreal hvalid]
  generalize hreport : w.report filter c a port = report at hone ⊢
  have hreported := w.reported_report filter c a port
  rw [hreport] at hreported
  cases hreported with
  | printed text _ _ => cases hone
  | brokenDown text _ _ => cases hone
  | failed f _ hended hcreated hexplained =>
      exact ⟨f, hended, hcreated, hexplained, Transcript.textOf_reported _⟩

end World

/-- **Exit status and leftovers.**  A provisioning that is carried out, whatever the backend does,
exits with zero just if its request is valid, its run succeeds, and the result can be shown.  If
only the last of these is missing, it breaks down; otherwise it exits with one.  In neither case is
a result printed; and with the exit code one, unless the request was refused, the stage that failed
is reported, and exactly the clusters that were created, in the order of their calls, where there
are any. -/
theorem exit_status (w : World) {start : Start} {environment : Environment} {i : Invocation}
    {a : ProvisionArguments} {c : Config} (henvironment : w.environment start = .ok environment)
    (hinvocation : invocation start environment = .ok i) (hcommand : i.command = .provision a)
    (hreal : a.dryRun = false) (hconfig : w.config start environment i = .ok c) :
    let execution := w.execution start
    (execution.1 = 0 ↔ ∃ port, a.request.toRequest.validate = .ok port ∧
      w.RunSucceeds c a port ∧ w.Presentable c a port) ∧
    (execution.1 = breakdown ↔ ∃ port, a.request.toRequest.validate = .ok port ∧
      w.RunSucceeds c a port ∧ ¬ w.Presentable c a port) ∧
    (execution.1 ≠ 0 → (execution.1 = 1 ∨ execution.1 = breakdown) ∧
      ∀ text, .printed text ∉ execution.2.outputs) ∧
    ∀ port, a.request.toRequest.validate = .ok port →
      let created := Run.createdAmong (w.calls c a port)
      execution.2.requests = (Client.ofConfig c).requests (w.ended c a port).1 ∧
      (∀ d, d ∈ created ↔ ∃ before order after v,
        (w.ended c a port).1 = before ++ .called (.create order) :: after ∧
        (Client.ofConfig c).acknowledgement w.backend before order = some v ∧
        Backend.namesCluster v = true ∧ d = order.descriptor (Backend.nameOf order v)) ∧
      (leftRunning created = "" ↔ created = []) ∧
      (execution.1 = 1 → ∃ f : Run.Failure, (w.ended c a port).2 = .error (.stage f) ∧
        f.created = created ∧ f.Explained (runSettings c a) (w.calls c a port) ∧
        execution.2.standardError =
          s!"Error: {f.stage.name} stage failed: {f.cause.message}\n" ++ leftRunning created) := by
  intro execution
  have hexecution : execution =
      (execute w.system (noticeFilter environment i) c (.provision a)).run {} := by
    rw [← hcommand]
    exact (w.execution_eq henvironment hinvocation).trans (by rw [hconfig])
  rw [hexecution]
  generalize noticeFilter environment i = filter
  cases hvalid : a.request.toRequest.validate with
  | error reason =>
      obtain ⟨hone, hnone⟩ := w.execute_refused filter hreal hvalid
      rw [hone]
      refine ⟨iff_of_false (by decide) ?_, iff_of_false (by decide) ?_, fun _ => ⟨.inl rfl, hnone⟩,
        nofun⟩
      · rintro ⟨port, hport, -⟩
        cases hport
      · rintro ⟨port, hport, -⟩
        cases hport
  | ok port =>
      have honly (p : UInt16 → Prop) :
          (∃ other, (.ok port : Except Request.Invalid UInt16) = .ok other ∧ p other) ↔ p port :=
        ⟨fun ⟨_, hother, hp⟩ => Except.ok.inj hother ▸ hp, fun hp => ⟨port, rfl, hp⟩⟩
      obtain ⟨hzero, hbroken, hprinted⟩ := w.execute_reported filter hreal hvalid
      rw [honly, honly]
      refine ⟨hzero, hbroken, hprinted, fun other hother => ?_⟩
      obtain rfl := Except.ok.inj hother
      exact ⟨(w.execute_provision filter c a hreal hvalid).2.1, fun d => w.mem_createdAmong_iff,
        leftRunning_eq_empty_iff _, w.standardError_failed filter hreal hvalid⟩

/-! ### Provisionings in two worlds -/

/-- A command line for a workspace on one node. -/
def oneNodeStart (failOnTimeout : Bool) : Start where
  words := ["provisioner", "--api-url", Backend.loopback.baseUrl, "provision", "-p", "9092", "-n",
    "node"] ++ if failOnTimeout then ["--fail-on-timeout"] else []
  environment := []

/-- What is read from it. -/
def oneNodeInvocation (failOnTimeout : Bool) : Invocation where
  apiUrl := some Backend.loopback.baseUrl
  command := .provision (oneNode failOnTimeout)

theorem invocation_oneNode (failOnTimeout : Bool) :
    invocation (oneNodeStart failOnTimeout) [] = .ok (oneNodeInvocation failOnTimeout) := by
  cases failOnTimeout with
  | false => decide +kernel
  | true => decide +kernel

theorem environment_oneNode (w : World) (failOnTimeout : Bool) :
    w.environment (oneNodeStart failOnTimeout) = .ok [] := by
  refine w.environment_of_none ?_
  cases failOnTimeout with
  | false => decide +kernel
  | true => decide +kernel

/-- In the silent world a run that is to fail at a timeout does not succeed. -/
theorem not_succeeds_silentWorld {port : UInt16}
    (hport : (oneNode true).request.toRequest.validate = .ok port) :
    ¬ silentWorld.RunSucceeds loopbackConfig (oneNode true) port := by
  obtain rfl : 9092 = port := Except.ok.inj hport
  rintro ⟨hall, hran⟩
  obtain ⟨order, name, -, hcreated⟩ := hall .coordinationService (by decide)
  have hcluster := Run.mem_createdAmong hcreated
  rw [← Run.clusters_watches] at hcluster
  obtain ⟨watch, hwatch, -⟩ := List.mem_map.mp hcluster
  obtain ⟨question, hquestion, hrunning⟩ := hran (.inr rfl) watch hwatch
  exact not_ran_silentWorld loopbackConfig (oneNode true) 9092 watch hwatch
    ⟨question, List.mem_of_mem_take hquestion, hrunning⟩

/-- In the silent world a provisioning that is to fail at a timeout exits with one, and reports a
cluster. -/
theorem exit_status_of_silent_world :
    let created := Run.createdAmong (silentWorld.calls loopbackConfig (oneNode true) 9092)
    let execution := silentWorld.execution (oneNodeStart true)
    execution.1 = 1 ∧ created ≠ [] ∧ ∃ f : Run.Failure, execution.2.standardError =
      s!"Error: {f.stage.name} stage failed: {f.cause.message}\n" ++ leftRunning created := by
  intro created execution
  obtain ⟨hzero, hbroken, hother, hreport⟩ := exit_status silentWorld
    (environment_oneNode silentWorld true) (invocation_oneNode true) rfl rfl
    (config_of_no_files (fun _ => rfl) _ _ rfl)
  have hone : execution.1 = 1 := by
    have hnonzero : execution.1 ≠ 0 := fun hexit =>
      have ⟨port, hport, hdone, _⟩ := hzero.mp hexit
      not_succeeds_silentWorld hport hdone
    refine (hother hnonzero).1.resolve_right fun hexit => ?_
    obtain ⟨port, hport, hdone, -⟩ := hbroken.mp hexit
    exact not_succeeds_silentWorld hport hdone
  obtain ⟨-, -, -, hfailure⟩ := hreport 9092 rfl
  obtain ⟨f, -, hcreated, hexplained, herror⟩ := hfailure hone
  refine ⟨hone, fun hnone => ?_, f, herror⟩
  rw [Run.Failure.Explained] at hexplained
  cases hcause : f.cause with
  | create e =>
      -- No create call fails in the silent world.
      rw [hcause] at hexplained
      obtain ⟨-, before, order, -, hcalls⟩ := hexplained
      have hrefused : (⟨.create order, .error e⟩ : Workflow.Talk) ∈
          silentWorld.calls loopbackConfig (oneNode true) 9092 := by
        rw [hcalls]
        exact List.mem_append_right before List.mem_cons_self
      obtain ⟨earlier, hanswer⟩ := Workflow.exists_answer_of_mem_talks hrefused
      obtain ⟨name, hname⟩ := created_silentWorld (c := loopbackConfig) rfl earlier order
      cases hanswer.trans hname
  | readiness t =>
      rw [hcause, hcreated.trans hnone] at hexplained
      exact absurd hexplained.2.1.symm (List.append_ne_nil_of_right_ne_nil _ (by simp))

/-- The reply of a backend that gives a cluster a name. -/
def namingReply (name : String) : Json.Value :=
  .object [("isSuccess", .boolean true), ("result", .object [("name", .string name)])]

theorem ofText_namingReply (name : String) :
    Backend.Envelope.ofText (Backend.bodyText (Utf8.encode (namingReply name).compact.toList)) =
      .ok ⟨true, .object [("name", .string name)]⟩ := by
  have hintegral : (namingReply name).integral = true := rfl
  rw [Backend.bodyText_encode, Backend.Envelope.ofText,
    (Json.isText_compact hintegral).decodeText_eq]
  rfl

/-- A world whose backend gives every cluster the same name, and answers no questions. -/
def namingWorld (name : String) : World :=
  { silentWorld with backend := Backend.answeringPosts (namingReply name).compact }

/-- Every cluster gets it. -/
theorem created_namingWorld {name : String} (hname : name ≠ "") (before : List Workflow.Event)
    (o : Order) : ((Client.ofConfig loopbackConfig).environment (namingWorld name).backend).answer
      before (.create o) = .ok name := by
  refine Client.created_iff.mpr ⟨.object [("name", .string name)],
    Backend.acknowledgement_answeringPosts (ofText_namingReply name) before o, rfl, ?_⟩
  have hgiven : Backend.givenName (.object [("name", .string name)]) = some name := rfl
  have hkept : (some name).filter (!·.isEmpty) = some name := by simpa using hname
  rw [Backend.nameOf, hgiven, hkept, Option.getD_some]

/-- **A name that is too long** for a column: the run succeeds, and its result cannot be shown. -/
theorem not_presentable_namingWorld {name : String}
    (hlong : Report.Table.maxWidth < name.utf8ByteSize) :
    (namingWorld name).RunSucceeds loopbackConfig (oneNode false) 9092 ∧
      ¬ (namingWorld name).Presentable loopbackConfig (oneNode false) 9092 := by
  have hname : name ≠ "" := by
    rintro rfl
    exact Nat.not_lt_zero _ hlong
  have hsucceeds : (namingWorld name).RunSucceeds loopbackConfig (oneNode false) 9092 :=
    (World.runSucceeds_iff ..).mpr (exists_workspace_of_created
      (fun before o => ⟨name, created_namingWorld hname before o⟩) loopbackConfig.polling
      (oneNode false).request.toRequest 9092 default)
  refine ⟨hsucceeds, fun hpresentable => ?_⟩
  obtain ⟨order, given, -, hcreated⟩ := hsucceeds.created .coordinationService (by decide)
  obtain ⟨earlier, hanswer⟩ := Workflow.exists_answer_of_mem_talks hcreated
  obtain rfl := Except.ok.inj (hanswer.trans (created_namingWorld hname earlier order))
  exact Nat.not_le_of_lt hlong
    (hpresentable.resolve_left Bool.false_ne_true _ (Run.mem_createdAmong hcreated))

/-- **Neither zero nor one.**  A run that succeeds does not always make the program exit with zero,
and what is not zero is not always one: a backend may give a cluster a name that is too long to be
shown. -/
theorem exit_status_not_zero_or_one :
    ¬ ∀ (w : World) (start : Start) (environment : Environment) (i : Invocation)
      (a : ProvisionArguments) (c : Config), w.environment start = .ok environment →
      invocation start environment = .ok i → i.command = .provision a → a.dryRun = false →
      w.config start environment i = .ok c →
        let exit := (w.execution start).1
        (exit = 0 ↔ ∃ port, a.request.toRequest.validate = .ok port ∧ w.RunSucceeds c a port) ∧
          (exit ≠ 0 → exit = 1) := by
  intro hall
  let name := String.ofList (List.replicate 65536 'a')
  have hlong : Report.Table.maxWidth < name.utf8ByteSize := by
    refine Nat.lt_of_lt_of_le ?_ (Report.Table.length_le_utf8ByteSize name)
    rw [String.length_ofList, List.length_replicate]
    decide
  obtain ⟨hdone, hwide⟩ := not_presentable_namingWorld hlong
  obtain ⟨hzero, -⟩ := hall (namingWorld name) (oneNodeStart false) []
    (oneNodeInvocation false) (oneNode false) loopbackConfig (environment_oneNode _ false)
    (invocation_oneNode false) rfl rfl (config_of_no_files (fun _ => rfl) _ _ rfl)
  have hexit := hzero.mpr ⟨9092, rfl, hdone⟩
  have hexecution := (namingWorld name).execution_eq (environment_oneNode _ false)
    (invocation_oneNode false)
  rw [config_of_no_files (fun _ => rfl) _ _ rfl] at hexecution
  rw [hexecution] at hexit
  exact hwide ((World.execute_reported (namingWorld name) _ rfl rfl).1.mp hexit).2

end Program

end Provisioning
