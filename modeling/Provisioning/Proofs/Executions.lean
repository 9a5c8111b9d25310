/-
**Executions of the program.**

What the program writes is written by many hands: the run gives notices, its client gives others,
and the command prints its result or reports its fault.  All of them write to the same transcript,
one behind the other, and the filter decides on each notice alone.  So a transcript is found by
going through the events of the run once, from one transcript to the next: it holds what is said at
each of them, as far as it is shown, and the result or the fault behind all of that.  The clock is
looked at whenever something is shown, and goes on as the world likes, so a notice is known, but its
time is whatever the clock shows.

Everything before the command, the environment file, the command line and the configuration, only
reads, so an execution is the one of its command, or else it has failed before anything was sent.

Main definitions:

* `Program.Shows` — an output that shows a notice;
* `Program.World.noted`, `Program.World.called` — the transcript after a notice and after a call;
* `Program.World.ended`, `Program.World.calls` — the run of a request, with its events and its
  answer, and its calls;
* `Program.World.done`, `Program.World.log` — **the transcript of the run**, and its log;
* `Program.World.report` — what is written of the answer in the end, and the exit code;
* `Program.World.environment`, `Program.World.config` — what is read before the command;
* `Program.silentWorld` — a world in which no cluster is seen running.

Main results:

* `Program.World.run_answer` — what a call does to a transcript;
* `Program.World.shows_log` — **what the log shows**;
* `Program.World.execute_provision`, `Program.World.execute_dryRun` — the transcripts of the
  commands;
* `Program.World.execution_eq` — an execution is the one of its command.
-/

import Provisioning.Proofs.Acknowledged
import Provisioning.Proofs.RunNotices
import Provisioning.Proofs.Watches

set_option relaxedAutoImplicit false
set_option autoImplicit false

namespace Provisioning.Program

open Backend (Client Planned CallError HttpRequest)
open CommandLine (ProvisionArguments)
open Workflow (Event Talk talks)

/-- Behind what is known to come to a result and a transcript. -/
theorem run_bind_of_run {α β : Type} {x : StateM Transcript α} {f : α → StateM Transcript β}
    {s t : Transcript} {a : α} (h : x.run s = (a, t)) : (x >>= f).run s = (f a).run t := by
  rw [StateT.run_bind, h]
  rfl

/-! ### Channels -/

namespace Transcript

variable {outputs more : List Output} {channel : Channel}

/-- What outputs one behind the other write to a channel. -/
theorem textOf_append {t : Transcript} (h : t.outputs = outputs ++ more) :
    t.textOf channel = ({ outputs } : Transcript).textOf channel ++
      ({ outputs := more } : Transcript).textOf channel := by
  rw [textOf, h, List.filter_append, List.map_append, String.join_append]
  rfl

/-- What outputs write to the channel of them all. -/
theorem textOf_of_forall (h : ∀ o ∈ outputs, o.channel = channel) :
    ({ outputs } : Transcript).textOf channel = String.join (outputs.map (·.text)) := by
  rw [textOf, List.filter_eq_self.mpr fun o ho => decide_eq_true (h o ho)]

/-- What outputs write to a channel of none of them. -/
theorem textOf_of_forall_ne (h : ∀ o ∈ outputs, o.channel ≠ channel) :
    ({ outputs } : Transcript).textOf channel = "" := by
  rw [textOf, List.filter_eq_nil_iff.mpr fun o ho ht => h o ho (of_decide_eq_true ht)]
  rfl

theorem textOf_printed (text : String) :
    ({ outputs := [.printed text] } : Transcript).textOf .standardOutput = text :=
  String.empty_append

theorem textOf_reported (text : String) :
    ({ outputs := [.reported text] } : Transcript).textOf .standardError = text :=
  String.empty_append

end Transcript

/-! ### Notices -/

/-- **An output that shows a notice**, with a time, and with a run if the filter follows runs. -/
def Shows (filter : Notice.Filter) (o : Output) (n : Notice) : Prop :=
  ∃ time course, o = .noted time course n ∧ (filter.follows = false → course = none)

/-- Outputs that show notices are no results and no errors. -/
theorem eq_noted_of_shows {filter : Notice.Filter} {outputs : List Output} {notices : List Notice}
    (h : List.Forall₂ (Shows filter) outputs notices) {o : Output} (ho : o ∈ outputs) :
    ∃ time course n, o = .noted time course n := by
  induction h with
  | nil => cases ho
  | @cons first n _ _ hfirst _ ih =>
      rcases List.mem_cons.mp ho with rfl | ho
      · obtain ⟨time, course, hnoted, -⟩ := hfirst
        exact ⟨time, course, n, hnoted⟩
      · exact ih ho

namespace World

variable (w : World) (filter : Notice.Filter) (run : Option RunId)

/-- The transcript after a notice. -/
def noted (t : Transcript) (n : Notice) : Transcript :=
  if filter.admits run n then
    { t with
      outputs := t.outputs ++ [.noted (w.now t) (if filter.follows then run else none) n] }
  else t

/-- Giving a notice is just that. -/
theorem run_note (n : Notice) (t : Transcript) :
    (w.system.note filter run n).run t = ((), w.noted filter run t n) := by
  rw [System.note, noted]
  split
  · rfl
  · rfl

theorem run_forM_note (notices : List Notice) (t : Transcript) :
    (notices.forM (w.system.note filter run)).run t =
      ((), notices.foldl (w.noted filter run) t) := by
  induction notices generalizing t with
  | nil => rfl
  | cons n rest ih =>
      have hstep : (List.forM (n :: rest) (w.system.note filter run)).run t =
          (rest.forM (w.system.note filter run)).run ((w.system.note filter run n).run t).2 := rfl
      rw [hstep, run_note, ih, List.foldl_cons]

@[simp] theorem requests_noted (t : Transcript) (n : Notice) :
    (w.noted filter run t n).requests = t.requests := by
  rw [noted]
  split
  · rfl
  · rfl

@[simp] theorem slept_noted (t : Transcript) (n : Notice) :
    (w.noted filter run t n).slept = t.slept := by
  rw [noted]
  split
  · rfl
  · rfl

@[simp] theorem requests_foldl_noted (notices : List Notice) (t : Transcript) :
    (notices.foldl (w.noted filter run) t).requests = t.requests := by
  induction notices generalizing t with
  | nil => rfl
  | cons n rest ih => rw [List.foldl_cons, ih, requests_noted]

@[simp] theorem slept_foldl_noted (notices : List Notice) (t : Transcript) :
    (notices.foldl (w.noted filter run) t).slept = t.slept := by
  induction notices generalizing t with
  | nil => rfl
  | cons n rest ih => rw [List.foldl_cons, ih, slept_noted]

variable {w filter run}

/-- A notice is shown behind the others if the filter admits it. -/
theorem shows_noted {t : Transcript} {notices : List Notice}
    (h : List.Forall₂ (Shows filter) t.outputs notices) (n : Notice) :
    List.Forall₂ (Shows filter) (w.noted filter run t n).outputs
      (notices ++ [n].filter (filter.admits run)) := by
  rw [noted]
  cases hadmits : filter.admits run n with
  | true =>
      rw [if_pos rfl, List.filter_cons_of_pos hadmits, List.filter_nil]
      refine List.rel_append h (.cons ⟨_, _, rfl, fun hfollows => ?_⟩ .nil)
      simp [hfollows]
  | false =>
      rw [if_neg Bool.false_ne_true, List.filter_cons_of_neg (by simp [hadmits]), List.filter_nil,
        List.append_nil]
      exact h

theorem shows_foldl_noted {t : Transcript} {notices : List Notice}
    (h : List.Forall₂ (Shows filter) t.outputs notices) (more : List Notice) :
    List.Forall₂ (Shows filter) (more.foldl (w.noted filter run) t).outputs
      (notices ++ more.filter (filter.admits run)) := by
  induction more generalizing t notices with
  | nil => rwa [List.filter_nil, List.append_nil]
  | cons n rest ih =>
      have hnoted : List.Forall₂ (Shows filter) (w.noted filter run t n).outputs
          (notices ++ [n].filter (filter.admits run)) := shows_noted h n
      have hrest := ih hnoted
      rwa [List.append_assoc, ← List.filter_append] at hrest

variable (w filter run)

/-! ### Calls -/

/-- The transcript after a planned call was carried out. -/
def performed {α : Type} (t : Transcript) (planned : Except CallError (Planned α)) : Transcript :=
  (Planned.notices (w.backend t.requests) planned).foldl (w.noted filter run)
    { t with requests := t.requests ++ (Planned.request? planned).toList }

/-- Carrying out a planned call. -/
theorem run_perform {α : Type} (planned : Except CallError (Planned α)) (t : Transcript) :
    (Planned.perform w.system.exchange (w.system.note filter run) planned).run t =
      (Planned.outcome (w.backend t.requests) planned, w.performed filter run t planned) := by
  cases planned with
  | error e =>
      rw [performed, Planned.request?, Option.toList_none, List.append_nil]
      rfl
  | ok planned =>
      let conclusion := planned.conclude (w.backend t.requests planned.request)
      have hnoted := w.run_forM_note filter run conclusion.2
        { t with requests := t.requests ++ [planned.request] }
      have hstep : (Planned.perform w.system.exchange (w.system.note filter run)
          (.ok planned)).run t = (conclusion.2.forM (w.system.note filter run) >>= fun _ =>
            pure conclusion.1).run { t with requests := t.requests ++ [planned.request] } := rfl
      rw [hstep, run_bind_of_run hnoted]
      rfl

/-- The transcript after a call of the client. -/
def called (c : Client) (t : Transcript) : Call → Transcript
  | .create o => w.performed filter run (w.noted filter run t (c.createNotice o)) (c.create o)
  | .status cluster => w.performed filter run t (c.status cluster)
  | .sleep ms => { t with slept := t.slept ++ [ms] }
  | .compensate stage created =>
    (Compensation.leaveRunning stage created).foldl (w.noted filter run) t

/-- A client takes part in a run. -/
def partner (c : Client) : Workflow.Partner (StateM Transcript) :=
  c.partner w.system.exchange w.system.sleep (w.system.note filter run)

/-- **What a call does**: it is answered by the backend, after the requests so far, and leads to the
transcript after it. -/
theorem run_answer (c : Client) (call : Call) (t : Transcript) :
    ((w.partner filter run c).answer call).run t =
      (c.answer w.backend t.requests call, w.called filter run c t call) := by
  cases call with
  | create o =>
      simp only [partner, Client.partner, Client.answer, called]
      generalize c.create o = planned
      rw [run_bind_of_run (w.run_note filter run (c.createNotice o) t), run_perform,
        requests_noted]
  | status cluster =>
      simp only [partner, Client.partner, Client.answer, called]
      generalize c.status cluster = planned
      exact w.run_perform filter run planned t
  | sleep ms => rfl
  | compensate stage created => exact w.run_forM_note filter run _ t

/-- The transcript after an event. -/
def after (c : Client) (t : Transcript) : Event → Transcript
  | .published _ => t
  | .noted n => w.noted filter run t n
  | .called call => w.called filter run c t call

theorem after_eq (c : Client) : (w.partner filter run c).after = w.after filter run c := by
  funext t event
  cases event with
  | published state => rfl
  | noted n => exact congrArg Prod.snd (w.run_note filter run n t)
  | called call => exact congrArg Prod.snd (w.run_answer filter run c call t)

variable {w filter run}

theorem shows_performed {α : Type} {t : Transcript} {notices : List Notice}
    (h : List.Forall₂ (Shows filter) t.outputs notices)
    (planned : Except CallError (Planned α)) :
    List.Forall₂ (Shows filter) (w.performed filter run t planned).outputs
      (notices ++ (Planned.notices (w.backend t.requests) planned).filter (filter.admits run)) := by
  have hbefore : List.Forall₂ (Shows filter)
      ({ t with requests := t.requests ++ (Planned.request? planned).toList } : Transcript).outputs
        notices := h
  exact shows_foldl_noted hbefore _

/-- At a call is shown what the client says at it. -/
theorem shows_called {c : Client} {t : Transcript} {notices : List Notice}
    (h : List.Forall₂ (Shows filter) t.outputs notices) (call : Call) :
    List.Forall₂ (Shows filter) (w.called filter run c t call).outputs
      (notices ++ (c.heard w.backend t.requests call).filter (filter.admits run)) := by
  cases call with
  | create o =>
      have hbefore : List.Forall₂ (Shows filter) (w.noted filter run t (c.createNotice o)).outputs
          (notices ++ [c.createNotice o].filter (filter.admits run)) := shows_noted h _
      have hperformed :
          List.Forall₂ (Shows filter) (w.called filter run c t (.create o)).outputs _ :=
        shows_performed hbefore (c.create o)
      rwa [requests_noted, List.append_assoc, ← List.filter_append] at hperformed
  | status cluster => exact shows_performed h (c.status cluster)
  | sleep ms => rwa [Client.heard, List.filter_nil, List.append_nil]
  | compensate stage created => exact shows_foldl_noted h _

/-- **In a run is shown what is said at its events.** -/
theorem shows_events {c : Client} {before : List Event} {t : Transcript} {notices : List Notice}
    (ht : t.requests = c.requests before) (h : List.Forall₂ (Shows filter) t.outputs notices)
    (events : List Event) :
    List.Forall₂ (Shows filter) (events.foldl (w.after filter run c) t).outputs
      (notices ++ (c.said w.backend before events).filter (filter.admits run)) := by
  induction events generalizing before t notices with
  | nil => rwa [Client.said, List.filter_nil, List.append_nil]
  | cons event rest ih =>
      -- What the client says depends on the requests before, which are those of the events before.
      have hnext : (w.after filter run c t event).requests = c.requests (before ++ [event]) := by
        rw [← after_eq]
        exact (c.follows_partner (w.surroundings filter run)).after_event before t event ht
      have hshown : List.Forall₂ (Shows filter) (w.after filter run c t event).outputs
          (notices ++ (c.saidAt w.backend before event).filter (filter.admits run)) := by
        cases event with
        | published state => rwa [Client.saidAt, List.filter_nil, List.append_nil]
        | noted n => exact shows_noted h n
        | called call =>
            rw [Client.saidAt, ← ht]
            exact shows_called h call
      have hrest := ih hnext hshown
      rwa [List.append_assoc, ← List.filter_append] at hrest

variable (w filter run)

/-! ### The run of a request -/

/-- The workflow of a request. -/
def workflow (c : Config) (a : ProvisionArguments) (port : UInt16) : Workflow Answer :=
  let request := a.request.toRequest
  provisioning (runSettings c a) request port (w.allotment port request.serviceName)

/-- **The run of a request**, with its events and its answer. -/
def ended (c : Config) (a : ProvisionArguments) (port : UInt16) : List Event × Answer :=
  (w.workflow c a port).run ((Client.ofConfig c).environment w.backend) []

/-- The calls of the run of a request, with their answers. -/
def calls (c : Config) (a : ProvisionArguments) (port : UInt16) : List Talk :=
  talks ((w.workflow c a port).acts ((Client.ofConfig c).environment w.backend) [])

/-- **The run of a request has a course**, and its answer is the one of this course. -/
theorem exists_course_ended (c : Config) (a : ProvisionArguments) (port : UInt16) :
    ∃ result, Run.Course (runSettings c a) a.request.toRequest port
        (w.allotment port a.request.toRequest.serviceName)
        ((w.workflow c a port).acts ((Client.ofConfig c).environment w.backend) []) result ∧
      (w.ended c a port).2 = answerOf result :=
  exists_course ((Client.ofConfig c).environment w.backend) _ _ _ _ []

/-- The transcript of a request after its run, which began with another one. -/
def afterRun (c : Config) (a : ProvisionArguments) (port : UInt16) (t : Transcript) : Transcript :=
  (w.ended c a port).1.foldl (w.after filter (some w.runId) (Client.ofConfig c)) t

/-- What a run comes to for the program, between two times. -/
def outcome (startedAt finishedAt : Instant) : Answer → Except Fault Report.Completed
  | .ok workspace => .ok { runId := w.runId, workspace, startedAt, finishedAt }
  | .error f => .error (.provisioning f)

/-- **Provisioning in a world**, before any request. -/
theorem provision_eq (c : Config) (a : ProvisionArguments) {port : UInt16}
    (hvalid : a.request.toRequest.validate = .ok port) (t : Transcript) (ht : t.requests = []) :
    let after := w.afterRun filter c a port t
    (provision w.system filter c a).run t =
        (w.outcome (w.now t) (w.now after) (w.ended c a port).2, after) ∧
      after.requests = (Client.ofConfig c).requests (w.ended c a port).1 := by
  obtain ⟨events, hevents, hrun, hbehind⟩ :=
    ((Client.ofConfig c).follows_partner (w.surroundings filter (some w.runId))).run_runM
      (w.workflow c a port) [] t ht
  have hended : (w.workflow c a port).run ((Client.ofConfig c).environment w.backend) [] =
      w.ended c a port := rfl
  rw [hended, List.nil_append] at hevents
  rw [hended, ← hevents] at hrun hbehind
  have hpartner : (Client.ofConfig c).partner (w.surroundings filter (some w.runId)).exchange
      (w.surroundings filter (some w.runId)).sleep (w.surroundings filter (some w.runId)).note =
        w.partner filter (some w.runId) (Client.ofConfig c) := rfl
  rw [hpartner, after_eq] at hrun hbehind
  rw [afterRun]
  -- Only where the run has led to matters from here on, and not how it was brought about.
  generalize (w.ended c a port).1.foldl _ t = after at hrun hbehind ⊢
  refine ⟨?_, hbehind⟩
  have hrunId : w.system.newRun = pure w.runId := rfl
  have hallot (port : UInt16) (wish : String) :
      w.system.allot port wish = pure (w.allotment port wish) := rfl
  have hnow (s : Transcript) : w.system.now.run s = (w.now s, s) := rfl
  simp only [partner, workflow] at hrun
  simp only [provision, hvalid, hrunId, hallot, pure_bind]
  rw [run_bind_of_run (hnow t), run_bind_of_run hrun]
  cases (w.ended c a port).2 with
  | ok workspace => rfl
  | error f => rfl

/-! ### The commands -/

/-- The transcript when the run of a request begins. -/
def begun (c : Config) : Transcript := w.noted filter none {} (.provisioningAgainst c.apiUrl)

/-- **The transcript when the run of a request has ended.** -/
def done (c : Config) (a : ProvisionArguments) (port : UInt16) : Transcript :=
  w.afterRun filter c a port (w.begun filter c)

/-- **The log of a provisioning**: what is shown of all that is said, in the run and before it. -/
def log (c : Config) (a : ProvisionArguments) (port : UInt16) : List Output :=
  (w.done filter c a port).outputs

/-- The finished run of a request, with its times. -/
def completed (c : Config) (a : ProvisionArguments) (port : UInt16) (workspace : Run.Workspace) :
    Report.Completed where
  runId := w.runId
  workspace := workspace
  startedAt := w.now (w.begun filter c)
  finishedAt := w.now (w.done filter c a port)

/-- **What is written of an answer in the end**, and the exit code. -/
def report (c : Config) (a : ProvisionArguments) (port : UInt16) : Output × ExitCode :=
  match (w.ended c a port).2 with
  | .ok workspace => presented (completedText (w.completed filter c a port workspace) a.json)
  | .error f => (.reported (Report.failure f), 1)

theorem report_of_ok {c : Config} {a : ProvisionArguments} {port : UInt16}
    {workspace : Run.Workspace} (h : (w.ended c a port).2 = .ok workspace) :
    w.report filter c a port =
      presented (completedText (w.completed filter c a port workspace) a.json) := by
  rw [report, h]

theorem report_of_error {c : Config} {a : ProvisionArguments} {port : UInt16} {f : Failure}
    (h : (w.ended c a port).2 = .error f) :
    w.report filter c a port = (.reported (Report.failure f), 1) := by
  rw [report, h]

/-- What a provisioning does when its run has ended. -/
def conclude (a : ProvisionArguments) :
    Except Fault Report.Completed → StateM Transcript ExitCode
  | .ok completed => present w.system (completedText completed a.json)
  | .error e => reportFault w.system e

/-- A provisioning begins with a notice. -/
theorem execute_provision_eq (c : Config) (a : ProvisionArguments) (hreal : a.dryRun = false) :
    (execute w.system filter c (.provision a)).run {} =
      (provision w.system filter c a >>= w.conclude a).run (w.begun filter c) := by
  have hrest (x : StateM Transcript (Except Fault Report.Completed)) : (do
      match ← x with
      | .ok completed => present w.system (completedText completed a.json)
      | .error e => reportFault w.system e) = x >>= w.conclude a := by
    refine bind_congr fun result => ?_
    cases result with
    | ok completed => rfl
    | error e => rfl
  simp only [execute, hreal, Bool.false_eq_true, if_false]
  rw [run_bind_of_run (w.run_note filter none (.provisioningAgainst c.apiUrl) {})]
  exact congrFun (hrest _) _

/-- **The transcript of a provisioning**: its log, and the report behind it. -/
theorem execute_provision (c : Config) (a : ProvisionArguments) {port : UInt16}
    (hreal : a.dryRun = false) (hvalid : a.request.toRequest.validate = .ok port) :
    let execution := (execute w.system filter c (.provision a)).run {}
    let report := w.report filter c a port
    execution.1 = report.2 ∧
      execution.2.requests = (Client.ofConfig c).requests (w.ended c a port).1 ∧
      execution.2.slept = (w.done filter c a port).slept ∧
      execution.2.outputs = w.log filter c a port ++ [report.1] := by
  obtain ⟨hrun, hrequests⟩ := w.provision_eq filter c a hvalid (w.begun filter c)
    (w.requests_noted filter none {} _)
  have hdone : w.afterRun filter c a port (w.begun filter c) = w.done filter c a port := rfl
  rw [hdone] at hrun hrequests
  rw [execute_provision_eq w filter c a hreal, run_bind_of_run hrun, report, log]
  simp only [completed]
  generalize w.done filter c a port = done at hrequests ⊢
  cases (w.ended c a port).2 with
  | ok workspace => exact ⟨rfl, hrequests, rfl, rfl⟩
  | error f => exact ⟨rfl, hrequests, rfl, rfl⟩

/-- **What the log shows**: what the filter admits of all that is said. -/
theorem shows_log (c : Config) (a : ProvisionArguments) (port : UInt16) :
    List.Forall₂ (Shows filter) (w.log filter c a port)
      ([Notice.provisioningAgainst c.apiUrl].filter (filter.admits none) ++
        ((Client.ofConfig c).said w.backend [] (w.ended c a port).1).filter
          (filter.admits (some w.runId))) := by
  have hbegun : List.Forall₂ (Shows filter) (w.begun filter c).outputs
      ([Notice.provisioningAgainst c.apiUrl].filter (filter.admits none)) :=
    shows_noted (t := {}) .nil (.provisioningAgainst c.apiUrl)
  exact shows_events (w.requests_noted filter none {} _) hbegun _

/-- The log goes to standard output. -/
theorem channel_of_mem_log {c : Config} {a : ProvisionArguments} {port : UInt16} {o : Output}
    (h : o ∈ w.log filter c a port) : o.channel = .standardOutput := by
  obtain ⟨time, course, n, rfl⟩ := eq_noted_of_shows (w.shows_log filter c a port) h
  rfl

/-- **What a provisioning writes to standard output**: its log, and the result if there is one. -/
theorem standardOutput_provision (c : Config) (a : ProvisionArguments) {port : UInt16}
    (hreal : a.dryRun = false) (hvalid : a.request.toRequest.validate = .ok port) :
    ((execute w.system filter c (.provision a)).run {}).2.standardOutput =
      String.join ((w.log filter c a port).map (·.text)) ++
        ({ outputs := [(w.report filter c a port).1] } : Transcript).standardOutput := by
  obtain ⟨-, -, -, houtputs⟩ := w.execute_provision filter c a hreal hvalid
  rw [Transcript.standardOutput, Transcript.textOf_append houtputs,
    Transcript.textOf_of_forall fun o => w.channel_of_mem_log filter]
  rfl

/-- **What a provisioning writes to standard error**: its report, if that is of a failure. -/
theorem standardError_provision (c : Config) (a : ProvisionArguments) {port : UInt16}
    (hreal : a.dryRun = false) (hvalid : a.request.toRequest.validate = .ok port) :
    ((execute w.system filter c (.provision a)).run {}).2.standardError =
      ({ outputs := [(w.report filter c a port).1] } : Transcript).standardError := by
  have hlog : ∀ o ∈ w.log filter c a port, o.channel ≠ .standardError := by
    intro o ho
    rw [w.channel_of_mem_log filter ho]
    nofun
  obtain ⟨-, -, -, houtputs⟩ := w.execute_provision filter c a hreal hvalid
  rw [Transcript.standardError, Transcript.textOf_append houtputs,
    Transcript.textOf_of_forall_ne hlog, String.empty_append]
  rfl

/-- A request that is not valid is refused. -/
theorem execute_invalid (c : Config) (a : CommandLine.ProvisionArguments) {reason : Request.Invalid}
    (hreal : a.dryRun = false) (hinvalid : a.request.toRequest.validate = .error reason) :
    ((execute w.system filter c (.provision a)).run {}).1 = 1 := by
  simp only [execute, hreal, provision, hinvalid]
  rfl

/-- Showing a plan sends nothing, and prints it just if the request is valid. -/
theorem run_showPlan_of_valid (c : Config) (r : CommandLine.RequestArguments) (more : String)
    {port : UInt16} (hvalid : r.toRequest.validate = .ok port) :
    (showPlan w.system c r more).run {} =
      (0, { outputs := [.printed (Report.plan r.toRequest c ++ more)] }) := by
  rw [showPlan, planned, hvalid]
  rfl

theorem run_showPlan_of_invalid (c : Config) (r : CommandLine.RequestArguments) (more : String)
    {reason : Request.Invalid} (hinvalid : r.toRequest.validate = .error reason) :
    (showPlan w.system c r more).run {} = (1, {
      outputs := [.reported s!"Validation: FAILED\n{(Fault.request reason).message}\n"] }) := by
  rw [showPlan, planned, hinvalid]
  rfl

/-- **The transcript of a dry run**: the plan, and nothing else. -/
theorem execute_dryRun (c : Config) (a : CommandLine.ProvisionArguments) {port : UInt16}
    (hdry : a.dryRun = true) (hvalid : a.request.toRequest.validate = .ok port) :
    (execute w.system filter c (.provision a)).run {} =
      (0, { outputs := [.printed (Report.plan a.request.toRequest c ++
        "Ready to provision. Remove --dry-run to execute.\n")] }) := by
  rw [execute, if_pos hdry]
  exact w.run_showPlan_of_valid c a.request _ hvalid

/-! ### Whole executions -/

/-- The environment after the environment file was loaded. -/
def environment (start : Start) : Except Fault Environment :=
  match CommandLine.envFileArgument start.words with
  | none => .ok start.environment
  | some path =>
    match EnvFile.load (w.files path) start.environment with
    | (environment, .ok _) => .ok environment
    | (_, .error e) => .error (.envFile path e)

/-- It is the one of the start where no file is named. -/
theorem environment_of_none {start : Start}
    (hnone : CommandLine.envFileArgument start.words = none) :
    w.environment start = .ok start.environment := by
  rw [environment, hnone]

theorem run_withEnvFile (start : Start) (t : Transcript) :
    (withEnvFile w.system start).run t = (w.environment start, t) := by
  rw [withEnvFile, environment]
  cases CommandLine.envFileArgument start.words with
  | none => rfl
  | some path =>
      simp only [system, pure_bind]
      rcases EnvFile.load (w.files path) start.environment with ⟨environment, _ | _⟩
      · rfl
      · rfl

/-- The configuration of an invocation. -/
def config (start : Start) (environment : Environment) (i : CommandLine.Invocation) :
    Except Fault Config :=
  (Config.load (w.files (ConfigPath.resolve (environment.home? start.accountHome) i.config))
    i.apiUrl).mapError .config

theorem run_configuration (start : Start) (environment : Environment)
    (i : CommandLine.Invocation) (t : Transcript) :
    (configuration w.system start environment i).run t = (w.config start environment i, t) := by
  simp only [configuration, config, system, pure_bind]
  cases Config.load (w.files (ConfigPath.resolve (environment.home? start.accountHome) i.config))
      i.apiUrl with
  | ok c => rfl
  | error e => rfl

/-- **An execution is the one of its command**, once the configuration is loaded; otherwise it
fails. -/
theorem execution_eq {start : Start} {environment : Environment} {i : CommandLine.Invocation}
    (henvironment : w.environment start = .ok environment)
    (hinvocation : invocation start environment = .ok i) :
    w.execution start = match w.config start environment i with
      | .ok c => (execute w.system (noticeFilter environment i) c i.command).run {}
      | .error e => (1,
          w.noted (noticeFilter environment i) none {} (.configRefused e.message)) := by
  rw [execution, Program.run, run_bind_of_run (w.run_withEnvFile start {}), henvironment]
  simp only [hinvocation]
  rw [run_bind_of_run (w.run_configuration start environment i {})]
  cases w.config start environment i with
  | ok c => rfl
  | error e => exact run_bind_of_run (w.run_note _ none (.configRefused e.message) {})

end World

/-! ### A silent world -/

/-- A world whose backend creates every cluster and tells the state of none. -/
def silentWorld : World where
  files _ := .nothing
  backend := Backend.answeringPosts Backend.namelessReply
  allotment _ _ := default
  runId := default
  now := default

/-- Every cluster is created. -/
theorem created_silentWorld {c : Config} (hloopback : Client.ofConfig c = Backend.loopback)
    (before : List Event) (o : Cluster.Order) :
    ∃ name, ((Client.ofConfig c).environment silentWorld.backend).answer before (.create o) =
      .ok name := by
  rw [hloopback]
  exact Backend.Client.answer_of_acknowledgement
    (Backend.acknowledgement_answeringPosts Backend.ofText_namelessReply before o)

/-- And none is seen running. -/
theorem not_ran_silentWorld (c : Config) (a : CommandLine.ProvisionArguments) (port : UInt16) :
    ∀ watch ∈ Run.watches (silentWorld.calls c a port), ¬ watch.Ran := by
  refine Run.not_ran_of_unanswered fun cluster reply hasked => ?_
  obtain ⟨earlier, hreply⟩ := Workflow.exists_answer_of_mem_talks hasked
  obtain ⟨e, he⟩ := Backend.status_answeringPosts (Client.ofConfig c) Backend.namelessReply earlier
    cluster
  obtain rfl : reply = .error e := hreply.trans he
  rfl

end Provisioning.Program
