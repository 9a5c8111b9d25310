/-
**Results as JSON.**

Who asks for the result as JSON wants to read it with a program.  But standard output is not for the
result alone: notices go there too, and unless other ones are asked for these are the warnings.  So
the document stands at the end, and nothing follows it; what stands in front of it is a line for
each warning, and the warnings can be told from the run: a cluster that was renamed, a question that
was not answered, a cluster that came late.  If there was nothing to warn of, then standard output
is the document.

A dry run has no result, and asking for JSON does not change what it prints.

Main definitions:

* `Program.World.AsksForJson` — a command line that asks for the result as JSON, and says nothing
  about notices;
* `Program.World.warnings`, `Program.document` — **what is printed**: the warnings of a
  provisioning, and the JSON of its workspace;
* `Program.IsLine` — the line of a notice, given at some time;
* `Program.PrintsAlone` — that standard output is one document.

Main results:

* `exists_workspace_of_created` — a run that goes on succeeds if every cluster is created;
* `Program.World.standardOutput_json` — the warnings stand in front of the document;
* `Program.json_output` — **the output**, whatever the backend does;
* `Program.json_output_not_alone` — a dry run, and a run with warnings, whose output is no document.
-/

import Provisioning.Proofs.Executions
import Provisioning.Proofs.Policies

set_option relaxedAutoImplicit false
set_option autoImplicit false

namespace Provisioning

/-! ### Runs that succeed -/

/-- **A run that goes on succeeds** if every cluster is created. -/
theorem exists_workspace_of_created {env : Workflow.Environment}
    (hcreated : ∀ before o, ∃ name, env.answer before (.create o) = .ok name)
    (polling : Readiness.Polling) (r : Request) (port : UInt16) (a : Allotment) :
    ∃ workspace, ((provisioning ⟨.proceed, polling⟩ r port a).run env []).2 = .ok workspace := by
  obtain ⟨result, hcourse, hresult⟩ := exists_course env ⟨.proceed, polling⟩ r port a []
  cases result with
  | ok workspace => exact ⟨workspace, hresult⟩
  | error f =>
      -- It fails at a create call only, but each of them is answered with a name.
      obtain ⟨e, hcause⟩ := hcourse.create_of_failed
      have hexplained := hcourse.exact.explained
      rw [Run.Failure.Explained, hcause] at hexplained
      obtain ⟨-, before, o, -, htalks⟩ := hexplained
      have hrefused : (⟨.create o, .error e⟩ : Workflow.Talk) ∈
          Workflow.talks ((provisioning ⟨.proceed, polling⟩ r port a).acts env []) := by
        rw [htalks]
        exact List.mem_append_right _ List.mem_cons_self
      obtain ⟨earlier, hanswer⟩ := Workflow.exists_answer_of_mem_talks hrefused
      obtain ⟨name, hname⟩ := hcreated earlier o
      cases hanswer.trans hname

/-- **Where no cluster is seen running**, there is something to warn of. -/
theorem not_clean_of_not_ran {env : Workflow.Environment} {settings : Run.Settings} {r : Request}
    {port : UInt16} {a : Allotment} {workspace : Run.Workspace}
    (hworkspace : ((provisioning settings r port a).run env []).2 = .ok workspace)
    (hlate : ∀ watch ∈ Run.watches (Workflow.talks ((provisioning settings r port a).acts env [])),
      ¬ watch.Ran) :
    ¬ Run.Clean (Workflow.talks ((provisioning settings r port a).acts env [])) workspace := by
  intro hclean
  obtain ⟨result, hcourse, hresult⟩ := exists_course env settings r port a []
  obtain rfl := answerOf_eq_ok_iff.mp (hresult.symm.trans hworkspace)
  have hstages := hcourse.stages_eq.1
  have hin_time := hclean.in_time
  rw [Run.Workspace.timedOut_eq hstages, List.filter_eq_self.mpr fun watch hwatch => by
    simpa using hlate watch hwatch, List.map_eq_nil_iff] at hin_time
  rw [hin_time] at hstages
  exact hcourse.stages_ne_nil hstages

namespace Program

open Backend (Client)
open CommandLine (Invocation ProvisionArguments)
open Report (Completed)

/-! ### Command lines -/

/-- **A provisioning whose result is asked for as JSON**, with the notices that are shown when
nothing is said about them. -/
structure World.AsksForJson (w : World) (start : Start) (environment : Environment)
    (i : Invocation) (a : ProvisionArguments) : Prop where
  environment_eq : w.environment start = .ok environment
  no_filter : environment.get? "RUST_LOG" = none
  invocation_eq : invocation start environment = .ok i
  not_verbose : i.verbose = 0
  command_eq : i.command = .provision a
  json : a.json = true

namespace World

variable {w : World} {start : Start} {environment : Environment} {i : Invocation}
  {a : ProvisionArguments} {c : Config} {port : UInt16} {workspace : Run.Workspace}

/-- Its execution, once the configuration is loaded. -/
theorem AsksForJson.execution_eq (h : w.AsksForJson start environment i a)
    (hconfig : w.config start environment i = .ok c) :
    w.execution start = (execute w.system (.ofVerbosity 0) c (.provision a)).run {} := by
  have hfilter : noticeFilter environment i = .ofVerbosity 0 := by
    rw [noticeFilter, h.no_filter, h.not_verbose]
    rfl
  rw [w.execution_eq h.environment_eq h.invocation_eq, hconfig, hfilter, h.command_eq]

/-- **If it succeeds, it had a result**, unless it was a dry run. -/
theorem AsksForJson.exists_workspace (h : w.AsksForJson start environment i a)
    (hreal : a.dryRun = false) (hexit : (w.execution start).1 = 0) :
    ∃ c port workspace, w.config start environment i = .ok c ∧
      a.request.toRequest.validate = .ok port ∧ (w.ended c a port).2 = .ok workspace := by
  cases hconfig : w.config start environment i with
  | error e =>
      rw [w.execution_eq h.environment_eq h.invocation_eq, hconfig] at hexit
      cases hexit
  | ok c =>
      rw [h.execution_eq hconfig] at hexit
      cases hvalid : a.request.toRequest.validate with
      | error reason =>
          rw [w.execute_invalid (.ofVerbosity 0) c a hreal hvalid] at hexit
          cases hexit
      | ok port =>
          rw [(w.execute_provision (.ofVerbosity 0) c a hreal hvalid).1, World.report] at hexit
          cases hended : (w.ended c a port).2 with
          | ok workspace => exact ⟨c, port, workspace, rfl, rfl, hended⟩
          | error failure =>
              rw [hended] at hexit
              cases hexit

end World

/-! ### What is printed -/

/-- **The line of a notice**, which was given at some time. -/
def IsLine (o : Output) (n : Notice) : Prop := ∃ time, o = .noted time none n

/-- The JSON of a finished run, with the end of its line. -/
def document (completed : Completed) : String := completed.json.indented ++ "\n"

/-- A line is not empty. -/
theorem IsLine.text_ne_empty {o : Output} {n : Notice} (h : IsLine o n) : o.text ≠ "" := by
  obtain ⟨time, rfl⟩ := h
  intro hempty
  have hend := (String.append_eq_empty_iff.mp hempty).2
  cases congrArg String.toList hend

/-- Behind a log there is nothing but a document just if nothing is shown in the log. -/
theorem printed_eq_document_iff {log : List Output} {notices : List Notice}
    (h : List.Forall₂ IsLine log notices) (document : String) :
    String.join (log.map (·.text)) ++ document = document ↔ notices = [] := by
  cases h with
  | nil => exact ⟨fun _ => rfl, fun _ => String.empty_append⟩
  | cons hline _ =>
      refine ⟨fun h => ?_, nofun⟩
      have hempty := (String.append_left_inj document).mp (h.trans String.empty_append.symm)
      rw [List.map_cons, String.join_cons] at hempty
      exact absurd (String.append_eq_empty_iff.mp hempty).1 hline.text_ne_empty

namespace World

variable (w : World) {a : ProvisionArguments} {c : Config} {port : UInt16}
  {workspace : Run.Workspace}

/-- **The warnings of a provisioning**, in their order: what is said in it and is not minor. -/
def warnings (c : Config) (a : ProvisionArguments) (port : UInt16) : List Notice :=
  ((Client.ofConfig c).said w.backend [] (w.ended c a port).1).filter fun n => !decide n.Minor

/-- The log shows the warnings, each on a line. -/
theorem log_ofVerbosity_zero (c : Config) (a : ProvisionArguments) (port : UInt16) :
    List.Forall₂ IsLine (w.log (.ofVerbosity 0) c a port) (w.warnings c a port) := by
  have hagainst : (Notice.provisioningAgainst c.apiUrl).Minor := Notice.minor_of_info rfl
  have hadmits (run : Option RunId) :
      (Notice.Filter.ofVerbosity 0).admits run = fun n => !decide n.Minor :=
    funext fun n => Notice.admits_ofVerbosity_zero run n
  have hshows := w.shows_log (.ofVerbosity 0) c a port
  rw [hadmits, hadmits, List.filter_cons_of_neg (by simp [hagainst]), List.filter_nil,
    List.nil_append] at hshows
  refine hshows.imp fun o n ⟨time, course, hnoted, hcourse⟩ => ⟨time, ?_⟩
  rw [hnoted, hcourse Notice.follows_ofVerbosity_zero]

/-- **The output of a provisioning with a result**: its log, and the document. -/
theorem standardOutput_json (hreal : a.dryRun = false) (hjson : a.json = true)
    (hvalid : a.request.toRequest.validate = .ok port)
    (hended : (w.ended c a port).2 = .ok workspace) :
    ((execute w.system (.ofVerbosity 0) c (.provision a)).run {}).2.standardOutput =
      String.join ((w.log (.ofVerbosity 0) c a port).map (·.text)) ++
        document (w.completed (.ofVerbosity 0) c a port workspace) := by
  rw [w.standardOutput_provision (.ofVerbosity 0) c a hreal hvalid, report, hended, hjson]
  exact congrArg _ (Transcript.textOf_printed _)

variable {w}

/-- **The warnings of a provisioning with a result**: there are none just if there was nothing to
warn of. -/
theorem warnings_of_workspace (hended : (w.ended c a port).2 = .ok workspace) :
    (∀ n ∈ w.warnings c a port, n.severity = .warn) ∧
      (w.warnings c a port = [] ↔ Run.Clean (w.calls c a port) workspace) := by
  obtain ⟨hno_error, hminor⟩ := (Client.ofConfig c).said_of_success w.backend (runSettings c a)
    a.request.toRequest port (w.allotment port a.request.toRequest.serviceName) hended
  constructor
  · intro n hn
    obtain ⟨hsaid, hshown⟩ := List.mem_filter.mp hn
    exact Notice.severity_eq_warn (by simpa using hshown) (hno_error n hsaid)
  · rw [warnings, List.filter_eq_nil_iff]
    refine Iff.trans (forall₂_congr fun n _ => ?_) hminor
    simp

end World

/-- **What is printed** where the result is asked for as JSON and the program succeeds.  Unless it
was a dry run, there is a result; standard output is a line for each warning, in their order, and
the document behind them; and it is the document alone just if every cluster has the name that was
ordered, every question was answered, and no cluster came late. -/
theorem json_output (w : World) (start : Start) (environment : Environment) (i : Invocation)
    (a : ProvisionArguments) (hasks : w.AsksForJson start environment i a)
    (hreal : a.dryRun = false) (hexit : (w.execution start).1 = 0) :
    ∃ c port workspace, w.config start environment i = .ok c ∧
      a.request.toRequest.validate = .ok port ∧ (w.ended c a port).2 = .ok workspace ∧
      let log := w.log (.ofVerbosity 0) c a port
      let result := document (w.completed (.ofVerbosity 0) c a port workspace)
      (w.execution start).2.standardOutput = String.join (log.map Output.text) ++ result ∧
      List.Forall₂ IsLine log (w.warnings c a port) ∧
      (∀ n ∈ w.warnings c a port, n.severity = .warn) ∧
      ((w.execution start).2.standardOutput = result ↔
        Run.Clean (w.calls c a port) workspace) := by
  obtain ⟨c, port, workspace, hconfig, hvalid, hended⟩ := hasks.exists_workspace hreal hexit
  have houtput := w.standardOutput_json hreal hasks.json hvalid hended
  rw [← hasks.execution_eq hconfig] at houtput
  obtain ⟨hwarn, hclean⟩ := World.warnings_of_workspace hended
  have hlines := w.log_ofVerbosity_zero c a port
  refine ⟨c, port, workspace, hconfig, hvalid, hended, houtput, hlines, hwarn, ?_⟩
  rw [houtput, printed_eq_document_iff hlines, hclean]

/-! ### Texts that are no documents -/

/-- A document begins with a brace. -/
theorem head_indented (completed : Completed) :
    completed.json.indented.toList.head? = some '\x7b' := by
  rw [Completed.json, Json.Value.indented, String.toList_ofList, Json.Value.lines]
  rfl

/-- And it ends with one. -/
theorem getLast_indented (completed : Completed) :
    completed.json.indented.toList.getLast? = some '\x7d' := by
  rw [Completed.json, Json.Value.indented, String.toList_ofList, Json.Value.lines,
    List.getLast?_concat]

/-- The first character of a text with something behind it. -/
theorem head_append {text : String} {first : Char} (h : text.toList.head? = some first)
    (more : String) : (text ++ more).toList.head? = some first := by
  rw [String.toList_append, List.head?_append, h]
  rfl

/-- **A dry run prints no document**: its text ends with a full stop. -/
theorem dryRun_ne_document (plan : String) (completed : Completed) :
    plan ++ "Ready to provision. Remove --dry-run to execute.\n" ≠
      completed.json.indented ++ "\n" := by
  intro h
  have hend : "Ready to provision. Remove --dry-run to execute.\n" =
      "Ready to provision. Remove --dry-run to execute." ++ "\n" := by decide +kernel
  rw [hend, ← String.append_assoc, String.append_left_inj] at h
  have hlast := congrArg (fun text => text.toList.getLast?) h
  rw [getLast_indented] at hlast
  simp at hlast

/-- In a time there is no brace. -/
theorem brace_not_mem_text (time : Instant) : '\x7b' ∉ time.text.toList := by
  have hpadded (width n : Nat) : '\x7b' ∉ Instant.padded width n := by
    intro h
    rw [Instant.padded, List.mem_append, List.mem_replicate] at h
    rcases h with ⟨-, h⟩ | h
    · cases h
    · cases Nat.isDigit_of_mem_toDigits (by decide) (by decide) h
  have hyear (year : Int) : '\x7b' ∉ Instant.yearText year := by
    rw [Instant.yearText]
    split
    · simp [hpadded]
    · split
      · simp [hpadded]
      · exact hpadded _ _
  have hfraction (n : Nat) : '\x7b' ∉ Instant.fractionText n := by
    rw [Instant.fractionText]
    repeat' split
    all_goals simp [hpadded]
  simp [Instant.text, hpadded, hyear, hfraction]

/-- **A line does not begin like a document**: it begins with a time. -/
theorem IsLine.head_ne {o : Output} {n : Notice} (h : IsLine o n) (more : String) :
    (o.text ++ more).toList.head? ≠ some '\x7b' := by
  obtain ⟨time, rfl⟩ := h
  intro hbrace
  have htime := brace_not_mem_text time
  simp only [Output.text, String.append_assoc] at hbrace
  rw [String.toList_append, List.head?_append] at hbrace
  cases hhead : time.text.toList.head? with
  | none =>
      rw [List.head?_eq_none_iff] at hhead
      simp [Instant.text] at hhead
  | some c =>
      rw [toString, instToStringString, hhead] at hbrace
      obtain rfl := Option.some.inj hbrace
      exact htime (List.mem_of_mem_head? hhead)

/-! ### Silent clusters -/

/-- A command line for a workspace on one node, whose result is asked for as JSON. -/
def jsonArguments (dryRun : Bool) : ProvisionArguments where
  request := { port := some 9092, nodes := ["node"] }
  dryRun
  json := true

/-- The words of this command line. -/
def jsonStart (dryRun : Bool) : Start where
  words := ["provisioner", "--api-url", Backend.loopback.baseUrl, "provision", "-p", "9092", "-n",
    "node", "--json"] ++ if dryRun then ["--dry-run"] else []
  environment := []

/-- What is read from them. -/
def jsonInvocation (dryRun : Bool) : Invocation where
  apiUrl := some Backend.loopback.baseUrl
  command := .provision (jsonArguments dryRun)

/-- The configuration that is used then. -/
def loopbackConfig : Config where
  apiUrl := Backend.loopback.baseUrl

theorem asksForJson_silentWorld (dryRun : Bool) :
    silentWorld.AsksForJson (jsonStart dryRun) [] (jsonInvocation dryRun)
      (jsonArguments dryRun) := by
  have henvFile : CommandLine.envFileArgument (jsonStart dryRun).words = none := by
    cases dryRun with
    | false => decide +kernel
    | true => decide +kernel
  have hinvocation : invocation (jsonStart dryRun) [] = .ok (jsonInvocation dryRun) := by
    cases dryRun with
    | false => decide +kernel
    | true => decide +kernel
  exact ⟨silentWorld.environment_of_none henvFile, rfl, hinvocation, rfl, rfl, rfl⟩

/-- It is the one for a backend on the same computer where there are no files. -/
theorem config_of_no_files {w : World} (hfiles : ∀ path, w.files path = .nothing) (start : Start)
    (environment : Environment) {i : Invocation}
    (hurl : i.apiUrl = some Backend.loopback.baseUrl) :
    w.config start environment i = .ok loopbackConfig := by
  have hload : Config.load .nothing (some Backend.loopback.baseUrl) = .ok loopbackConfig := by
    decide +kernel
  rw [World.config, hfiles, hurl, hload]
  rfl

theorem config_silentWorld (dryRun : Bool) :
    silentWorld.config (jsonStart dryRun) [] (jsonInvocation dryRun) = .ok loopbackConfig :=
  config_of_no_files (fun _ => rfl) _ _ rfl

/-- In the silent world the run succeeds, with warnings. -/
theorem exists_workspace_silentWorld : ∃ workspace,
    (silentWorld.ended loopbackConfig (jsonArguments false) 9092).2 = .ok workspace ∧
      ¬ Run.Clean (silentWorld.calls loopbackConfig (jsonArguments false) 9092) workspace := by
  obtain ⟨workspace, hworkspace⟩ := exists_workspace_of_created
    (created_silentWorld (c := loopbackConfig) rfl) loopbackConfig.polling
    (jsonArguments false).request.toRequest 9092 default
  exact ⟨workspace, hworkspace, not_clean_of_not_ran hworkspace
    (not_ran_silentWorld loopbackConfig (jsonArguments false) 9092)⟩

/-- The program succeeds, and has something to warn of. -/
theorem execution_silentWorld :
    (silentWorld.execution (jsonStart false)).1 = 0 ∧
      silentWorld.warnings loopbackConfig (jsonArguments false) 9092 ≠ [] := by
  obtain ⟨workspace, hworkspace, hwarned⟩ := exists_workspace_silentWorld
  have hvalid : (jsonArguments false).request.toRequest.validate = .ok 9092 := rfl
  constructor
  · rw [(asksForJson_silentWorld false).execution_eq (config_silentWorld false),
      (silentWorld.execute_provision (.ofVerbosity 0) loopbackConfig (jsonArguments false) rfl
        hvalid).1, World.report, hworkspace]
    rfl
  · exact mt (World.warnings_of_workspace hworkspace).2.mp hwarned

/-- In the silent world there are warnings in front of the document. -/
theorem json_output_of_silent_world :
    let printed := (silentWorld.execution (jsonStart false)).2.standardOutput
    let warnings := silentWorld.warnings loopbackConfig (jsonArguments false) 9092
    let log := silentWorld.log (.ofVerbosity 0) loopbackConfig (jsonArguments false) 9092
    (silentWorld.execution (jsonStart false)).1 = 0 ∧ ∃ workspace,
      (silentWorld.ended loopbackConfig (jsonArguments false) 9092).2 = .ok workspace ∧
        let result := document
          (silentWorld.completed (.ofVerbosity 0) loopbackConfig (jsonArguments false) 9092
            workspace)
        printed = String.join (log.map Output.text) ++ result ∧
          List.Forall₂ IsLine log warnings ∧ (∀ n ∈ warnings, n.severity = .warn) ∧
            printed ≠ result := by
  intro printed warnings log
  obtain ⟨hexit, -⟩ := execution_silentWorld
  obtain ⟨c, port, workspace, hconfig, hvalid, hended, houtput, hlines, hwarn, hclean⟩ :=
    json_output silentWorld (jsonStart false) [] (jsonInvocation false) (jsonArguments false)
      (asksForJson_silentWorld false) rfl hexit
  obtain rfl : loopbackConfig = c :=
    Except.ok.inj ((config_silentWorld false).symm.trans hconfig)
  obtain rfl : 9092 = port := Except.ok.inj hvalid
  obtain ⟨other, hother, hwarned⟩ := exists_workspace_silentWorld
  obtain rfl : other = workspace := Except.ok.inj (hother.symm.trans hended)
  exact ⟨hexit, other, hended, houtput, hlines, hwarn, fun halone => hwarned (hclean.mp halone)⟩

/-- **Standard output is one document**, whatever the backend does, where the program succeeds with
a dry run or without one. -/
def PrintsAlone (dryRun : Bool) : Prop :=
  ∀ (w : World) (start : Start) (environment : Environment) (i : Invocation)
    (a : ProvisionArguments), w.AsksForJson start environment i a → a.dryRun = dryRun →
    (w.execution start).1 = 0 → ∃ completed : Completed,
      (w.execution start).2.standardOutput = completed.json.indented ++ "\n"

/-- **Standard output is not one document**: neither in a dry run, which prints a plan, nor without
one, where a warning stands in front. -/
theorem json_output_not_alone : ¬ PrintsAlone true ∧ ¬ PrintsAlone false := by
  constructor
  · intro hall
    have hvalid : (jsonArguments true).request.toRequest.validate = .ok 9092 := rfl
    have hexecution := ((asksForJson_silentWorld true).execution_eq
      (config_silentWorld true)).trans (silentWorld.execute_dryRun (.ofVerbosity 0) loopbackConfig
        (jsonArguments true) rfl hvalid)
    obtain ⟨completed, hprinted⟩ := hall silentWorld (jsonStart true) [] (jsonInvocation true)
      (jsonArguments true) (asksForJson_silentWorld true) rfl (by rw [hexecution])
    rw [hexecution, Transcript.standardOutput, Transcript.textOf_printed] at hprinted
    exact dryRun_ne_document _ completed hprinted
  · intro hall
    obtain ⟨hexit, hwarned⟩ := execution_silentWorld
    obtain ⟨completed, hprinted⟩ := hall silentWorld (jsonStart false) [] (jsonInvocation false)
      (jsonArguments false) (asksForJson_silentWorld false) rfl hexit
    obtain ⟨workspace, hworkspace, -⟩ := exists_workspace_silentWorld
    have hlines := silentWorld.log_ofVerbosity_zero loopbackConfig (jsonArguments false) 9092
    rw [(asksForJson_silentWorld false).execution_eq (config_silentWorld false),
      silentWorld.standardOutput_json rfl rfl rfl hworkspace] at hprinted
    cases hlog : silentWorld.log (.ofVerbosity 0) loopbackConfig (jsonArguments false) 9092 with
    | nil =>
        rw [hlog] at hlines
        exact hwarned (List.forall₂_nil_left_iff.mp hlines)
    | cons o rest =>
        rw [hlog] at hlines hprinted
        obtain ⟨n, _, hline, -, -⟩ := List.forall₂_cons_left_iff.mp hlines
        rw [List.map_cons, String.join_cons, String.append_assoc] at hprinted
        have hbrace := head_append (head_indented completed) "\n"
        rw [← hprinted] at hbrace
        exact hline.head_ne _ hbrace

end Program

end Provisioning
