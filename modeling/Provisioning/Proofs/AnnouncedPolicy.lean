/-
**The policy that a plan announces.**

A dry run prints what would be done about a cluster that never reports running: the run would go on,
or it would fail.  Which of them a run does is not a matter of one answer: it shows at the first
cluster that was asked for in vain, where the run either ends, with the timeout of this cluster and
all clusters so far, or goes on and can fail for a refused cluster only.

The plan takes the policy from the configuration.  The run takes it from there too, but not if the
command line asks for failing.  So a plan announces what the run does, unless the command line asks
for failing and the configuration does not: then the plan says that the run would go on, and the run
fails.

Main definitions:

* `Run.AbortedAtFirstTimeout` — **a run that was ended by its first wait in vain**;
* `Program.Announces` — the policy that the text of a dry run announces.

Main results:

* `Run.Course.aborted_iff` — a run is ended by its first wait in vain just if its policy is to fail;
* `Program.announced_policy` — **the plan and the run**;
* `Program.announced_policy_not_applied` — a plan that announces something else.
-/

import Provisioning.Proofs.Acknowledged
import Provisioning.Proofs.Executions
import Provisioning.Proofs.Policies

set_option relaxedAutoImplicit false
set_option autoImplicit false

namespace Provisioning

/-! ### Runs that are ended by a wait in vain -/

namespace Run

open Cluster (Order)
open Workflow (Act Talk talks talks_append talks_published talks_nil)

/-- **A run that was ended by its first wait in vain**: every cluster before was seen running, none
was created behind it, and the answer has the timeout of this wait and all clusters. -/
def AbortedAtFirstTimeout (calls : List Talk) (answer : Answer) : Prop :=
  ∃ passed w, watches calls = passed ++ [w] ∧ (∀ p ∈ passed, p.Ran) ∧ ¬ w.Ran ∧
    answer = .error (.stage ⟨w.cluster.kind, .readiness w.timeout, createdAmong calls⟩)

variable {settings : Settings} {next : List StageReport → Option Order} {r : Request}
  {port : UInt16} {a : Allotment}

/-- A stage of a run that is to fail has seen its cluster running, or it ends the run. -/
theorem Stage.aborted {earlier : List StageReport} {order : Order} {acts : List Act}
    {result : Except Failure StageReport} (h : Stage settings earlier order acts result)
    (hpolicy : settings.policy = .fail) :
    (∀ w ∈ watches (talks acts), w.Ran) ∨ ∃ w, watches (talks acts) = [w] ∧ ¬ w.Ran ∧
      result = .error ⟨w.cluster.kind, .readiness w.timeout, clusters earlier ++ [w.cluster]⟩ := by
  cases h with
  | refused e => exact .inl nofun
  | unready name answers hr _ =>
      refine .inr ⟨.ofAnswers (order.descriptor name) answers, ?_, ?_, ?_⟩
      · rw [talks_append, talks_aborting]
        exact watches_creation settings order name answers rfl
      · rwa [Watch.ran_ofAnswers]
      · rw [Watch.timeout_ofAnswers]
        rfl
  | passed name answers hp =>
      have hpassed : Stage settings earlier order _ _ := Stage.passed name answers hp
      obtain ⟨w, hw, -, hran⟩ := hpassed.report_eq
      refine .inl fun p hp => ?_
      rw [hw] at hp
      obtain rfl := List.mem_singleton.mp hp
      exact hran.resolve_right (by rw [hpolicy]; nofun)

/-- **The stages of a run that is to fail** end at the first wait in vain. -/
theorem Stages.aborted {earlier : List StageReport} {acts : List Act}
    {result : Except Failure (List StageReport)} (h : Stages settings next earlier acts result)
    (hpolicy : settings.policy = .fail) (hlate : ∃ w ∈ watches (talks acts), ¬ w.Ran) :
    ∃ passed w, watches (talks acts) = passed ++ [w] ∧ (∀ p ∈ passed, p.Ran) ∧ ¬ w.Ran ∧
      result = .error ⟨w.cluster.kind, .readiness w.timeout,
        clusters earlier ++ createdAmong (talks acts)⟩ := by
  induction h with
  | complete hnext =>
      obtain ⟨w, hw, -⟩ := hlate
      cases hw
  | failed hnext hstage =>
      rcases hstage.aborted hpolicy with hran | ⟨w, hw, hnot, hresult⟩
      · obtain ⟨p, hp, hlate⟩ := hlate
        exact absurd (hran p hp) hlate
      · refine ⟨[], w, hw, nofun, hnot, ?_⟩
        rw [← clusters_watches, hw]
        exact congrArg Except.error (Except.error.inj hresult)
  | @passed earlier order acts more report result hnext hstage hmore ih =>
      rw [talks_append, watches_append hmore.questionsAhead_eq] at hlate ⊢
      -- This stage does not end the run, so the first wait in vain is behind it.
      have hran : ∀ w ∈ watches (talks acts), w.Ran := by
        rcases hstage.aborted hpolicy with hran | ⟨w, -, -, hresult⟩
        · exact hran
        · cases hresult
      have hrest : ∃ w ∈ watches (talks more), ¬ w.Ran := by
        obtain ⟨w, hw, hnot⟩ := hlate
        exact ⟨w, (List.mem_append.mp hw).resolve_left fun hw => hnot (hran w hw), hnot⟩
      obtain ⟨passed, w, hw, hpassed, hnot, hresult⟩ := ih hrest
      refine ⟨watches (talks acts) ++ passed, w, ?_, ?_, hnot, ?_⟩
      · rw [hw, List.append_assoc]
      · exact List.forall_mem_append.mpr ⟨hran, hpassed⟩
      · rw [hresult, clusters_concat, createdAmong_append, hstage.createdAmong_eq,
          List.append_assoc]

/-- **A run is ended by its first wait in vain** just if its policy is to fail, and there is one. -/
theorem Course.aborted_iff {acts : List Act} {result : Except Failure Workspace}
    (h : Course settings r port a acts result) :
    AbortedAtFirstTimeout (talks acts) (answerOf result) ↔
      settings.policy = .fail ∧ ∃ w ∈ watches (talks acts), ¬ w.Ran := by
  constructor
  · rintro ⟨passed, w, hw, -, hnot, hanswer⟩
    refine ⟨?_, w, by rw [hw]; exact List.mem_concat_self, hnot⟩
    cases result with
    | ok workspace => cases hanswer
    | error f =>
        cases hanswer
        exact h.exact.explained.1
  · rintro ⟨hpolicy, hlate⟩
    cases h with
    | failed h =>
        obtain ⟨passed, w, hw, hpassed, hnot, hresult⟩ := h.aborted hpolicy hlate
        cases hresult
        exact ⟨passed, w, hw, hpassed, hnot, rfl⟩
    | complete h =>
        rw [talks_append, talks_published, talks_nil, List.append_nil] at hlate
        obtain ⟨_, _, _, _, _, hresult⟩ := h.aborted hpolicy hlate
        cases hresult

end Run

/-! ### Plans -/

namespace Program

open Backend (Client)

/-- What a dry run prints behind the policy. -/
def planEnd : String :=
  "\n" ++ "\nValidation: PASSED\n" ++ "Ready to provision. Remove --dry-run to execute.\n"

/-- **The policy that a text announces**: it stands behind the words on timeouts, at the end of the
line in front of the last ones. -/
def Announces (text : String) (p : Readiness.Policy) : Prop :=
  ∃ front, text = front ++ "on timeout: " ++ p.title ++ planEnd

/-- A text announces one policy at most. -/
theorem Announces.unique {text : String} {p q : Readiness.Policy} (hp : Announces text p)
    (hq : Announces text q) : p = q := by
  obtain ⟨front, rfl⟩ := hp
  obtain ⟨other, htext⟩ := hq
  replace htext := (String.append_left_inj planEnd).mp htext
  -- The titles do not end with the same letter.
  have hlast := congrArg (fun text => text.toList.getLast?) htext
  cases p with
  | proceed =>
      cases q with
      | proceed => rfl
      | fail => simp [Readiness.Policy.title] at hlast
  | fail =>
      cases q with
      | proceed => simp [Readiness.Policy.title] at hlast
      | fail => rfl

/-- A plan announces the policy of the configuration. -/
theorem announces_plan (r : Request) (c : Config) :
    Announces (Report.plan r c ++ "Ready to provision. Remove --dry-run to execute.\n")
      c.readinessPolicy := by
  obtain ⟨front, hplan⟩ : ∃ front,
      Report.plan r c = front ++ Report.readinessLine c ++ "\nValidation: PASSED\n" := ⟨_, rfl⟩
  obtain ⟨start, hline⟩ : ∃ start,
      Report.readinessLine c = start ++ ("on timeout: " ++ c.readinessPolicy.title ++ "\n") :=
    ⟨_, rfl⟩
  refine ⟨front ++ start, ?_⟩
  rw [hplan, hline, planEnd]
  simp only [String.append_assoc]

/-! ### The plan and the run -/

/-- The run of a command line is ended by its first wait in vain just if its policy is to fail, and
there is one. -/
theorem World.aborted_iff (w : World) (c : Config) (a : CommandLine.ProvisionArguments)
    (port : UInt16) :
    Run.AbortedAtFirstTimeout (w.calls c a port) (w.ended c a port).2 ↔
      (runSettings c a).policy = .fail ∧ ∃ watch ∈ Run.watches (w.calls c a port), ¬ watch.Ran := by
  obtain ⟨result, hcourse, hresult⟩ := w.exists_course_ended c a port
  rw [calls, hresult]
  exact hcourse.aborted_iff

/-- The policy of a run is to fail if the configuration says so, or the command line. -/
theorem policy_runSettings_eq_fail_iff (c : Config) (a : CommandLine.ProvisionArguments) :
    (runSettings c a).policy = .fail ↔ c.readinessPolicy = .fail ∨ a.failOnTimeout = true := by
  rw [runSettings]
  cases a.failOnTimeout with
  | false => simp
  | true => simp

/-- **A dry run** sends nothing, and announces the policy of the configuration. -/
theorem World.dryRun_announces (w : World) (filter : Notice.Filter) (c : Config)
    (a : CommandLine.ProvisionArguments) {port : UInt16} (hdry : a.dryRun = true)
    (hvalid : a.request.toRequest.validate = .ok port) :
    let dry := (execute w.system filter c (.provision a)).run {}
    dry.1 = 0 ∧ dry.2.requests = [] ∧
      ∀ p, Announces dry.2.standardOutput p ↔ p = c.readinessPolicy := by
  intro dry
  have hplan := announces_plan a.request.toRequest c
  have heq : dry = (0, { outputs := [.printed (Report.plan a.request.toRequest c ++
      "Ready to provision. Remove --dry-run to execute.\n")] }) :=
    w.execute_dryRun filter c a hdry hvalid
  rw [heq]
  refine ⟨rfl, rfl, fun p => ?_⟩
  rw [Transcript.standardOutput, Transcript.textOf_printed]
  exact ⟨fun h => h.unique hplan, fun h => h ▸ hplan⟩

/-- The run and its report do not depend on whether a dry run is asked for. -/
theorem World.report_dryRun (w : World) (filter : Notice.Filter) (c : Config)
    (a : CommandLine.ProvisionArguments) (port : UInt16) (dryRun : Bool) :
    w.ended c { a with dryRun } port = w.ended c a port ∧
      w.report filter c { a with dryRun } port = w.report filter c a port ∧
      w.log filter c { a with dryRun } port = w.log filter c a port := by
  have hended : w.ended c { a with dryRun } port = w.ended c a port := rfl
  have hdone : w.done filter c { a with dryRun } port = w.done filter c a port := by
    rw [done, done, afterRun, afterRun, hended]
  refine ⟨hended, ?_, congrArg Transcript.outputs hdone⟩
  rw [report, report, hended]
  simp only [completed, hdone]

/-- **What a plan announces, and what the run does.**  With the same configuration and the same
arguments, whatever the backend answers: the dry run sends nothing, and announces the policy of the
configuration; the run ends as its conversation with the backend does, and where some cluster never
reports running, it is ended by the first such cluster if the configuration says so or the command
line.  So the plan is right unless the command line asks for failing and the configuration does
not. -/
theorem announced_policy (w : World) (filter : Notice.Filter) (c : Config)
    (a : CommandLine.ProvisionArguments) (port : UInt16)
    (hvalid : a.request.toRequest.validate = .ok port) :
    let dry := (execute w.system filter c (.provision { a with dryRun := true })).run {}
    let real := (execute w.system filter c (.provision { a with dryRun := false })).run {}
    let calls := w.calls c a port
    let ended := w.ended c a port
    (dry.1 = 0 ∧ dry.2.requests = [] ∧
      ∀ p, Announces dry.2.standardOutput p ↔ p = c.readinessPolicy) ∧
    (real.1 = (w.report filter c a port).2 ∧
      real.2.requests = (Client.ofConfig c).requests ended.1 ∧
      real.2.outputs = w.log filter c a port ++ [(w.report filter c a port).1]) ∧
    ((∃ watch ∈ Run.watches calls, ¬ watch.Ran) →
      (Run.AbortedAtFirstTimeout calls ended.2 ↔
        c.readinessPolicy = .fail ∨ a.failOnTimeout = true) ∧
      ((Run.AbortedAtFirstTimeout calls ended.2 ↔ Announces dry.2.standardOutput .fail) ↔
        (a.failOnTimeout = true → c.readinessPolicy = .fail))) := by
  intro dry real calls ended
  obtain ⟨hzero, hnone, hannounces⟩ :=
    w.dryRun_announces filter c { a with dryRun := true } rfl hvalid
  obtain ⟨hexit, hrequests, -, houtputs⟩ :=
    w.execute_provision filter c { a with dryRun := false } rfl hvalid
  obtain ⟨hended, hreport, hlog⟩ := w.report_dryRun filter c a port false
  rw [hended] at hrequests
  rw [hreport] at hexit houtputs
  rw [hlog] at houtputs
  refine ⟨⟨hzero, hnone, hannounces⟩, ⟨hexit, hrequests, houtputs⟩, fun hlate => ?_⟩
  have haborted : Run.AbortedAtFirstTimeout calls ended.2 ↔
      c.readinessPolicy = .fail ∨ a.failOnTimeout = true := by
    rw [w.aborted_iff c a port, policy_runSettings_eq_fail_iff]
    exact and_iff_left hlate
  refine ⟨haborted, ?_⟩
  rw [haborted, hannounces, eq_comm (a := Readiness.Policy.fail)]
  exact or_iff_left_iff_imp

/-! ### Silent clusters -/

/-- A configuration with which a cluster is asked for once. -/
def askingOnce (policy : Readiness.Policy) : Config where
  apiUrl := Backend.loopback.baseUrl
  maxRetries := 0
  readinessPolicy := policy

theorem validate_askingOnce (policy : Readiness.Policy) :
    (askingOnce policy).validate = .ok () := by
  cases policy with
  | proceed => decide +kernel
  | fail => decide +kernel

/-- A command line for a workspace on one node. -/
def oneNode (failOnTimeout : Bool) : CommandLine.ProvisionArguments where
  request := { port := some 9092, nodes := ["node"] }
  failOnTimeout

/-- Where a run is to fail in the silent world, it has created a cluster that never reported
running. -/
theorem exists_late_silentWorld (policy : Readiness.Policy) (failOnTimeout : Bool)
    (hstrict : runSettings (askingOnce policy) (oneNode failOnTimeout) = Run.strict) :
    ∃ watch ∈ Run.watches (silentWorld.calls (askingOnce policy) (oneNode failOnTimeout) 9092),
      ¬ watch.Ran := by
  let c := askingOnce policy
  let a := oneNode failOnTimeout
  obtain ⟨name, hname⟩ := created_silentWorld (c := c) rfl
    (Run.started a.request.toRequest 9092)
    (Run.coordinationServiceOrder a.request.toRequest 9092 default)
  have hfailed := Run.run_of_unready hname fun before =>
    Backend.status_answeringPosts (Client.ofConfig c) Backend.namelessReply before name
  have hworkflow : silentWorld.workflow c a 9092 =
      provisioning Run.strict a.request.toRequest 9092 default := by
    rw [World.workflow, hstrict]
    rfl
  obtain ⟨result, hcourse, hresult⟩ := exists_course
    ((Client.ofConfig c).environment silentWorld.backend) Run.strict a.request.toRequest 9092
    default []
  cases result with
  | ok workspace => cases hfailed.symm.trans hresult
  | error f =>
      -- The failure lists a cluster, and there is a watch of each cluster that was created.
      have hcreated := hcourse.exact.created_eq
      cases hfailed.symm.trans hresult
      rw [← Run.clusters_watches, ← hworkflow] at hcreated
      obtain ⟨watch, rest, hwatches, -⟩ := List.map_eq_cons_iff.mp hcreated.symm
      have hwatch : watch ∈ Run.watches (silentWorld.calls c a 9092) :=
        hwatches ▸ List.mem_cons_self
      exact ⟨watch, hwatch, not_ran_silentWorld c a 9092 watch hwatch⟩

/-- With a configuration that says so, the plan announces that the run would fail, and it fails. -/
theorem announced_policy_of_silent_cluster :
    let c := askingOnce .fail
    let a := oneNode false
    let dry := (execute silentWorld.system (.ofVerbosity 0) c
      (.provision { a with dryRun := true })).run {}
    let real := (execute silentWorld.system (.ofVerbosity 0) c
      (.provision { a with dryRun := false })).run {}
    Announces dry.2.standardOutput .fail ∧ real.1 = 1 ∧
      Run.AbortedAtFirstTimeout (silentWorld.calls c a 9092) (silentWorld.ended c a 9092).2 := by
  intro c a dry real
  obtain ⟨⟨-, -, hannounces⟩, ⟨hexit, -, -⟩, hlate⟩ :=
    announced_policy silentWorld (.ofVerbosity 0) c a 9092 rfl
  have haborted := (hlate (exists_late_silentWorld .fail false rfl)).1.mpr (.inl rfl)
  refine ⟨(hannounces .fail).mpr rfl, ?_, haborted⟩
  obtain ⟨_, _, _, _, _, hanswer⟩ := haborted
  rw [hexit, World.report, hanswer]

/-- **A plan that announces something else**: the command line asks for failing, and the plan says
that the run would go on. -/
theorem announced_policy_not_applied :
    ¬ ∀ (w : World) (filter : Notice.Filter) (c : Config) (a : CommandLine.ProvisionArguments)
      (port : UInt16), c.validate = .ok () → a.request.toRequest.validate = .ok port →
      (∃ watch ∈ Run.watches (w.calls c a port), ¬ watch.Ran) →
        (Run.AbortedAtFirstTimeout (w.calls c a port) (w.ended c a port).2 ↔
          Announces ((execute w.system filter c
            (.provision { a with dryRun := true })).run {}).2.standardOutput .fail) := by
  intro hall
  let c := askingOnce .proceed
  let a := oneNode true
  have hlate := exists_late_silentWorld .proceed true rfl
  have hsame := hall silentWorld (.ofVerbosity 0) c a 9092 (validate_askingOnce .proceed) rfl hlate
  obtain ⟨-, -, hannounces⟩ :=
    silentWorld.dryRun_announces (.ofVerbosity 0) c { a with dryRun := true } rfl rfl
  have haborted := (silentWorld.aborted_iff c a 9092).mpr ⟨rfl, hlate⟩
  cases (hannounces .fail).mp (hsame.mp haborted)

end Program

end Provisioning
