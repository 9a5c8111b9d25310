/-
**What a workspace says is so.**

The answer of a successful run is put together at many places: the names are kept from the create
calls, the cluster that another one is bound to is written down when that is ordered, the attempts
are counted by the wait, and what becomes of a timeout is decided by the policy.  A caller takes all
of it as one account of the run, and this account is held against the calls here: the parts agree
with one another, and each report agrees with what was seen of its cluster.

The number of attempts is counted in 32 bits, so it can be trusted only where the questions of a
wait fit into them; there may be one more question than there are retries.

Main definitions:

* `Run.StageReport.Agrees` — **a report agrees** with what was seen of its cluster;
* `Run.Workspace.Consistent` — **a workspace agrees** with the calls of its run, and with itself.

Main results:

* `Run.Watch.agrees` — the report of a wait agrees with it;
* `workspaces_consistent` — **every workspace**, of all runs, in all histories.
-/

import Provisioning.Proofs.Policies

set_option relaxedAutoImplicit false
set_option autoImplicit false

namespace Provisioning

namespace Run

open Cluster (Kind)
open Poll (Reply Answers stateOf stateOf_eq_running_iff)
open Workflow (Act Talk talks throughout_cons_iff)

/-! ### Reports -/

/-- **A report agrees with what was seen of its cluster.** -/
structure StageReport.Agrees (settings : Settings) (seen : Watch) (report : StageReport) :
    Prop where
  cluster_eq : seen.cluster = report.cluster
  /-- It was this cluster that was asked for. -/
  asked : ∀ question ∈ seen.questions, question.1 = report.cluster.name
  /-- A cluster that got ready said so at the last question, and not before. -/
  running (attempts : UInt32) : report.readiness = .running attempts →
    attempts.toNat = seen.questions.length ∧
      1 ≤ attempts.toNat ∧ attempts.toNat ≤ settings.polling.maxRetries.toNat + 1 ∧
        ∃ early, seen.questions = early ++ [(report.cluster.name, .ok .running)] ∧
          ∀ question ∈ early, question.2 ≠ .ok .running
  /-- A cluster that did not get ready was asked for as often as possible, and the state it was seen
  in last is reported. -/
  timedOut (t : Readiness.Timeout) : report.readiness = .timedOut t →
    settings.policy = .proceed ∧ t.cluster = report.cluster.name ∧
      t.attempts.toNat = seen.questions.length ∧
        t.attempts.toNat = settings.polling.maxRetries.toNat + 1 ∧ t.lastState ≠ .running ∧
          (∃ early reply, seen.questions = early ++ [(report.cluster.name, reply)] ∧
            t.lastState = stateOf reply) ∧
          ∀ question ∈ seen.questions, question.2 ≠ .ok .running

section Answers

variable {retries : Nat} (cluster : Cluster.Descriptor) (answers : Answers retries)

/-- The attempts are the questions, where these fit into 32 bits. -/
theorem toNat_attempts (hretries : retries + 1 < UInt32.size) :
    answers.attempts.toNat = (Watch.ofAnswers cluster answers).questions.length := by
  rw [Watch.length_questions_ofAnswers]
  exact UInt32.toNat_ofNat_of_lt' (Nat.lt_of_le_of_lt answers.questions_le hretries)

/-- The questions of a wait end with its last reply. -/
theorem questions_ofAnswers : (Watch.ofAnswers cluster answers).questions =
    answers.early.map (cluster.name, ·) ++ [(cluster.name, answers.last)] := by
  rw [Watch.ofAnswers, Answers.replies, List.map_append]
  rfl

/-- An early reply does not say that the cluster runs. -/
theorem early_ne_running {question : String × Reply}
    (h : question ∈ answers.early.map (cluster.name, ·)) : question.2 ≠ .ok .running := by
  obtain ⟨reply, hreply, rfl⟩ := List.mem_map.mp h
  exact mt (stateOf_eq_running_iff reply).mpr (answers.early_not_running reply hreply)

end Answers

section Agrees

variable {settings : Settings} (hretries : settings.polling.maxRetries.toNat + 1 < UInt32.size)
  (cluster : Cluster.Descriptor) {answers : Answers settings.polling.maxRetries.toNat}

/-- The questions of a wait are about its cluster. -/
theorem asked_ofAnswers : ∀ question ∈ (Watch.ofAnswers cluster answers).questions,
    question.1 = cluster.name := by
  intro question hquestion
  obtain ⟨reply, _, rfl⟩ := List.mem_map.mp hquestion
  rfl

include hretries

/-- A wait in which the cluster got ready. -/
theorem agrees_of_running (hrunning : answers.running) :
    StageReport.Agrees settings (.ofAnswers cluster answers)
      ⟨cluster, .running answers.attempts⟩ where
  cluster_eq := rfl
  asked := asked_ofAnswers cluster
  running attempts hreadiness := by
    obtain rfl := Readiness.running.inj hreadiness
    have hlast : answers.last = .ok .running := (stateOf_eq_running_iff _).mp hrunning
    have hle := answers.questions_le
    rw [toNat_attempts cluster answers hretries]
    refine ⟨rfl, ?_, ?_, answers.early.map (cluster.name, ·), ?_, ?_⟩
    · rw [Watch.length_questions_ofAnswers]
      exact Nat.le_add_left 1 answers.early.length
    · rwa [Watch.length_questions_ofAnswers]
    · rw [questions_ofAnswers, hlast]
    · exact fun question => early_ne_running cluster answers
  timedOut t hreadiness := by cases hreadiness

/-- A wait in which it did not, and the run went on. -/
theorem agrees_of_timeout (hnot : ¬ answers.running) (hpolicy : settings.policy = .proceed) :
    StageReport.Agrees settings (.ofAnswers cluster answers)
      ⟨cluster, .timedOut (answers.timeout cluster.name)⟩ where
  cluster_eq := rfl
  asked := asked_ofAnswers cluster
  running attempts hreadiness := by cases hreadiness
  timedOut t hreadiness := by
    obtain rfl := Readiness.timedOut.inj hreadiness
    have hlength := toNat_attempts cluster answers hretries
    refine ⟨hpolicy, rfl, hlength, ?_, hnot,
      ⟨_, answers.last, questions_ofAnswers cluster answers, rfl⟩, ?_⟩
    · refine hlength.trans ?_
      rw [Watch.length_questions_ofAnswers]
      exact Answers.questions_of_not_running hnot
    · intro question hquestion
      rw [questions_ofAnswers] at hquestion
      rcases List.mem_append.mp hquestion with hearly | hlast
      · exact early_ne_running cluster answers hearly
      · rw [List.mem_singleton.mp hlast]
        exact mt (stateOf_eq_running_iff _).mpr hnot

/-- **The report of a wait agrees with it**, if the run went on behind it. -/
theorem Watch.agrees (w : Watch) (hwhole : w.Whole settings.polling)
    (hpassed : w.Ran ∨ settings.policy = .proceed) : w.report.Agrees settings w := by
  obtain ⟨cluster, answers, rfl⟩ := hwhole
  rw [Watch.ran_ofAnswers] at hpassed
  rw [Watch.report_ofAnswers, Answers.readiness]
  by_cases hrunning : answers.running
  · rw [if_pos hrunning]
    exact agrees_of_running hretries cluster hrunning
  · rw [if_neg hrunning]
    exact agrees_of_timeout hretries cluster hrunning (hpassed.resolve_left hrunning)

end Agrees

/-! ### Workspaces -/

/-- **A workspace agrees with the calls of its run**: there are three reports, of the three kinds in
their order, each cluster is bound to the one before, and the names are those of the clusters.  The
reports agree with what was seen of the clusters, and nothing else was asked. -/
structure Workspace.Consistent (settings : Settings) (talks : List Talk) (w : Workspace) :
    Prop where
  kinds_eq : w.stages.map (·.cluster.kind) = [.coordinationService, .broker, .worker]
  names_eq : w.stages.map (·.cluster.name) = [w.coordinationService, w.broker, w.worker]
  bound_eq : w.stages.map (·.cluster.boundTo) = [none, some w.coordinationService, some w.broker]
  seen_eq : (watches talks).map (·.cluster) = clusters w.stages
  agrees : ∀ pair ∈ (watches talks).zip w.stages, pair.2.Agrees settings pair.1
  questions_eq : questionsAmong talks = (watches talks).flatMap (·.questions)

/-- All questions of a run belong to its watches. -/
theorem Course.watches_whole {settings : Settings} {r : Request} {port : UInt16} {a : Allotment}
    {acts : List Act} {result : Except Failure Workspace}
    (h : Course settings r port a acts result) :
    (∀ w ∈ watches (talks acts), w.Whole settings.polling) ∧
      questionsAmong (talks acts) = (watches (talks acts)).flatMap (·.questions) := by
  cases h with
  | failed h => exact h.watches_whole
  | complete h =>
      rw [Workflow.talks_append, Workflow.talks_published, Workflow.talks_nil, List.append_nil]
      exact h.watches_whole

/-- The clusters of a workspace are bound one to the other. -/
theorem Course.bound_eq {settings : Settings} {r : Request} {port : UInt16} {a : Allotment}
    {acts : List Act} {w : Workspace} (h : Course settings r port a acts (.ok w)) :
    w.stages.map (·.cluster.boundTo) = [none, some w.coordinationService, some w.broker] := by
  have hbound := (bound_of_followsOn h.followsOn).clusters
  rw [← h.names.stages_eq] at hbound
  cases h with
  | @complete _ coordination broker worker _ =>
      obtain ⟨hcoordination, hbound⟩ := throughout_cons_iff.mp hbound
      obtain ⟨hbroker, hbound⟩ := throughout_cons_iff.mp hbound
      obtain ⟨hworker, -⟩ := throughout_cons_iff.mp hbound
      have hstages : (Workspace.ofStages coordination broker worker).stages.map
          (·.cluster.boundTo) =
          [coordination.cluster.boundTo, broker.cluster.boundTo, worker.cluster.boundTo] := rfl
      rw [hstages, hcoordination.boundTo, hbroker.boundTo, hworker.boundTo]
      rfl

/-- **A run that succeeds gives a consistent workspace.** -/
theorem Course.consistent {settings : Settings} {r : Request} {port : UInt16} {a : Allotment}
    {acts : List Act} {w : Workspace} (h : Course settings r port a acts (.ok w))
    (hretries : settings.polling.maxRetries.toNat + 1 < UInt32.size) :
    w.Consistent settings (talks acts) where
  kinds_eq := by
    have hkinds := h.names.kinds_eq
    rwa [← h.names.stages_eq, clusters, List.map_map] at hkinds
  names_eq := by
    have hnames := h.names.names_eq
    rwa [← h.names.stages_eq, clusters, List.map_map] at hnames
  bound_eq := h.bound_eq
  seen_eq := (clusters_watches (talks acts)).trans h.names.stages_eq.symm
  agrees := by
    obtain ⟨hstages, hpassed⟩ := h.stages_eq
    intro pair hpair
    rw [hstages, ← List.map_prod_left_eq_zip] at hpair
    obtain ⟨seen, hseen, rfl⟩ := List.mem_map.mp hpair
    exact seen.agrees hretries (h.watches_whole.1 seen hseen) (hpassed seen hseen)
  questions_eq := h.watches_whole.2

end Run

/-! ### The theorem -/

/-- **What a workspace says is so.**  If the questions of a wait fit into 32 bits, then in a run
with any environment, whose answers may depend on everything before, and with any policy, the
workspace is consistent with the calls; and so is every workspace that a caller was given in any
history. -/
theorem workspaces_consistent (settings : Run.Settings)
    (hretries : settings.polling.maxRetries.toNat < UInt32.size - 1) :
    (∀ (r : Request) (port : UInt16) (a : Allotment) (env : Workflow.Environment),
      let w := provisioning settings r port a
      ∀ workspace, (w.run env []).2 = .ok workspace →
        workspace.Consistent settings (Workflow.talks (w.acts env []))) ∧
    ∀ moments : List Moment, ∀ f ∈ (History.after settings moments).flights,
      ∀ workspace, f.standing = .returned (.ok workspace) →
        workspace.Consistent settings f.talks := by
  have hfits : settings.polling.maxRetries.toNat + 1 < UInt32.size := by omega
  constructor
  · intro r port a env w workspace hresult
    obtain ⟨result, hcourse, hanswer⟩ := ends_provisioning_iff.mp (Workflow.ends_acts env w [])
    obtain rfl := answerOf_eq_ok_iff.mp (hanswer.symm.trans hresult)
    exact hcourse.consistent hfits
  · intro moments f hf workspace hstanding
    have hfaithful := (History.sound_after settings moments).faithful f hf
    obtain ⟨result, hcourse, hanswer⟩ := hfaithful.course_of_returned hstanding
    obtain rfl := answerOf_eq_ok_iff.mp hanswer.symm
    exact hcourse.consistent hfits

/-- A run whose broker cannot be asked for: its workspace says so. -/
theorem workspaces_consistent_of_silent_broker :
    let settings : Run.Settings := { polling := { maxRetries := 1 } }
    let r : Request := { clientPort := some 9092, nodes := ["node"] }
    let a : Allotment := { (default : Allotment) with
      coordinationServiceName := "zk", brokerName := "broker", workerName := "worker" }
    let env : Workflow.Environment := ⟨fun _ call => match call with
      | .create order => .ok order.name
      | .status cluster =>
          if cluster = "broker" then .error (.timeout "containers") else .ok .running
      | .sleep _ => ()
      | .compensate _ _ => ()⟩
    let w := provisioning settings r 9092 a
    settings.polling.maxRetries.toNat < UInt32.size - 1 ∧
      ∃ workspace, (w.run env []).2 = .ok workspace ∧
        workspace.stages.map (·.readiness) =
          [.running 1, .timedOut ⟨"broker", 2, .unknown⟩, .running 1] ∧
        workspace.Consistent settings (Workflow.talks (w.acts env [])) := by
  intro settings r a env w
  have hretries : settings.polling.maxRetries.toNat < UInt32.size - 1 := by decide
  have hreadiness : (w.run env []).2.toOption.map (fun workspace =>
      workspace.stages.map (·.readiness)) =
        some [.running 1, .timedOut ⟨"broker", 2, .unknown⟩, .running 1] := by
    decide +kernel
  cases hresult : (w.run env []).2 with
  | error failure =>
      rw [hresult] at hreadiness
      cases hreadiness
  | ok workspace =>
      rw [hresult] at hreadiness
      exact ⟨hretries, workspace, rfl, Option.some.inj hreadiness,
        (workspaces_consistent settings hretries).1 r 9092 a env workspace hresult⟩

end Provisioning
