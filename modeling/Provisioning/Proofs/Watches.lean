/-
**What was seen of each cluster.**

A run tells how it fared with its clusters: how often it asked for each, and what came out.  Whether
that is right can only be said against the calls themselves.  A **watch** is what the calls tell of
one cluster, and it is read off them without any knowledge of runs: the cluster that a create call
brought about, and all questions that were asked from then on until the next create call, whatever
they were about, with their replies.

The courses of a run know more.  There every watch is the wait for a cluster, from its first
question to its last, and it is this cluster that was asked for.  So what a wait is known to be,
early replies that do not say running and a last one, is known of the questions among the calls, and
the reports of a run are the reports of its watches.

Main definitions:

* `Run.Watch`, `Run.watches` — **what was seen of each cluster**, in the calls of a run;
* `Run.Watch.Ran`, `Run.Watch.timeout`, `Run.Watch.report` — what a watch says;
* `Run.Watch.Whole` — a watch that is a wait.

Main results:

* `Run.Stages.watches_whole` — **the watches of a run are waits**, and hold all its questions;
* `Run.Stages.reports_eq` — the reports of a run are those of its watches;
* `Run.not_ran_of_unanswered` — a cluster is not seen running where no question is answered.
-/

import Provisioning.Proofs.Binding

set_option relaxedAutoImplicit false
set_option autoImplicit false

namespace Provisioning

namespace Poll.Answers

variable {retries : Nat}

/-- All replies of a wait, in their order. -/
def replies (answers : Answers retries) : List Reply := answers.early ++ [answers.last]

theorem length_replies (answers : Answers retries) :
    answers.replies.length = answers.questions := by
  rw [replies, List.length_append, questions]
  rfl

/-- A cluster has reported running in some reply just if it has in the last one. -/
theorem running_iff (answers : Answers retries) :
    answers.running ↔ ∃ reply ∈ answers.replies, stateOf reply = .running := by
  constructor
  · intro hlast
    exact ⟨answers.last, List.mem_concat_self, hlast⟩
  · rintro ⟨reply, hreply, hrunning⟩
    rcases List.mem_append.mp hreply with hearly | hlast
    · exact absurd hrunning (answers.early_not_running reply hearly)
    · rwa [List.mem_singleton.mp hlast] at hrunning

end Poll.Answers

namespace Run

open Cluster (Kind Order Descriptor ContainerState)
open Poll (Reply Answers stateOf)
open Workflow (Act Talk talks talks_nil talks_append talks_published)

/-! ### Questions -/

/-- What a question was about, with its reply. -/
def question? : Talk → Option (String × Reply)
  | ⟨.status cluster, reply⟩ => some (cluster, reply)
  | _ => none

/-- The questions among calls, with their replies. -/
def questionsAmong (talks : List Talk) : List (String × Reply) := talks.filterMap question?

@[simp] theorem questionsAmong_append (talks more : List Talk) :
    questionsAmong (talks ++ more) = questionsAmong talks ++ questionsAmong more :=
  List.filterMap_append

/-- The questions of a wait. -/
@[simp] theorem questionsAmong_wait {retries : Nat} (interval : UInt64) (cluster : String)
    (answers : Answers retries) :
    questionsAmong (answers.talks interval cluster) = answers.replies.map (cluster, ·) := by
  have hearly (early : List Reply) :
      questionsAmong
          (early.flatMap fun reply => [⟨.status cluster, reply⟩, ⟨.sleep interval, ()⟩]) =
        early.map (cluster, ·) := by
    induction early with
    | nil => rfl
    | cons reply early ih =>
        rw [List.flatMap_cons, questionsAmong_append, ih]
        rfl
  rw [Answers.talks, Answers.replies, questionsAmong_append, hearly, List.map_append]
  rfl

/-- Whether something else than a create call was answered. -/
def isElse : Talk → Bool
  | ⟨.create _, _⟩ => false
  | _ => true

/-- The questions before the next create call. -/
def questionsAhead (talks : List Talk) : List (String × Reply) :=
  questionsAmong (talks.takeWhile isElse)

@[simp] theorem questionsAhead_nil : questionsAhead [] = [] := rfl

@[simp] theorem questionsAhead_create (order : Order) (reply : Except Backend.CallError String)
    (talks : List Talk) : questionsAhead (⟨.create order, reply⟩ :: talks) = [] := rfl

@[simp] theorem questionsAhead_compensate (stage : Kind) (created : List Descriptor)
    (talks : List Talk) :
    questionsAhead (⟨.compensate stage created, ()⟩ :: talks) = questionsAhead talks := rfl

/-- A wait is over before the next create call. -/
@[simp] theorem questionsAhead_wait {retries : Nat} (interval : UInt64) (cluster : String)
    (answers : Answers retries) (talks : List Talk) :
    questionsAhead (answers.talks interval cluster ++ talks) =
      answers.replies.map (cluster, ·) ++ questionsAhead talks := by
  have helse : ∀ talk ∈ answers.talks interval cluster, isElse talk = true := by
    intro talk htalk
    rcases Answers.eq_of_mem_talks htalk with ⟨reply, rfl⟩ | rfl
    · rfl
    · rfl
  rw [questionsAhead, List.takeWhile_append_of_pos helse, questionsAmong_append,
    questionsAmong_wait]
  rfl

/-- Where no question comes ahead, none is added to those before. -/
theorem questionsAhead_append {more : List Talk} (hmore : questionsAhead more = [])
    (talks : List Talk) : questionsAhead (talks ++ more) = questionsAhead talks := by
  rw [questionsAhead, questionsAhead, List.takeWhile_append]
  split
  · rename_i hall
    have htalks : talks.takeWhile isElse = talks :=
      (List.takeWhile_prefix isElse).eq_of_length hall
    rw [questionsAmong_append, htalks]
    exact (congrArg (questionsAmong talks ++ ·) hmore).trans (List.append_nil _)
  · rfl

/-! ### Watches -/

/-- **What was seen of a cluster**: the questions that were asked after it was created, whatever
they were about, and before the next create call. -/
structure Watch where
  cluster : Descriptor
  questions : List (String × Reply)

/-- **The watches** among calls: one of each cluster that was created. -/
def watches : List Talk → List Watch
  | [] => []
  | talk :: talks =>
    match createdBy? talk with
    | some cluster => ⟨cluster, questionsAhead talks⟩ :: watches talks
    | none => watches talks

namespace Watch

/-- Whether the cluster was seen running. -/
def Ran (w : Watch) : Prop := ∃ question ∈ w.questions, stateOf question.2 = .running

instance (w : Watch) : Decidable w.Ran :=
  inferInstanceAs (Decidable (∃ question ∈ w.questions, stateOf question.2 = .running))

/-- The state in which the cluster was seen last. -/
def lastState (w : Watch) : ContainerState :=
  (w.questions.getLast?.map fun question => stateOf question.2).getD .unknown

/-- That the cluster was not seen running. -/
def timeout (w : Watch) : Readiness.Timeout where
  cluster := w.cluster.name
  attempts := .ofNat w.questions.length
  lastState := w.lastState

/-- What is to be reported of the cluster. -/
def report (w : Watch) : StageReport where
  cluster := w.cluster
  readiness := if w.Ran then .running (.ofNat w.questions.length) else .timedOut w.timeout

/-- The watch of a wait. -/
def ofAnswers {retries : Nat} (cluster : Descriptor) (answers : Answers retries) : Watch where
  cluster
  questions := answers.replies.map (cluster.name, ·)

/-- **A watch that is a wait** for its cluster, with the given polling. -/
def Whole (polling : Readiness.Polling) (w : Watch) : Prop :=
  ∃ cluster, ∃ answers : Answers polling.maxRetries.toNat, w = ofAnswers cluster answers

section ofAnswers

variable {retries : Nat} (cluster : Descriptor) (answers : Answers retries)

theorem length_questions_ofAnswers : (ofAnswers cluster answers).questions.length =
    answers.questions := by
  rw [ofAnswers, List.length_map, answers.length_replies]

/-- A wait has seen its cluster running just if its last reply says so. -/
@[simp] theorem ran_ofAnswers : (ofAnswers cluster answers).Ran ↔ answers.running := by
  rw [answers.running_iff]
  constructor
  · rintro ⟨question, hquestion, hrunning⟩
    obtain ⟨reply, hreply, rfl⟩ := List.mem_map.mp hquestion
    exact ⟨reply, hreply, hrunning⟩
  · rintro ⟨reply, hreply, hrunning⟩
    exact ⟨(cluster.name, reply), List.mem_map.mpr ⟨reply, hreply, rfl⟩, hrunning⟩

@[simp] theorem timeout_ofAnswers : (ofAnswers cluster answers).timeout =
    answers.timeout cluster.name := by
  have hlast : (ofAnswers cluster answers).lastState = stateOf answers.last := by
    rw [lastState, ofAnswers, Answers.replies, List.map_append, List.map_singleton,
      List.getLast?_concat]
    rfl
  rw [timeout, hlast, length_questions_ofAnswers]
  rfl

/-- The report of a wait. -/
theorem report_ofAnswers : (ofAnswers cluster answers).report =
    ⟨cluster, answers.readiness cluster.name⟩ := by
  simp only [report, ran_ofAnswers, timeout_ofAnswers, length_questions_ofAnswers]
  rfl

end ofAnswers

end Watch

@[simp] theorem watches_nil : watches [] = [] := rfl

@[simp] theorem watches_created (order : Order) (name : String) (talks : List Talk) :
    watches (⟨.create order, .ok name⟩ :: talks) =
      ⟨order.descriptor name, questionsAhead talks⟩ :: watches talks := rfl

@[simp] theorem watches_refused (order : Order) (e : Backend.CallError) (talks : List Talk) :
    watches (⟨.create order, .error e⟩ :: talks) = watches talks := rfl

@[simp] theorem watches_compensate (stage : Kind) (created : List Descriptor)
    (talks : List Talk) :
    watches (⟨.compensate stage created, ()⟩ :: talks) = watches talks := rfl

/-- There is a watch of each cluster. -/
theorem clusters_watches (talks : List Talk) :
    (watches talks).map (·.cluster) = createdAmong talks := by
  induction talks with
  | nil => rfl
  | cons talk talks ih =>
      rw [watches, createdAmong, List.filterMap_cons]
      cases createdBy? talk with
      | none => exact ih
      | some cluster => exact congrArg (cluster :: ·) ih

/-- Where no question comes ahead, the watches before are what they were. -/
theorem watches_append {more : List Talk} (hmore : questionsAhead more = [])
    (talks : List Talk) : watches (talks ++ more) = watches talks ++ watches more := by
  induction talks with
  | nil => rfl
  | cons talk talks ih =>
      rw [List.cons_append, watches, watches, questionsAhead_append hmore, ih]
      cases createdBy? talk with
      | none => rfl
      | some cluster => rfl

/-- Nobody is created in a wait. -/
@[simp] theorem watches_wait {retries : Nat} (interval : UInt64) (cluster : String)
    (answers : Answers retries) : watches (answers.talks interval cluster) = [] := by
  have hclusters : (watches (answers.talks interval cluster)).map (·.cluster) = [] := by
    rw [clusters_watches, createdAmong_wait]
  exact List.map_eq_nil_iff.mp hclusters

/-! ### The stages -/

/-- The watch of a stage whose cluster was created. -/
theorem watches_creation (settings : Settings) (order : Order) (name : String)
    (answers : Answers settings.polling.maxRetries.toNat) {more : List Talk}
    (hmore : questionsAhead more = []) :
    watches (talks (creation settings order name answers) ++ more) =
      .ofAnswers (order.descriptor name) answers :: watches more := by
  rw [watches_append hmore, talks_creation, watches_created, watches_wait,
    ← List.append_nil (answers.talks _ _), questionsAhead_wait, questionsAhead_nil,
    List.append_nil]
  rfl

/-- The watch of a stage whose cluster was created is a wait, and holds all questions. -/
theorem creation_whole (settings : Settings) (order : Order) (name : String)
    (answers : Answers settings.polling.maxRetries.toNat) {more : List Talk}
    (hmore : questionsAhead more = []) (hwatches : watches more = [])
    (hquestions : questionsAmong more = []) :
    let all := talks (creation settings order name answers) ++ more
    (∀ w ∈ watches all, w.Whole settings.polling) ∧
      questionsAmong all = (watches all).flatMap (·.questions) := by
  intro all
  have hall : watches all = [.ofAnswers (order.descriptor name) answers] := by
    rw [watches_creation settings order name answers hmore, hwatches]
  constructor
  · intro w hw
    rw [hall] at hw
    obtain rfl := List.mem_singleton.mp hw
    exact ⟨_, answers, rfl⟩
  · rw [hall, List.flatMap_singleton, questionsAmong_append, hquestions, List.append_nil,
      talks_creation]
    exact questionsAmong_wait _ name answers

variable {settings : Settings} {next : List StageReport → Option Order}

/-- No question comes ahead of a stage. -/
theorem Stage.questionsAhead_eq {earlier : List StageReport} {order : Order} {acts : List Act}
    {result : Except Failure StageReport} (h : Stage settings earlier order acts result)
    (more : List Talk) : questionsAhead (talks acts ++ more) = [] := by
  cases h with
  | refused e => rfl
  | unready name answers _ _ => rfl
  | passed name answers _ => rfl

theorem Stages.questionsAhead_eq {earlier : List StageReport} {acts : List Act}
    {result : Except Failure (List StageReport)} (h : Stages settings next earlier acts result) :
    questionsAhead (talks acts) = [] := by
  cases h with
  | complete _ => rfl
  | failed _ hstage =>
      rw [← List.append_nil (talks acts)]
      exact hstage.questionsAhead_eq []
  | passed _ hstage _ =>
      rw [talks_append]
      exact hstage.questionsAhead_eq _

/-- **The watch of a stage** is the wait for its cluster, and holds all questions of the stage. -/
theorem Stage.watches_whole {earlier : List StageReport} {order : Order} {acts : List Act}
    {result : Except Failure StageReport} (h : Stage settings earlier order acts result) :
    (∀ w ∈ watches (talks acts), w.Whole settings.polling) ∧
      questionsAmong (talks acts) = (watches (talks acts)).flatMap (·.questions) := by
  cases h with
  | refused e => exact ⟨nofun, rfl⟩
  | unready name answers _ _ =>
      rw [talks_append, talks_aborting]
      exact creation_whole settings order name answers rfl rfl rfl
  | passed name answers _ =>
      rw [← List.append_nil (talks _)]
      exact creation_whole settings order name answers rfl rfl rfl

/-- **The watches of the stages** are the waits for their clusters, and hold all questions. -/
theorem Stages.watches_whole {earlier : List StageReport} {acts : List Act}
    {result : Except Failure (List StageReport)} (h : Stages settings next earlier acts result) :
    (∀ w ∈ watches (talks acts), w.Whole settings.polling) ∧
      questionsAmong (talks acts) = (watches (talks acts)).flatMap (·.questions) := by
  induction h with
  | complete _ => exact ⟨nofun, rfl⟩
  | failed _ hstage => exact hstage.watches_whole
  | passed _ hstage hmore ih =>
      obtain ⟨hwhole, hquestions⟩ := hstage.watches_whole
      obtain ⟨hwholes, hall⟩ := ih
      rw [talks_append, watches_append hmore.questionsAhead_eq]
      constructor
      · intro w hw
        exact (List.mem_append.mp hw).elim (hwhole w) (hwholes w)
      · rw [questionsAmong_append, hquestions, hall, List.flatMap_append]

/-- A stage that is passed reports its watch: the cluster was seen running, or it does not
matter. -/
theorem Stage.report_eq {earlier : List StageReport} {order : Order} {acts : List Act}
    {report : StageReport} (h : Stage settings earlier order acts (.ok report)) :
    ∃ w, watches (talks acts) = [w] ∧ report = w.report ∧ (w.Ran ∨ settings.policy = .proceed) := by
  cases h with
  | passed name answers hp =>
      refine ⟨.ofAnswers (order.descriptor name) answers, ?_, ?_, ?_⟩
      · rw [← List.append_nil (talks _)]
        exact watches_creation settings order name answers rfl
      · rw [Watch.report_ofAnswers]
        rfl
      · rwa [Watch.ran_ofAnswers]

/-- **The stages that are passed report their watches.** -/
theorem Stages.reports_eq {earlier reports : List StageReport} {acts : List Act}
    (h : Stages settings next earlier acts (.ok reports)) :
    reports = earlier ++ (watches (talks acts)).map Watch.report ∧
      ∀ w ∈ watches (talks acts), w.Ran ∨ settings.policy = .proceed := by
  generalize hresult : Except.ok reports = result at h
  induction h with
  | complete _ =>
      obtain rfl := Except.ok.inj hresult
      exact ⟨(List.append_nil _).symm, nofun⟩
  | failed _ _ => cases hresult
  | passed _ hstage hmore ih =>
      obtain ⟨hreports, hall⟩ := ih hresult
      obtain ⟨w, hw, rfl, hran⟩ := hstage.report_eq
      rw [talks_append, watches_append hmore.questionsAhead_eq, hw]
      constructor
      · rw [hreports, List.append_assoc]
        rfl
      · exact List.forall_mem_cons.mpr ⟨hran, hall⟩

/-! ### Silence -/

/-- A question among calls is one of the calls. -/
theorem mem_questionsAmong_iff {talks : List Talk} {cluster : String} {reply : Reply} :
    (cluster, reply) ∈ questionsAmong talks ↔ (⟨.status cluster, reply⟩ : Talk) ∈ talks := by
  rw [questionsAmong, List.mem_filterMap]
  constructor
  · rintro ⟨⟨call, answer⟩, htalk, hquestion⟩
    cases call with
    | status other =>
        obtain ⟨rfl, rfl⟩ := Prod.mk.inj (Option.some.inj hquestion)
        exact htalk
    | create order => cases hquestion
    | sleep ms => cases hquestion
    | compensate stage created => cases hquestion
  · exact fun htalk => ⟨_, htalk, rfl⟩

/-- The questions of a watch are among those that were asked. -/
theorem mem_questionsAmong_of_watch {talks : List Talk} {w : Watch} (hw : w ∈ watches talks) :
    ∀ question ∈ w.questions, question ∈ questionsAmong talks := by
  induction talks with
  | nil => cases hw
  | cons talk talks ih =>
      have hmore : ∀ question ∈ questionsAmong talks, question ∈ questionsAmong (talk :: talks) :=
        fun question h => (questionsAmong_append [talk] talks) ▸ List.mem_append_right _ h
      intro question hquestion
      refine hmore question ?_
      rw [watches] at hw
      cases hcreated : createdBy? talk with
      | none =>
          rw [hcreated] at hw
          exact ih hw question hquestion
      | some cluster =>
          rw [hcreated] at hw
          rcases List.mem_cons.mp hw with rfl | hw
          · exact ((List.takeWhile_sublist _).filterMap question?).subset hquestion
          · exact ih hw question hquestion

/-- **Where no question is answered**, no cluster is seen running. -/
theorem not_ran_of_unanswered {talks : List Talk}
    (h : ∀ cluster reply, (⟨.status cluster, reply⟩ : Talk) ∈ talks → reply.isOk = false) :
    ∀ w ∈ watches talks, ¬ w.Ran := by
  rintro w hw ⟨⟨cluster, reply⟩, hquestion, hrunning⟩
  have hasked := mem_questionsAmong_iff.mp (mem_questionsAmong_of_watch hw _ hquestion)
  have hreply := h cluster reply hasked
  cases reply with
  | ok state => cases hreply
  | error e => cases hrunning

end Run

end Provisioning
