/-
**Two policies, one client.**

What to do about a cluster that never reports running is a matter of policy: note it and go on, or
end the run.  So the two policies must differ in nothing else.  With the same client, which knows
the calls before and nothing else, they must call, wait and publish the same for as long as every
cluster gets ready, and part at the first one that does not: there, and not earlier or later, the
run that is to fail publishes its failure, and hands over what it has created, that cluster with it.

The comparison follows the run that goes on.  Its stages are stages of the other run too, up to the
first one whose cluster was not seen running; what the other run does behind this point is short
enough to be written down.  That these acts are really what it does with the client is not seen from
the stages: it follows because they have the answers of the client (`Workflow.eq_acts_of_ends`).

Main definitions:

* `Run.FirstTimeout` — the acts of a run, parted behind the first wait in vain;
* `Run.FailsAt` — **a run that fails where another one goes on**.

Main results:

* `Run.Stages.parted` — the stages of a run that goes on, and those of one that fails;
* `policies_part_at_first_timeout` — **the two policies**, for every client.
-/

import Provisioning.Proofs.Clients
import Provisioning.Proofs.Watches

set_option relaxedAutoImplicit false
set_option autoImplicit false

namespace Provisioning

namespace Run

open Cluster (Kind Order Descriptor)
open Poll (Reply Answers)
open Workflow (Act Answerer AnsweredBy answeredBy_append_iff answeredBy_cons_iff answeredBy_nil
  talks talks_append talks_published talks_nil)

/-! ### Where two runs part -/

/-- **The first wait in vain** is the one for `w`: `before` are the acts up to its last question,
and `after` are those behind it. -/
structure FirstTimeout (acts before after : List Act) (passed : List Watch) (w : Watch) : Prop where
  acts_eq : acts = before ++ after
  watches_eq : watches (talks before) = passed ++ [w]
  ran : ∀ p ∈ passed, p.Ran
  not_ran : ¬ w.Ran
  last_question : ∃ front reply, before = front ++ [.answered (.status w.cluster.name) reply]
  no_question_ahead : questionsAhead (talks after) = []

namespace FirstTimeout

variable {acts before after : List Act} {passed : List Watch} {w : Watch}

/-- The watches of all acts. -/
theorem watches_acts (h : FirstTimeout acts before after passed w) :
    watches (talks acts) = passed ++ w :: watches (talks after) := by
  rw [h.acts_eq, talks_append, watches_append h.no_question_ahead, h.watches_eq,
    List.append_assoc]
  rfl

/-- The clusters that were created up to here. -/
theorem createdAmong_eq (h : FirstTimeout acts before after passed w) :
    createdAmong (talks before) = passed.map (·.cluster) ++ [w.cluster] := by
  rw [← clusters_watches, h.watches_eq, List.map_append]
  rfl

/-- The first watch without a running cluster is found. -/
theorem find?_eq (h : FirstTimeout acts before after passed w) :
    (watches (talks acts)).find? (fun p => !p.Ran) = some w := by
  have hpassed : passed.find? (fun p => !p.Ran) = none := by
    refine List.find?_eq_none.mpr fun p hp => ?_
    simpa using h.ran p hp
  rw [h.watches_acts, List.find?_append, hpassed, Option.none_or, List.find?_cons_of_pos]
  simpa using h.not_ran

/-- More acts that begin without questions. -/
theorem append (h : FirstTimeout acts before after passed w) {more : List Act}
    (hmore : questionsAhead (talks more) = []) :
    FirstTimeout (acts ++ more) before (after ++ more) passed w where
  acts_eq := by rw [h.acts_eq, List.append_assoc]
  watches_eq := h.watches_eq
  ran := h.ran
  not_ran := h.not_ran
  last_question := h.last_question
  no_question_ahead := by
    rw [talks_append, questionsAhead_append hmore]
    exact h.no_question_ahead

/-- Acts in front, whose clusters were all seen running. -/
theorem behind (h : FirstTimeout acts before after passed w) {front : List Act}
    (hfront : ∀ p ∈ watches (talks front), p.Ran)
    (hahead : questionsAhead (talks before) = []) :
    FirstTimeout (front ++ acts) (front ++ before) after (watches (talks front) ++ passed) w where
  acts_eq := by rw [h.acts_eq, List.append_assoc]
  watches_eq := by
    rw [talks_append, watches_append hahead, h.watches_eq, List.append_assoc]
  ran p hp := (List.mem_append.mp hp).elim (hfront p) (h.ran p)
  not_ran := h.not_ran
  last_question := by
    obtain ⟨start, reply, rfl⟩ := h.last_question
    exact ⟨front ++ start, reply, (List.append_assoc _ _ _).symm⟩
  no_question_ahead := h.no_question_ahead

end FirstTimeout

variable {polling : Readiness.Polling} {next : List StageReport → Option Order}

/-- A stage whose cluster was created ends with the last question of its wait. -/
theorem exists_creation_eq (settings : Settings) (order : Order) (name : String)
    (answers : Answers settings.polling.maxRetries.toNat) :
    ∃ front, creation settings order name answers =
      front ++ [.answered (.status name) answers.last] := by
  rw [creation, Answers.acts, Answers.talks, List.map_append, ← List.cons_append,
    ← List.append_assoc]
  exact ⟨_, rfl⟩

/-! ### The stages of both runs -/

/-- **A stage of a run that goes on** is one of a run that fails, or its cluster was not seen
running and the other run fails behind it. -/
theorem Stage.parted {earlier : List StageReport} {order : Order} {acts : List Act}
    {result : Except Failure StageReport}
    (h : Stage ⟨.proceed, polling⟩ earlier order acts result) :
    ((∀ w ∈ watches (talks acts), w.Ran) ∧ Stage ⟨.fail, polling⟩ earlier order acts result) ∨
      ∃ report w, result = .ok report ∧ FirstTimeout acts acts [] [] w ∧
        Stage ⟨.fail, polling⟩ earlier order
          (acts ++ aborting w.cluster.kind (clusters earlier ++ [w.cluster]))
          (.error ⟨w.cluster.kind, .readiness w.timeout, clusters earlier ++ [w.cluster]⟩) := by
  cases h with
  | refused e => exact .inl ⟨nofun, Stage.refused e⟩
  | unready name answers _ hpolicy => cases hpolicy
  | passed name answers _ =>
      let w := Watch.ofAnswers (order.descriptor name) answers
      have hwatches : watches (talks (creation ⟨.proceed, polling⟩ order name answers)) = [w] := by
        rw [← List.append_nil (talks _)]
        exact watches_creation _ order name answers rfl
      by_cases hran : answers.running
      · refine .inl ⟨?_, @Stage.passed ⟨.fail, polling⟩ earlier order name answers (.inl hran)⟩
        intro p hp
        rw [hwatches] at hp
        obtain rfl := List.mem_singleton.mp hp
        exact (Watch.ran_ofAnswers _ _).mpr hran
      · obtain ⟨front, hfront⟩ := exists_creation_eq ⟨.proceed, polling⟩ order name answers
        have htimeout : w.timeout = answers.timeout name := Watch.timeout_ofAnswers _ answers
        refine .inr ⟨_, w, rfl, ⟨(List.append_nil _).symm, hwatches, nofun, ?_,
          ⟨front, answers.last, hfront⟩, rfl⟩, ?_⟩
        · rwa [Watch.ran_ofAnswers]
        · rw [htimeout]
          exact @Stage.unready ⟨.fail, polling⟩ earlier order name answers hran rfl

/-- **The stages of a run that goes on** are those of a run that fails, or some cluster was not seen
running, and the other run fails behind the first such wait. -/
theorem Stages.parted {earlier : List StageReport} {acts : List Act}
    {result : Except Failure (List StageReport)}
    (h : Stages ⟨.proceed, polling⟩ next earlier acts result) :
    ((∀ w ∈ watches (talks acts), w.Ran) ∧ Stages ⟨.fail, polling⟩ next earlier acts result) ∨
      ∃ before after passed w created, FirstTimeout acts before after passed w ∧
        created = clusters earlier ++ createdAmong (talks before) ∧
          Stages ⟨.fail, polling⟩ next earlier (before ++ aborting w.cluster.kind created)
            (.error ⟨w.cluster.kind, .readiness w.timeout, created⟩) := by
  induction h with
  | complete hnext => exact .inl ⟨nofun, Stages.complete hnext⟩
  | failed hnext hstage =>
      rcases hstage.parted with ⟨hran, hstage⟩ | ⟨_, _, hresult, _⟩
      · exact .inl ⟨hran, Stages.failed hnext hstage⟩
      · cases hresult
  | @passed earlier order acts more report result hnext hstage hmore ih =>
      rcases hstage.parted with ⟨hran, hstage'⟩ | ⟨_, w, _, hfirst, hstage'⟩
      · rcases ih with ⟨hrest, hmore'⟩ |
          ⟨before, after, passed, w, created, hfirst, hcreated, hmore'⟩
        · refine .inl ⟨?_, Stages.passed hnext hstage' hmore'⟩
          rw [talks_append, watches_append hmore.questionsAhead_eq]
          exact fun w hw => (List.mem_append.mp hw).elim (hran w) (hrest w)
        · -- The first wait in vain is further on, and this stage comes in front.
          have hahead : questionsAhead (talks before) = [] := by
            have hall := hmore'.questionsAhead_eq
            rwa [talks_append, questionsAhead_append rfl] at hall
          refine .inr ⟨acts ++ before, after, _, w, created, hfirst.behind hran hahead, ?_, ?_⟩
          · rw [hcreated, talks_append, createdAmong_append, hstage.createdAmong_eq,
              clusters_concat, List.append_assoc]
          · rw [List.append_assoc]
            exact Stages.passed hnext hstage' hmore'
      · refine .inr ⟨acts, more, [], w, _, hfirst.append hmore.questionsAhead_eq, ?_,
          Stages.failed hnext hstage'⟩
        rw [hfirst.createdAmong_eq]
        rfl

/-- **A run that fails where another one goes on**: it does the same up to the last question about
the cluster of `w`, everything that was seen before being a running cluster.  Then it publishes its
failure, hands over all clusters that were created, and answers with the timeout of this wait. -/
def FailsAt (w : Watch) (going failing : List Act) (answer : Answer) : Prop :=
  ∃ before after passed, FirstTimeout going before after passed w ∧
    let created := createdAmong (talks before)
    created = passed.map (·.cluster) ++ [w.cluster] ∧
      failing = before ++ [.published (.failed w.cluster.kind),
        .answered (.compensate w.cluster.kind created) ()] ∧
      answer = .error (.stage ⟨w.cluster.kind, .readiness w.timeout, created⟩)

namespace FailsAt

variable {w : Watch} {going failing : List Act} {answer : Answer}

/-- It fails at the first cluster that was not seen running. -/
theorem find?_eq (h : FailsAt w going failing answer) :
    (watches (talks going)).find? (fun p => !p.Ran) = some w := by
  obtain ⟨before, after, passed, hfirst, _⟩ := h
  exact hfirst.find?_eq

theorem not_ran (h : FailsAt w going failing answer) : ¬ w.Ran := by
  obtain ⟨before, after, passed, hfirst, _⟩ := h
  exact hfirst.not_ran

/-- It meets the same calls up to there, and a compensation has only one answer. -/
theorem answeredBy (h : FailsAt w going failing answer) {client : Answerer}
    (hgoing : AnsweredBy client [] (talks going)) : AnsweredBy client [] (talks failing) := by
  obtain ⟨before, after, passed, hfirst, _, rfl, _⟩ := h
  rw [hfirst.acts_eq, talks_append, answeredBy_append_iff] at hgoing
  rw [talks_append, answeredBy_append_iff]
  exact ⟨hgoing.1, answeredBy_cons_iff.mpr ⟨rfl, answeredBy_nil⟩⟩

end FailsAt

variable {r : Request} {port : UInt16} {a : Allotment}

/-- **The courses of both runs.** -/
theorem Course.parted {acts : List Act} {result : Except Failure Workspace}
    (h : Course ⟨.proceed, polling⟩ r port a acts result) :
    ((∀ w ∈ watches (talks acts), w.Ran) ∧ Course ⟨.fail, polling⟩ r port a acts result) ∨
      ∃ w failing f, FailsAt w acts failing (.error (.stage f)) ∧
        Course ⟨.fail, polling⟩ r port a failing (.error f) := by
  cases h with
  | failed h =>
      rcases h.parted with ⟨hran, h'⟩ | ⟨before, after, passed, w, _, hfirst, rfl, h'⟩
      · exact .inl ⟨hran, Course.failed h'⟩
      · exact .inr ⟨w, _, _, ⟨before, after, passed, hfirst, hfirst.createdAmong_eq, rfl, rfl⟩,
          Course.failed h'⟩
  | complete h =>
      rcases h.parted with ⟨hran, h'⟩ | ⟨before, after, passed, w, _, hfirst, rfl, h'⟩
      · refine .inl ⟨?_, Course.complete h'⟩
        rwa [talks_append, talks_published, talks_nil, List.append_nil]
      · have hcomplete : questionsAhead (talks [.published .complete]) = [] := rfl
        exact .inr ⟨w, _, _, ⟨before, _, passed, hfirst.append hcomplete, hfirst.createdAmong_eq,
          rfl, rfl⟩, Course.failed h'⟩

/-- A run that goes on fails at a create call only. -/
theorem Course.create_of_failed {acts : List Act} {f : Failure}
    (h : Course ⟨.proceed, polling⟩ r port a acts (.error f)) : ∃ e, f.cause = .create e := by
  have hexplained := h.exact.explained
  rw [Failure.Explained] at hexplained
  cases hcause : f.cause with
  | create e => exact ⟨e, rfl⟩
  | readiness t =>
      rw [hcause] at hexplained
      cases hexplained.1

/-- A workspace has stages. -/
theorem Course.stages_ne_nil {settings : Settings} {acts : List Act} {workspace : Workspace}
    (h : Course settings r port a acts (.ok workspace)) : workspace.stages ≠ [] := by
  cases h with
  | complete _ => exact List.cons_ne_nil _ _

/-- The stages of a workspace report their watches. -/
theorem Course.stages_eq {settings : Settings} {acts : List Act} {workspace : Workspace}
    (h : Course settings r port a acts (.ok workspace)) :
    workspace.stages = (watches (talks acts)).map Watch.report ∧
      ∀ w ∈ watches (talks acts), w.Ran ∨ settings.policy = .proceed := by
  cases h with
  | complete h =>
      rw [talks_append, talks_published, talks_nil, List.append_nil]
      exact h.reports_eq

/-- A watch is reported as a timeout just if its cluster was not seen running. -/
theorem Watch.isTimedOut_report (w : Watch) : w.report.readiness.isTimedOut = !w.Ran := by
  by_cases hran : w.Ran
  · simp [report, hran, Readiness.isTimedOut]
  · simp [report, hran, Readiness.isTimedOut]

/-- The clusters that a workspace reports as timed out are those that were not seen running. -/
theorem Workspace.timedOut_eq {workspace : Workspace} {seen : List Watch}
    (hstages : workspace.stages = seen.map Watch.report) :
    workspace.timedOut = (seen.filter fun w => !w.Ran).map (·.cluster.kind) := by
  rw [timedOut, hstages, List.filter_map, List.map_map]
  have hfilter : (fun s : StageReport => s.readiness.isTimedOut) ∘ Watch.report =
      fun w => !w.Ran := funext Watch.isTimedOut_report
  rw [hfilter]
  rfl

end Run

/-! ### The theorem -/

open Workflow (Answerer AnsweredBy answeredBy_acts eq_acts_of_ends talks)

/-- **Two policies, one client.**  Whoever answers from the calls before: if every cluster is seen
running, then both runs do the same and give the same answer; otherwise the run that is to fail does
so at the first one that is not.  The run that goes on fails for a refused cluster only, and if it
succeeds, it reports all that was seen, and as timed out the clusters that were not seen running. -/
theorem policies_part_at_first_timeout (polling : Readiness.Polling) (r : Request) (port : UInt16)
    (a : Allotment) (client : Answerer) :
    let env := client.environment
    let going := provisioning ⟨.proceed, polling⟩ r port a
    let failing := provisioning ⟨.fail, polling⟩ r port a
    let seen := Run.watches (talks (going.acts env []))
    ((∀ w ∈ seen, w.Ran) → failing.acts env [] = going.acts env [] ∧
      (failing.run env []).2 = (going.run env []).2) ∧
    (∀ w, seen.find? (fun w => !w.Ran) = some w →
      Run.FailsAt w (going.acts env []) (failing.acts env []) (failing.run env []).2) ∧
    (∀ failure, (going.run env []).2 = .error failure →
      ∃ stage e created, failure = .stage ⟨stage, .create e, created⟩) ∧
    ∀ workspace, (going.run env []).2 = .ok workspace →
      workspace.stages = seen.map Run.Watch.report ∧
        workspace.timedOut = (seen.filter fun w => !w.Ran).map (·.cluster.kind) := by
  intro env going failing seen
  have hanswered : AnsweredBy client [] (talks (going.acts env [])) :=
    answeredBy_acts client going []
  obtain ⟨result, hcourse, hresult⟩ := exists_course env ⟨.proceed, polling⟩ r port a []
  have hparted := hcourse.parted
  refine ⟨?_, ?_, ?_, ?_⟩
  · intro hran
    rcases hparted with ⟨_, hcourse⟩ | ⟨w, acts, f, hfails, _⟩
    · obtain ⟨hacts, hanswer⟩ :=
        eq_acts_of_ends (ends_provisioning_iff.mpr ⟨result, hcourse, rfl⟩) [] hanswered
      exact ⟨hacts.symm, hanswer.symm.trans hresult.symm⟩
    · exact absurd (hran w (List.mem_of_find?_eq_some hfails.find?_eq)) hfails.not_ran
  · intro w hfind
    rcases hparted with ⟨hran, _⟩ | ⟨p, acts, f, hfails, hcourse⟩
    · exact absurd (hran w (List.mem_of_find?_eq_some hfind)) (by simpa using List.find?_some hfind)
    · obtain ⟨hacts, hanswer⟩ :=
        eq_acts_of_ends (ends_provisioning_iff.mpr ⟨.error f, hcourse, rfl⟩) []
          (hfails.answeredBy hanswered)
      obtain rfl : p = w := Option.some.inj (hfails.find?_eq.symm.trans hfind)
      rw [← hacts, ← hanswer]
      exact hfails
  · intro failure hfailure
    rw [hresult] at hfailure
    cases result with
    | ok workspace => cases hfailure
    | error f =>
        obtain ⟨e, he⟩ := hcourse.create_of_failed
        obtain ⟨stage, cause, created⟩ := f
        obtain rfl : cause = .create e := he
        exact ⟨stage, e, created, (Except.error.inj hfailure).symm⟩
  · intro workspace hworkspace
    rw [hresult] at hworkspace
    obtain rfl := answerOf_eq_ok_iff.mp hworkspace
    have hstages := hcourse.stages_eq.1
    exact ⟨hstages, Run.Workspace.timedOut_eq hstages⟩

/-- A client whose broker never gets ready: the two runs part there, and the one that goes on
reports it as timed out. -/
theorem policies_part_at_unready_broker :
    let r : Request := { clientPort := some 9092, nodes := ["node"] }
    let a : Allotment := { (default : Allotment) with
      coordinationServiceName := "zk", brokerName := "broker", workerName := "worker" }
    let client : Answerer := fun _ call => match call with
      | .create order => .ok order.name
      | .status cluster => .ok (if cluster = "broker" then .pending else .running)
      | .sleep _ => ()
      | .compensate _ _ => ()
    let env := client.environment
    let going := provisioning ⟨.proceed, { maxRetries := 0 }⟩ r 9092 a
    let failing := provisioning ⟨.fail, { maxRetries := 0 }⟩ r 9092 a
    let broker := (Run.brokerOrder r 9092 a "zk").descriptor "broker"
    ∃ w workspace, w.cluster = broker ∧ w.timeout = ⟨"broker", 1, .pending⟩ ∧
      Run.FailsAt w (going.acts env []) (failing.acts env []) (failing.run env []).2 ∧
      (going.run env []).2 = .ok workspace ∧ workspace.timedOut = [.broker] := by
  intro r a client env going failing broker
  obtain ⟨-, hparts, -, hsucceeds⟩ :=
    policies_part_at_first_timeout { maxRetries := 0 } r 9092 a client
  let seen := Run.watches (talks (going.acts env []))
  have hseen : (seen.find? fun w => !w.Ran).map (fun w => (w.cluster, w.timeout)) =
      some (broker, ⟨"broker", 1, .pending⟩) := by
    decide +kernel
  have htimedOut : (seen.filter fun w => !w.Ran).map (·.cluster.kind) = [.broker] := by
    decide +kernel
  have hok : (going.run env []).2.isOk = true := by decide +kernel
  obtain ⟨w, hfind, hw⟩ := Option.map_eq_some_iff.mp hseen
  obtain ⟨hcluster, htimeout⟩ := Prod.mk.inj hw
  cases hresult : (going.run env []).2 with
  | error failure =>
      rw [hresult] at hok
      cases hok
  | ok workspace =>
      exact ⟨w, workspace, hcluster, htimeout, hparts w hfind, rfl,
        (hsucceeds workspace hresult).2.trans htimedOut⟩

end Provisioning
