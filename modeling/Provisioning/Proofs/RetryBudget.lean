/-
**More retries change nothing that went well.**

The number of retries is a setting, and whoever raises it wants slow clusters to be waited for, and
nothing else.  For this a wait must not plan ahead: what it does next may depend on the replies so
far, but on what is left of its retries only where they are used up.  So two waits that meet the
same client and differ in their retries are compared reply by reply.  The one with fewer retries is
a beginning of the other, and where it saw its cluster running it is all of it.

For whole runs this is said of the watches.  A stage whose cluster was seen running, or was not
created at all, does not know how many retries were left, nor what the policy would have been; and
that the stages behind it meet the same client follows from the acts in front of them being the
same.  As in `Provisioning/Proofs/Policies.lean` the acts of one run are shown to be a conversation
of the other one, and the answers of the client decide that it is the one that takes place.

Main definitions:

* `Poll.Answers.widened` — the replies of a wait that was not in vain, with more retries.

Main results:

* `Poll.Answers.exists_beginning` — **a wait with fewer retries is a beginning** of one with more;
* `Poll.acts_wait_prefix`, `Poll.wait_of_running` — the waits of one client;
* `Run.Course.more_retries` — a run that saw its clusters running, with more retries;
* `more_retries_same_success` — **waits and runs** with fewer and with more retries.
-/

import Provisioning.Proofs.Policies

set_option relaxedAutoImplicit false
set_option autoImplicit false

namespace Provisioning

namespace Poll

open Workflow (Event Act Answerer AnsweredBy answeredBy_acts answeredBy_append_iff callsAmong
  eq_acts_of_ends ends_acts talks talks_append)

namespace Answers

variable {retries more : Nat}

/-! ### Replies -/

/-- The replies of a wait that saw its cluster running are those of a wait with more retries. -/
def widened (answers : Answers retries) (hran : answers.running) (hle : retries ≤ more) :
    Answers more where
  early := answers.early
  last := answers.last
  early_not_running := answers.early_not_running
  length_le := Nat.le_trans answers.length_le hle
  ended := .inl hran

/-- **A wait with fewer retries is a beginning** of one with more: it hears the same replies, for as
long as it goes on.  The induction takes one retry from both. -/
theorem exists_beginning (hle : retries ≤ more) (answers : Answers more) :
    ∃ fewer : Answers retries, ∀ interval cluster,
      fewer.acts interval cluster <+: answers.acts interval cluster := by
  induction retries generalizing more with
  | zero =>
      -- There is one question only, and its reply is the first one in any case.
      cases more with
      | zero => exact ⟨answers, fun interval cluster => List.prefix_rfl⟩
      | succ more =>
          rcases answers.eq_once_or_after with ⟨last, ended, _, rfl⟩ | ⟨first, h, rest, rfl⟩
          · exact ⟨once last (.inr rfl), fun interval cluster => List.prefix_rfl⟩
          · refine ⟨once first (.inr rfl), fun interval cluster => ?_⟩
            rw [acts_once, acts_after, List.cons_prefix_cons]
            exact ⟨rfl, List.nil_prefix⟩
  | succ retries ih =>
      obtain ⟨more, rfl⟩ := Nat.exists_eq_succ_of_ne_zero (show more ≠ 0 by omega)
      rcases answers.eq_once_or_after with ⟨last, ended, hrunning, rfl⟩ | ⟨first, h, rest, rfl⟩
      · exact ⟨once last (.inl hrunning), fun interval cluster => List.prefix_rfl⟩
      · obtain ⟨fewer, hfewer⟩ := ih (Nat.le_of_succ_le_succ hle) rest
        refine ⟨fewer.after first h, fun interval cluster => ?_⟩
        rw [acts_after, acts_after, List.cons_prefix_cons, List.cons_prefix_cons]
        exact ⟨rfl, rfl, hfewer interval cluster⟩

/-- A wait that succeeded has seen its cluster running. -/
theorem running_of_result {answers : Answers retries} {cluster : String} {attempts : UInt32}
    (h : answers.result cluster = .ok attempts) :
    answers.running ∧ attempts = answers.attempts := by
  rw [result] at h
  split at h
  · rename_i hrunning
    exact ⟨hrunning, (Except.ok.inj h).symm⟩
  · cases h

end Answers

/-! ### Waits -/

section Waits

variable {interval : UInt64} {fewer more : UInt32} {cluster : String}

/-- **The wait with fewer retries is a beginning** of the one with more, for one client. -/
theorem acts_wait_prefix (hle : fewer ≤ more) (client : Answerer) (before : List Event) :
    (wait ⟨interval, fewer⟩ cluster).acts client.environment before <+:
      (wait ⟨interval, more⟩ cluster).acts client.environment before := by
  obtain ⟨answers, hacts, -⟩ :=
    ends_wait_iff.mp (ends_acts client.environment (wait ⟨interval, more⟩ cluster) before)
  obtain ⟨shorter, hshorter⟩ := answers.exists_beginning (UInt32.le_iff_toNat_le.mp hle)
  obtain ⟨rest, hrest⟩ := hshorter interval cluster
  have hanswered : AnsweredBy client (callsAmong before) (talks (answers.acts interval cluster)) :=
    hacts ▸ answeredBy_acts client (wait ⟨interval, more⟩ cluster) before
  rw [← hrest, talks_append, answeredBy_append_iff] at hanswered
  have hsame := eq_acts_of_ends
    (ends_wait_iff.mpr ⟨shorter, rfl, rfl⟩ : Workflow.Ends (wait ⟨interval, fewer⟩ cluster) _ _)
    before hanswered.1
  rw [hacts, ← hsame.1]
  exact ⟨rest, hrest⟩

/-- **A wait that succeeds does so with more retries**, in the same way. -/
theorem wait_of_running (hle : fewer ≤ more) (client : Answerer) (before : List Event)
    {attempts : UInt32}
    (h : ((wait ⟨interval, fewer⟩ cluster).run client.environment before).2 = .ok attempts) :
    ((wait ⟨interval, more⟩ cluster).run client.environment before).2 = .ok attempts ∧
      (wait ⟨interval, more⟩ cluster).acts client.environment before =
        (wait ⟨interval, fewer⟩ cluster).acts client.environment before := by
  have hanswered := answeredBy_acts client (wait ⟨interval, fewer⟩ cluster) before
  obtain ⟨answers, hacts, hresult⟩ :=
    ends_wait_iff.mp (ends_acts client.environment (wait ⟨interval, fewer⟩ cluster) before)
  rw [h] at hresult
  obtain ⟨hrunning, -⟩ := Answers.running_of_result hresult.symm
  let wider : Answers more.toNat := answers.widened hrunning (UInt32.le_iff_toNat_le.mp hle)
  have hends : Workflow.Ends (wait ⟨interval, more⟩ cluster)
      ((wait ⟨interval, fewer⟩ cluster).acts client.environment before) (.ok attempts) := by
    rw [hacts, hresult]
    exact ends_wait_iff.mpr ⟨wider, rfl, rfl⟩
  obtain ⟨hsame, hattempts⟩ := eq_acts_of_ends hends before hanswered
  exact ⟨hattempts.symm, hsame.symm⟩

/-- The attempts of a wait that succeeds are its questions, where these fit into 32 bits. -/
theorem toNat_attempts_of_wait (hbudget : fewer.toNat < UInt32.size - 1)
    (env : Workflow.Environment) (before : List Event) {attempts : UInt32}
    (h : ((wait ⟨interval, fewer⟩ cluster).run env before).2 = .ok attempts) :
    attempts.toNat = (talks ((wait ⟨interval, fewer⟩ cluster).acts env before)).countP
      fun talk => isQuestion talk.1 := by
  obtain ⟨answers, hacts, hresult⟩ :=
    ends_wait_iff.mp (ends_acts env (wait ⟨interval, fewer⟩ cluster) before)
  rw [h] at hresult
  obtain ⟨-, rfl⟩ := Answers.running_of_result hresult.symm
  have hle : answers.questions ≤ fewer.toNat + 1 := answers.questions_le
  rw [hacts, Answers.talks_acts, Answers.countP_isQuestion_talks, Answers.attempts]
  exact UInt32.toNat_ofNat_of_lt' (by omega)

end Waits

end Poll

/-! ### Runs -/

namespace Run

open Cluster (Order)
open Poll (Answers)
open Workflow (Act talks talks_append talks_published talks_nil)

variable {interval : UInt64} {fewer more : UInt32} {policy : Readiness.Policy}
  {next : List StageReport → Option Order}

/-- **A stage that saw its cluster running** is one with more retries, under either policy. -/
theorem Stage.more_retries (hle : fewer ≤ more) (other : Readiness.Policy)
    {earlier : List StageReport} {order : Order} {acts : List Act}
    {result : Except Failure StageReport}
    (h : Stage ⟨policy, ⟨interval, fewer⟩⟩ earlier order acts result)
    (hran : ∀ w ∈ watches (talks acts), w.Ran) :
    Stage ⟨other, ⟨interval, more⟩⟩ earlier order acts result := by
  have hle : fewer.toNat ≤ more.toNat := UInt32.le_iff_toNat_le.mp hle
  cases h with
  | refused e => exact Stage.refused e
  | unready name answers hnot _ =>
      have hahead : questionsAhead
          (talks (aborting order.kind (clusters earlier ++ [order.descriptor name]))) = [] := rfl
      rw [talks_append, watches_creation _ order name answers hahead] at hran
      have hrunning := (Watch.ran_ofAnswers _ answers).mp (hran _ List.mem_cons_self)
      exact absurd hrunning hnot
  | passed name answers _ =>
      rw [← List.append_nil (talks _), watches_creation _ order name answers rfl] at hran
      have hrunning := (Watch.ran_ofAnswers _ answers).mp (hran _ List.mem_cons_self)
      exact @Stage.passed ⟨other, ⟨interval, more⟩⟩ earlier order name
        (answers.widened hrunning hle) (.inl hrunning)

/-- **The stages that saw their clusters running.** -/
theorem Stages.more_retries (hle : fewer ≤ more) (other : Readiness.Policy)
    {earlier : List StageReport} {acts : List Act} {result : Except Failure (List StageReport)}
    (h : Stages ⟨policy, ⟨interval, fewer⟩⟩ next earlier acts result)
    (hran : ∀ w ∈ watches (talks acts), w.Ran) :
    Stages ⟨other, ⟨interval, more⟩⟩ next earlier acts result := by
  induction h with
  | complete hnext => exact Stages.complete hnext
  | failed hnext hstage => exact Stages.failed hnext (hstage.more_retries hle other hran)
  | passed hnext hstage hmore ih =>
      rw [talks_append, watches_append hmore.questionsAhead_eq, List.forall_mem_append] at hran
      exact Stages.passed hnext (hstage.more_retries hle other hran.1) (ih hran.2)

/-- **A run that saw its clusters running** goes the same way with more retries, under either
policy, whether it succeeds or a create call fails. -/
theorem Course.more_retries (hle : fewer ≤ more) (other : Readiness.Policy) {r : Request}
    {port : UInt16} {a : Allotment} {acts : List Act} {result : Except Failure Workspace}
    (h : Course ⟨policy, ⟨interval, fewer⟩⟩ r port a acts result)
    (hran : ∀ w ∈ watches (talks acts), w.Ran) :
    Course ⟨other, ⟨interval, more⟩⟩ r port a acts result := by
  cases h with
  | failed h => exact Course.failed (h.more_retries hle other hran)
  | complete h =>
      rw [talks_append, talks_published, talks_nil, List.append_nil] at hran
      exact Course.complete (h.more_retries hle other hran)

/-- Where nothing is reported as timed out, every cluster was seen running. -/
theorem Course.ran_of_timedOut {settings : Settings} {r : Request} {port : UInt16}
    {a : Allotment} {acts : List Act} {workspace : Workspace}
    (h : Course settings r port a acts (.ok workspace)) (hnone : workspace.timedOut = []) :
    ∀ w ∈ watches (talks acts), w.Ran := by
  intro w hw
  rw [Workspace.timedOut_eq h.stages_eq.1, List.map_eq_nil_iff, List.filter_eq_nil_iff] at hnone
  simpa using hnone w hw

end Run

/-! ### The theorem -/

open Readiness (Policy Timeout)
open Workflow (Event Answerer answeredBy_acts eq_acts_of_ends talks)

/-- **Waits and runs with fewer and with more retries**, for one client, whatever has happened
before.  A wait that succeeds does so with more retries, after the same questions and pauses, which
its attempts count; one that times out has begun as the one with more retries.  A run with no
cluster that timed out does the same, publishes the same and has the same result with more retries
and under either policy. -/
theorem more_retries_same_success (interval : UInt64) {fewer more : UInt32} (hle : fewer ≤ more)
    (hbudget : more.toNat < UInt32.size - 1) (client : Answerer) (before : List Event) :
    let env := client.environment
    (∀ cluster : String,
      let short := Poll.wait ⟨interval, fewer⟩ cluster
      let long := Poll.wait ⟨interval, more⟩ cluster
      (∀ attempts : UInt32, (short.run env before).2 = .ok attempts →
        (long.run env before).2 = .ok attempts ∧ long.acts env before = short.acts env before ∧
          attempts.toNat =
            (talks (short.acts env before)).countP fun talk => Poll.isQuestion talk.1) ∧
      (∀ timeout : Timeout, (short.run env before).2 = .error timeout →
        short.acts env before <+: long.acts env before)) ∧
    ∀ (policy other : Policy) (r : Request) (port : UInt16) (a : Allotment)
      (workspace : Run.Workspace),
      let short := provisioning ⟨policy, ⟨interval, fewer⟩⟩ r port a
      let long := provisioning ⟨other, ⟨interval, more⟩⟩ r port a
      (short.run env before).2 = .ok workspace → workspace.timedOut = [] →
        (long.run env before).2 = .ok workspace ∧
          long.acts env before = short.acts env before := by
  intro env
  have hfewer : fewer.toNat < UInt32.size - 1 :=
    Nat.lt_of_le_of_lt (UInt32.le_iff_toNat_le.mp hle) hbudget
  constructor
  · intro cluster short long
    constructor
    · intro attempts hok
      obtain ⟨hresult, hacts⟩ := Poll.wait_of_running hle client before hok
      exact ⟨hresult, hacts, Poll.toNat_attempts_of_wait hfewer env before hok⟩
    · intro timeout _
      exact Poll.acts_wait_prefix hle client before
  · intro policy other r port a workspace short long hok hnone
    obtain ⟨result, hcourse, hanswer⟩ :=
      exists_course env ⟨policy, ⟨interval, fewer⟩⟩ r port a before
    rw [hok] at hanswer
    obtain rfl := answerOf_eq_ok_iff.mp hanswer.symm
    have hsame := hcourse.more_retries hle other (hcourse.ran_of_timedOut hnone)
    obtain ⟨hacts, hresult⟩ := eq_acts_of_ends
      (ends_provisioning_iff.mpr ⟨_, hsame, rfl⟩ : Workflow.Ends long _ _) before
      (answeredBy_acts client short before)
    exact ⟨hresult.symm, hacts.symm⟩

/-- A client whose broker gets ready at the third question that is asked at all: a run with one
retry succeeds, and does the same with five; the wait for the broker alone needs more than one. -/
theorem more_retries_same_success_of_slow_broker :
    let r : Request := { clientPort := some 9092, nodes := ["node"] }
    let a : Allotment := { (default : Allotment) with
      coordinationServiceName := "zk", brokerName := "broker", workerName := "worker" }
    let client : Answerer := fun calls call => match call with
      | .create order => .ok order.name
      | .status cluster =>
          .ok (if cluster = "broker" ∧ calls.countP Poll.isQuestion < 2 then .pending else .running)
      | .sleep _ => ()
      | .compensate _ _ => ()
    let env := client.environment
    let short := provisioning ⟨.fail, ⟨2000, 1⟩⟩ r 9092 a
    let long := provisioning ⟨.proceed, ⟨2000, 5⟩⟩ r 9092 a
    (∃ workspace, (short.run env []).2 = .ok workspace ∧ workspace.timedOut = [] ∧
      (long.run env []).2 = .ok workspace ∧ long.acts env [] = short.acts env []) ∧
    ((Poll.wait ⟨2000, 1⟩ "zk").run env []).2 = .ok 1 ∧
    ((Poll.wait ⟨2000, 5⟩ "zk").run env []).2 = .ok 1 ∧
    ((Poll.wait ⟨2000, 1⟩ "broker").run env []).2 = .error ⟨"broker", 2, .pending⟩ ∧
    (Poll.wait ⟨2000, 1⟩ "broker").acts env [] <+: (Poll.wait ⟨2000, 5⟩ "broker").acts env [] := by
  intro r a client env short long
  obtain ⟨hwaits, hruns⟩ :=
    @more_retries_same_success 2000 1 5 (by decide) (by decide) client []
  have hzk : ((Poll.wait ⟨2000, 1⟩ "zk").run env []).2 = .ok 1 := by rfl
  have hbroker : ((Poll.wait ⟨2000, 1⟩ "broker").run env []).2 =
      .error ⟨"broker", 2, .pending⟩ := by rfl
  have htimedOut : (short.run env []).2.toOption.map (·.timedOut) = some [] := by decide +kernel
  refine ⟨?_, hzk, ((hwaits "zk").1 1 hzk).1, hbroker, (hwaits "broker").2 _ hbroker⟩
  cases hresult : (short.run env []).2 with
  | error failure =>
      rw [hresult] at htimedOut
      cases htimedOut
  | ok workspace =>
      rw [hresult] at htimedOut
      have hnone : workspace.timedOut = [] := Option.some.inj htimedOut
      obtain ⟨hlong, hacts⟩ := hruns .fail .proceed r 9092 a workspace hresult hnone
      exact ⟨workspace, rfl, hnone, hlong, hacts⟩

end Provisioning
