/-
**How a wait can go.**

`Provisioning/Poll.lean` says how a cluster is waited for by recursion on the retries that are left,
and every theorem about runs would have to go through that recursion again.  Here it is gone through
once.  A wait is determined by the replies to its questions: none of the **early** replies says that
the cluster runs, a pause follows each of them, and the **last** one either says so or answers the
last question there was.  Every such list of replies is the story of a wait, and every wait has one.

Main definitions:

* `Poll.stateOf` — the state that a reply stands for;
* `Poll.Answers` — **the replies of a wait** with a given number of retries;
* `Poll.Answers.acts`, `Poll.Answers.talks` — what happens in it;
* `Poll.Answers.result`, `Poll.Answers.readiness` — how it ends.

Main results:

* `Poll.ends_wait_iff` — **the waits are the lists of replies**;
* `Poll.Answers.countP_isQuestion_talks` — how many questions a wait asks.
-/

import Provisioning.Poll
import Provisioning.Proofs.Conversation

set_option relaxedAutoImplicit false
set_option autoImplicit false

namespace Provisioning.Poll

open Readiness (Polling Timeout)
open Cluster (ContainerState)
open Workflow (Act Talk Ends noting calling ends_bind_iff ends_done_iff ends_note_iff
  ends_await_iff ends_sleep_iff)

/-! ### Questions -/

/-- Whether a call asks for the state of a cluster. -/
def isQuestion : Call → Bool
  | .status _ => true
  | _ => false

/-- What a question is answered with. -/
abbrev Reply := Except Backend.CallError ContainerState

/-- The state that a reply stands for; it is unknown if the question failed. -/
def stateOf : Reply → ContainerState
  | .ok state => state
  | .error _ => .unknown

/-- Only a reply that says so stands for a running cluster. -/
theorem stateOf_eq_running_iff (reply : Reply) :
    stateOf reply = .running ↔ reply = .ok .running := by
  cases reply with
  | ok state => simp [stateOf]
  | error e => simp [stateOf]

theorem ends_ask_iff {cluster : String} {acts : List Act} {state : ContainerState} :
    Ends (ask cluster) acts state ↔
      ∃ reply, acts = [.answered (.status cluster) reply] ∧ state = stateOf reply := by
  simp only [ask, Workflow.calling, Workflow.bind_await, Workflow.bind_done, ends_await_iff]
  constructor
  · rintro ⟨reply, rest, rfl, h⟩
    cases reply with
    | ok state =>
        obtain ⟨rfl, rfl⟩ := ends_done_iff.mp h
        exact ⟨.ok state, rfl, rfl⟩
    | error e =>
        obtain ⟨rfl, rfl⟩ := ends_done_iff.mp (ends_note_iff.mp h)
        exact ⟨.error e, rfl, rfl⟩
  · rintro ⟨reply, rfl, rfl⟩
    refine ⟨reply, [], rfl, ?_⟩
    cases reply with
    | ok state => exact ends_done_iff.mpr ⟨rfl, rfl⟩
    | error e => exact ends_note_iff.mpr (ends_done_iff.mpr ⟨rfl, rfl⟩)

/-- One question, and what comes behind it. -/
theorem ends_ask_bind_iff {α : Type} {cluster : String} {f : ContainerState → Workflow α}
    {acts : List Act} {result : α} : Ends (ask cluster >>= f) acts result ↔
      ∃ reply rest, acts = .answered (.status cluster) reply :: rest ∧
        Ends (f (stateOf reply)) rest result := by
  rw [ends_bind_iff]
  constructor
  · rintro ⟨_, _, rest, rfl, hask, h⟩
    obtain ⟨reply, rfl, rfl⟩ := ends_ask_iff.mp hask
    exact ⟨reply, rest, rfl, h⟩
  · rintro ⟨reply, rest, rfl, h⟩
    exact ⟨_, _, rest, rfl, ends_ask_iff.mpr ⟨reply, rfl, rfl⟩, h⟩

/-! ### The replies of a wait -/

/-- **The replies of a wait** with the given number of retries: the early ones, none of which says
that the cluster runs, and the last one, which says so or leaves no retry. -/
structure Answers (retries : Nat) where
  early : List Reply
  last : Reply
  early_not_running : ∀ reply ∈ early, stateOf reply ≠ .running
  length_le : early.length ≤ retries
  ended : stateOf last = .running ∨ early.length = retries

namespace Answers

variable {retries : Nat}

/-- Whether the cluster reported running. -/
def running (answers : Answers retries) : Prop := stateOf answers.last = .running

instance (answers : Answers retries) : Decidable answers.running :=
  inferInstanceAs (Decidable (stateOf answers.last = .running))

/-- A wait that is over at its first question. -/
def once (last : Reply) (hended : stateOf last = .running ∨ 0 = retries) : Answers retries where
  early := []
  last
  early_not_running := by simp
  length_le := Nat.zero_le retries
  ended := hended

/-- A wait that goes on after its first question. -/
def after (first : Reply) (h : stateOf first ≠ .running) (answers : Answers retries) :
    Answers (retries + 1) where
  early := first :: answers.early
  last := answers.last
  early_not_running := by simpa using ⟨h, answers.early_not_running⟩
  length_le := Nat.succ_le_succ answers.length_le
  ended := answers.ended.imp id (congrArg Nat.succ)

/-- The calls of a wait, with their answers: a question and a pause for each early reply, and one
question more. -/
def talks (interval : UInt64) (cluster : String) (answers : Answers retries) : List Talk :=
  answers.early.flatMap (fun reply => [⟨.status cluster, reply⟩, ⟨.sleep interval, ()⟩]) ++
    [⟨.status cluster, answers.last⟩]

/-- What happens in a wait: its calls, and nothing else. -/
def acts (interval : UInt64) (cluster : String) (answers : Answers retries) : List Act :=
  (answers.talks interval cluster).map fun talk => .answered talk.1 talk.2

/-- The number of questions. -/
def questions (answers : Answers retries) : Nat := answers.early.length + 1

/-- The number of questions as it is reported. -/
def attempts (answers : Answers retries) : UInt32 := .ofNat answers.questions

/-- How a wait that follows on `asked` questions ends. -/
def resultAfter (asked : UInt32) (cluster : String) (answers : Answers retries) :
    Except Timeout UInt32 :=
  if answers.running then .ok (asked + answers.attempts)
  else .error ⟨cluster, asked + answers.attempts, stateOf answers.last⟩

/-- That the cluster did not report running. -/
def timeout (cluster : String) (answers : Answers retries) : Timeout :=
  ⟨cluster, answers.attempts, stateOf answers.last⟩

/-- How a wait ends. -/
def result (cluster : String) (answers : Answers retries) : Except Timeout UInt32 :=
  if answers.running then .ok answers.attempts else .error (answers.timeout cluster)

/-- How a wait ended, as a stage reports it. -/
def readiness (cluster : String) (answers : Answers retries) : Readiness :=
  if answers.running then .running answers.attempts else .timedOut (answers.timeout cluster)

theorem questions_le (answers : Answers retries) : answers.questions ≤ retries + 1 :=
  Nat.succ_le_succ answers.length_le

/-- A cluster that did not report running was asked for as often as possible. -/
theorem questions_of_not_running {answers : Answers retries} (h : ¬ answers.running) :
    answers.questions = retries + 1 :=
  congrArg Nat.succ (answers.ended.resolve_left h)

@[simp] theorem talks_acts (interval : UInt64) (cluster : String) (answers : Answers retries) :
    Workflow.talks (answers.acts interval cluster) = answers.talks interval cluster := by
  rw [acts, Workflow.talks, List.filterMap_map]
  exact List.filterMap_some

/-- **A wait asks its questions**, and does nothing else but pause. -/
theorem countP_isQuestion_talks (interval : UInt64) (cluster : String)
    (answers : Answers retries) :
    (answers.talks interval cluster).countP (fun talk => isQuestion talk.1) =
      answers.questions := by
  have hearly (early : List Reply) :
      (early.flatMap fun reply =>
        ([⟨.status cluster, reply⟩, ⟨.sleep interval, ()⟩] : List Talk)).countP
          (fun talk => isQuestion talk.1) = early.length := by
    induction early with
    | nil => rfl
    | cons reply early ih =>
        rw [List.flatMap_cons, List.countP_append, ih, List.length_cons, Nat.add_comm]
        rfl
  rw [talks, List.countP_append, hearly, questions]
  rfl

/-- The calls of a wait are questions about its cluster, and pauses. -/
theorem eq_of_mem_talks {interval : UInt64} {cluster : String} {answers : Answers retries}
    {talk : Talk} (h : talk ∈ answers.talks interval cluster) :
    (∃ reply, talk = ⟨.status cluster, reply⟩) ∨ talk = ⟨.sleep interval, ()⟩ := by
  rcases List.mem_append.mp h with h | h
  · obtain ⟨reply, _, h⟩ := List.mem_flatMap.mp h
    rcases List.mem_cons.mp h with rfl | h
    · exact .inl ⟨reply, rfl⟩
    · exact .inr (List.mem_singleton.mp h)
  · exact .inl ⟨answers.last, List.mem_singleton.mp h⟩

theorem eq_of_mem_acts {interval : UInt64} {cluster : String} {answers : Answers retries}
    {act : Act} (h : act ∈ answers.acts interval cluster) :
    (∃ reply, act = .answered (.status cluster) reply) ∨ act = .answered (.sleep interval) () := by
  obtain ⟨talk, htalk, rfl⟩ := List.mem_map.mp h
  rcases eq_of_mem_talks htalk with ⟨reply, rfl⟩ | rfl
  · exact .inl ⟨reply, rfl⟩
  · exact .inr rfl

/-- What neither questions nor pauses tell is not told by a wait. -/
theorem filterMap_talks_eq_nil {β : Type} {f : Talk → Option β} {interval : UInt64}
    {cluster : String} (hstatus : ∀ reply, f ⟨.status cluster, reply⟩ = none)
    (hsleep : f ⟨.sleep interval, ()⟩ = none) (answers : Answers retries) :
    (answers.talks interval cluster).filterMap f = [] := by
  refine List.filterMap_eq_nil_iff.mpr fun talk htalk => ?_
  rcases eq_of_mem_talks htalk with ⟨reply, rfl⟩ | rfl
  · exact hstatus reply
  · exact hsleep

theorem filterMap_acts_eq_nil {β : Type} {f : Act → Option β} {interval : UInt64}
    {cluster : String} (hstatus : ∀ reply, f (.answered (.status cluster) reply) = none)
    (hsleep : f (.answered (.sleep interval) ()) = none) (answers : Answers retries) :
    (answers.acts interval cluster).filterMap f = [] := by
  refine List.filterMap_eq_nil_iff.mpr fun act hact => ?_
  rcases eq_of_mem_acts hact with ⟨reply, rfl⟩ | rfl
  · exact hstatus reply
  · exact hsleep

/-- A cluster that reported running was heard to say so. -/
theorem mem_talks_of_running (interval : UInt64) (cluster : String) {answers : Answers retries}
    (h : answers.running) :
    (⟨.status cluster, .ok .running⟩ : Talk) ∈ answers.talks interval cluster := by
  rw [talks, ← (stateOf_eq_running_iff answers.last).mp h]
  exact List.mem_append_right _ (List.mem_singleton.mpr rfl)

theorem acts_once (interval : UInt64) (cluster : String) {last : Reply}
    (hended : stateOf last = .running ∨ 0 = retries) :
    (once last hended).acts interval cluster = [.answered (.status cluster) last] := rfl

theorem acts_after (interval : UInt64) (cluster : String) {first : Reply}
    (h : stateOf first ≠ .running) (answers : Answers retries) :
    (answers.after first h).acts interval cluster =
      .answered (.status cluster) first :: .answered (.sleep interval) () ::
        answers.acts interval cluster := rfl

theorem resultAfter_once (asked : UInt32) (cluster : String) {last : Reply}
    (hended : stateOf last = .running ∨ 0 = retries) :
    (once last hended).resultAfter asked cluster =
      if stateOf last = .running then .ok (asked + 1)
      else .error ⟨cluster, asked + 1, stateOf last⟩ := rfl

theorem attempts_after {first : Reply} (h : stateOf first ≠ .running)
    (answers : Answers retries) : (answers.after first h).attempts = 1 + answers.attempts := by
  simp only [attempts, questions, after, List.length_cons, UInt32.ofNat_add]
  rw [UInt32.add_comm]
  rfl

theorem resultAfter_after (asked : UInt32) (cluster : String) {first : Reply}
    (h : stateOf first ≠ .running) (answers : Answers retries) :
    (answers.after first h).resultAfter asked cluster =
      answers.resultAfter (asked + 1) cluster := by
  simp only [resultAfter, attempts_after, UInt32.add_assoc]
  rfl

theorem resultAfter_zero (cluster : String) (answers : Answers retries) :
    answers.resultAfter 0 cluster = answers.result cluster := by
  simp only [resultAfter, result, timeout, UInt32.zero_add]

/-- Without retries there is one question. -/
theorem eq_once_of_zero (answers : Answers 0) :
    ∃ last hended, answers = once last hended := by
  obtain ⟨early, last, hearly, hlength, hended⟩ := answers
  obtain rfl := List.length_eq_zero_iff.mp (Nat.le_zero.mp hlength)
  exact ⟨last, hended, rfl⟩

/-- With retries, a wait is over at its first question or goes on after it. -/
theorem eq_once_or_after (answers : Answers (retries + 1)) :
    (∃ last hended, stateOf last = .running ∧ answers = once last hended) ∨
      ∃ first h, ∃ rest : Answers retries, answers = rest.after first h := by
  obtain ⟨early, last, hearly, hlength, hended⟩ := answers
  cases early with
  | nil =>
      have hrunning : stateOf last = .running :=
        hended.resolve_right (Nat.succ_ne_zero retries).symm
      exact .inl ⟨last, .inl hrunning, hrunning, rfl⟩
  | cons first early =>
      obtain ⟨hfirst, hearly⟩ := List.forall_mem_cons.mp hearly
      have hlength := Nat.le_of_succ_le_succ hlength
      exact .inr ⟨first, hfirst, ⟨early, last, hearly, hlength, hended.imp id Nat.succ.inj⟩, rfl⟩

end Answers

/-! ### The wait -/

/-- The wait goes one question at a time. -/
theorem ends_waitFrom_step {polling : Polling} {cluster : String} {asked : UInt32}
    {remaining : Nat} {acts : List Act} {result : Except Timeout UInt32} :
    Ends (waitFrom polling cluster asked remaining) acts result ↔
      ∃ reply rest, acts = .answered (.status cluster) reply :: rest ∧
        if stateOf reply = .running then rest = [] ∧ result = .ok (asked + 1)
        else match remaining with
          | 0 => rest = [] ∧ result = .error ⟨cluster, asked + 1, stateOf reply⟩
          | remaining + 1 => ∃ more, rest = .answered (.sleep polling.interval) () :: more ∧
              Ends (waitFrom polling cluster (asked + 1) remaining) more result := by
  rw [waitFrom.eq_def, ends_ask_bind_iff]
  refine exists_congr fun reply => exists_congr fun rest => and_congr_right fun _ => ?_
  by_cases hr : stateOf reply = .running
  · simp [hr, noting]
  · cases remaining with
    | zero => simp [hr]
    | succ remaining =>
        -- A pause has only one answer, so it is not left open which one it got.
        simp [hr, noting, calling, ends_sleep_iff, -ends_await_iff]

/-- The waits after some questions are the lists of replies.  The induction is on the retries that
are left; the questions that were asked only move the counter. -/
theorem ends_waitFrom_iff {polling : Polling} {cluster : String} {asked : UInt32}
    {remaining : Nat} {acts : List Act} {result : Except Timeout UInt32} :
    Ends (waitFrom polling cluster asked remaining) acts result ↔
      ∃ answers : Answers remaining, acts = answers.acts polling.interval cluster ∧
        result = answers.resultAfter asked cluster := by
  induction remaining generalizing asked acts result with
  | zero =>
      rw [ends_waitFrom_step]
      constructor
      · rintro ⟨reply, rest, rfl, h⟩
        refine ⟨Answers.once reply (.inr rfl), ?_⟩
        rw [Answers.acts_once, Answers.resultAfter_once]
        by_cases hr : stateOf reply = .running
        · simpa [hr] using h
        · simpa [hr] using h
      · rintro ⟨answers, rfl, rfl⟩
        obtain ⟨last, hended, rfl⟩ := answers.eq_once_of_zero
        refine ⟨last, [], rfl, ?_⟩
        rw [Answers.resultAfter_once]
        by_cases hr : stateOf last = .running
        · simp [hr]
        · simp [hr]
  | succ remaining ih =>
      rw [ends_waitFrom_step]
      constructor
      · rintro ⟨reply, rest, rfl, h⟩
        by_cases hr : stateOf reply = .running
        · refine ⟨Answers.once reply (.inl hr), ?_⟩
          rw [Answers.acts_once, Answers.resultAfter_once]
          simpa [hr] using h
        · rw [if_neg hr] at h
          obtain ⟨more, rfl, hmore⟩ := h
          obtain ⟨answers, rfl, rfl⟩ := ih.mp hmore
          exact ⟨answers.after reply hr, rfl, (Answers.resultAfter_after _ _ hr _).symm⟩
      · rintro ⟨answers, rfl, rfl⟩
        rcases answers.eq_once_or_after with ⟨last, hended, hr, rfl⟩ | ⟨first, hr, answers, rfl⟩
        · refine ⟨last, [], rfl, ?_⟩
          rw [Answers.resultAfter_once]
          simp [hr]
        · rw [Answers.acts_after, Answers.resultAfter_after]
          refine ⟨first, _, rfl, ?_⟩
          rw [if_neg hr]
          exact ⟨answers.acts polling.interval cluster, rfl, ih.mpr ⟨answers, rfl, rfl⟩⟩

/-- **The waits are the lists of replies**: a wait goes as some list of replies says, and as every
list of replies says some wait goes. -/
theorem ends_wait_iff {polling : Polling} {cluster : String} {acts : List Act}
    {result : Except Timeout UInt32} : Ends (wait polling cluster) acts result ↔
      ∃ answers : Answers polling.maxRetries.toNat,
        acts = answers.acts polling.interval cluster ∧ result = answers.result cluster := by
  simp only [wait, ends_waitFrom_iff, Answers.resultAfter_zero]

end Provisioning.Poll
