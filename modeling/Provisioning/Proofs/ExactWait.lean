/-
**A wait, question by question.**

`Provisioning/Proofs/Waiting.lean` says of which form a wait is, but leaves open where it stops: the
replies that a wait got are part of what the theorem there gives.  Here the replies come first.  Let
a stream of them be given, one for each question that might ever be asked, and let the questions of
a wait be answered from it in turn.  Then nothing is left open: the wait stops at the first reply
that says running, or at the last question there is, and it has asked and paused in alternation up
to there.  Two streams that stand for the same states are therefore the same to a wait, and so it
does not matter whether a question failed or was answered with an unknown state.

Main definitions:

* `Poll.inTurn` — an environment that answers questions from a stream;
* `Poll.hearing` — the calls of a wait that hears a stream, and how it ends;
* `Poll.asking` — some questions about a cluster, with a pause between each two of them;
* `Poll.StopsAt` — where a stream stops a wait.

Main results:

* `Poll.replies_inTurn` — whatever a workflow asks is answered in turn;
* `Poll.hearing_of_stopsAt` — **the calls of a wait and its end** from where it is stopped;
* `Poll.hearing_congr` — only the states matter that the replies stand for;
* `Poll.wait_exact` — **a wait, question by question**.
-/

import Provisioning.Proofs.Watches

set_option relaxedAutoImplicit false
set_option autoImplicit false

namespace Provisioning.Poll

open Readiness (Polling Timeout)
open Run (questionsAmong questionsAmong_wait)
open Workflow (Event Talk talks talks_answered talks_published run_calls ends_acts
  answering)

/-! ### Answers in turn -/

/-- The number of questions among events. -/
def asked (events : List Event) : Nat := (events.filterMap Event.call?).countP isQuestion

theorem asked_append (events : List Event) (event : Event) :
    asked (events ++ [event]) = asked events + asked [event] := by
  rw [asked, List.filterMap_append, List.countP_append]
  rfl

/-- **Answers in turn**: the question behind `n` others is answered with the reply `n`. -/
def inTurn (replies : Nat → Reply) : Workflow.Environment where
  answer before := answering (.ok "") (replies (asked before))

/-- **Whatever a workflow asks is answered in turn.**  The induction moves the place in the stream
along with the events that came before. -/
theorem replies_inTurn {α : Type} (replies : Nat → Reply) (w : Workflow α)
    (before : List Event) :
    let questions := questionsAmong (talks (w.acts (inTurn replies) before))
    questions.map (·.2) = (List.range' (asked before) questions.length).map replies := by
  induction w generalizing before with
  | done a => rfl
  | publish state next ih =>
      have hnext := ih (before ++ [.published state])
      rwa [asked_append] at hnext
  | note notice next ih =>
      have hnext := ih (before ++ [.noted notice])
      rwa [asked_append] at hnext
  | await call resume ih =>
      have hnext := ih ((inTurn replies).answer before call) (before ++ [.called call])
      rw [asked_append] at hnext
      cases call with
      | create order => exact hnext
      | sleep ms => exact hnext
      | compensate stage created => exact hnext
      | status cluster => exact congrArg (replies (asked before) :: ·) hnext

/-! ### Questions and pauses -/

/-- **Questions about a cluster**, with a pause behind each of the first `k` of them, and one more
at the end. -/
def asking (interval : UInt64) (cluster : String) (k : Nat) : List Call :=
  (List.replicate k [.status cluster, .sleep interval]).flatten ++ [.status cluster]

theorem asking_succ (interval : UInt64) (cluster : String) (k : Nat) :
    asking interval cluster (k + 1) =
      .status cluster :: .sleep interval :: asking interval cluster k := rfl

/-- Whoever goes on longer has begun in the same way. -/
theorem asking_prefix {interval : UInt64} {cluster : String} {j k : Nat} (h : j ≤ k) :
    asking interval cluster j <+: asking interval cluster k := by
  induction j generalizing k with
  | zero =>
      cases k with
      | zero => exact List.prefix_rfl
      | succ k => exact ⟨.sleep interval :: asking interval cluster k, rfl⟩
  | succ j ih =>
      obtain ⟨k, rfl⟩ := Nat.exists_eq_succ_of_ne_zero (Nat.ne_zero_of_lt h)
      rw [asking_succ, Nat.succ_eq_add_one, asking_succ, List.cons_prefix_cons,
        List.cons_prefix_cons]
      exact ⟨rfl, rfl, ih (Nat.le_of_succ_le_succ h)⟩

/-- The calls of a wait. -/
theorem Answers.map_fst_talks {retries : Nat} (interval : UInt64) (cluster : String)
    (answers : Answers retries) :
    (answers.talks interval cluster).map (·.1) =
      asking interval cluster answers.early.length := by
  have hearly (early : List Reply) :
      (early.flatMap fun reply =>
        ([⟨.status cluster, reply⟩, ⟨.sleep interval, ()⟩] : List Talk)).map (·.1) =
      (List.replicate early.length [Call.status cluster, .sleep interval]).flatten := by
    induction early with
    | nil => rfl
    | cons reply early ih =>
        rw [List.flatMap_cons, List.map_append, ih]
        rfl
  rw [talks, List.map_append, hearly, asking]
  rfl

/-! ### Where a wait stops -/

/-- **Where a stream stops a wait** with some retries: at the first reply that says running, or at
the last one that there can be. -/
structure StopsAt (replies : Nat → Reply) (retries k : Nat) : Prop where
  early : ∀ j < k, stateOf (replies j) ≠ .running
  le : k ≤ retries
  ended : stateOf (replies k) = .running ∨ k = retries

namespace StopsAt

variable {replies other : Nat → Reply} {retries j k : Nat}

/-- A stream does not stop a wait twice. -/
theorem not_lt (hj : StopsAt replies retries j) (hk : StopsAt replies retries k) : ¬ j < k := by
  intro hlt
  rcases hj.ended with hrunning | hlast
  · exact hk.early j hlt hrunning
  · exact absurd hk.le (by omega)

theorem unique (hj : StopsAt replies retries j) (hk : StopsAt replies retries k) : j = k :=
  Nat.le_antisymm (Nat.le_of_not_lt (hk.not_lt hj)) (Nat.le_of_not_lt (hj.not_lt hk))

/-- Streams that stand for the same states stop a wait in the same place. -/
theorem congr (h : StopsAt replies retries k)
    (hsame : ∀ n, stateOf (other n) = stateOf (replies n)) : StopsAt other retries k where
  early j hj := hsame j ▸ h.early j hj
  le := h.le
  ended := hsame k ▸ h.ended

/-- A wait goes on behind every retry before which the cluster was not running. -/
theorem lt_of_not_running (h : StopsAt replies retries k) (hj : j < retries)
    (hnot : ∀ i ≤ j, stateOf (replies i) ≠ .running) : j < k := by
  rcases Nat.lt_or_ge j k with hlt | hge
  · exact hlt
  · rcases h.ended with hrunning | hlast
    · exact absurd hrunning (hnot k hge)
    · omega

end StopsAt

/-- A wait whose replies come from a stream is stopped by it. -/
theorem Answers.stopsAt {retries : Nat} {replies : Nat → Reply} (answers : Answers retries)
    (h : answers.replies = (List.range answers.questions).map replies) :
    StopsAt replies retries answers.early.length ∧
      answers.last = replies answers.early.length := by
  have hsplit : answers.early ++ [answers.last] =
      (List.range answers.early.length).map replies ++ [replies answers.early.length] := by
    rw [← @List.map_singleton _ _ replies, ← List.map_append, ← List.range_succ]
    exact h
  obtain ⟨hearly, hlast⟩ := List.append_inj' hsplit rfl
  have hlast := List.singleton_inj.mp hlast
  refine ⟨⟨fun j hj => ?_, answers.length_le, hlast ▸ answers.ended⟩, hlast⟩
  refine answers.early_not_running (replies j) ?_
  rw [hearly]
  exact List.mem_map_of_mem (List.mem_range.mpr hj)

/-! ### The wait -/

variable (polling : Polling) (cluster : String)

/-- **A wait that hears a stream of replies**: its calls, and how it ends. -/
def hearing (replies : Nat → Reply) : List Call × Except Timeout UInt32 :=
  let ended := (wait polling cluster).run (inTurn replies) []
  (ended.1.filterMap Event.call?, ended.2)

/-- How a wait ends that is stopped at the reply `k`. -/
def stopped (replies : Nat → Reply) (k : Nat) : Except Timeout UInt32 :=
  if stateOf (replies k) = .running then .ok (.ofNat (k + 1))
  else .error ⟨cluster, .ofNat (k + 1), stateOf (replies k)⟩

/-- A wait that hears a stream is stopped by it somewhere. -/
theorem exists_hearing (replies : Nat → Reply) :
    ∃ k, StopsAt replies polling.maxRetries.toNat k ∧
      hearing polling cluster replies =
        (asking polling.interval cluster k, stopped cluster replies k) := by
  obtain ⟨answers, hacts, hresult⟩ :=
    ends_wait_iff.mp (ends_acts (inTurn replies) (wait polling cluster) [])
  have hreplies := replies_inTurn replies (wait polling cluster) []
  simp only [hacts, Answers.talks_acts, questionsAmong_wait, List.map_map, List.length_map,
    answers.length_replies] at hreplies
  obtain ⟨hstops, hlast⟩ := answers.stopsAt
    ((List.map_id _).symm.trans (hreplies.trans (by rw [List.range_eq_range']; rfl)))
  have hend : answers.result cluster = stopped cluster replies answers.early.length := by
    simp only [Answers.result, Answers.running, Answers.timeout, hlast]
    rfl
  refine ⟨_, hstops, ?_⟩
  rw [hearing, run_calls, hresult, hend, hacts, Answers.talks_acts, Answers.map_fst_talks]
  rfl

/-- **The calls of a wait and its end**, from where the stream stops it. -/
theorem hearing_of_stopsAt {replies : Nat → Reply} {k : Nat}
    (h : StopsAt replies polling.maxRetries.toNat k) :
    hearing polling cluster replies =
      (asking polling.interval cluster k, stopped cluster replies k) := by
  obtain ⟨j, hj, hhearing⟩ := exists_hearing polling cluster replies
  rwa [hj.unique h] at hhearing

/-- **Only the states matter** that the replies stand for. -/
theorem hearing_congr {replies other : Nat → Reply}
    (h : ∀ n, stateOf (other n) = stateOf (replies n)) :
    hearing polling cluster other = hearing polling cluster replies := by
  obtain ⟨k, hk, hhearing⟩ := exists_hearing polling cluster replies
  rw [hhearing, hearing_of_stopsAt polling cluster (hk.congr h), stopped, stopped, h]

/-- **A wait, question by question.**  If some reply that can still be heard says running, the wait
is over at the first of them, and otherwise at the last question; either way questions and pauses
alternate, and the attempts are the questions.  A question that failed is as good as one that was
answered with an unknown state, and behind a failed state there is another question if there can be
one. -/
theorem wait_exact (replies : Nat → Reply)
    (hbudget : polling.maxRetries.toNat < UInt32.size - 1) :
    (∀ k ≤ polling.maxRetries.toNat, replies k = .ok .running →
      (∀ j < k, replies j ≠ .ok .running) →
      ∃ attempts : UInt32, attempts.toNat = k + 1 ∧
        hearing polling cluster replies = (asking polling.interval cluster k, .ok attempts)) ∧
    ((∀ j ≤ polling.maxRetries.toNat, replies j ≠ .ok .running) →
      ∃ attempts : UInt32, attempts.toNat = polling.maxRetries.toNat + 1 ∧
        hearing polling cluster replies =
          (asking polling.interval cluster polling.maxRetries.toNat,
            .error ⟨cluster, attempts, stateOf (replies polling.maxRetries.toNat)⟩)) ∧
    (∀ other : Nat → Reply,
      (∀ n, other n = replies n ∨ ∃ e, replies n = .error e ∧ other n = .ok .unknown) →
      hearing polling cluster other = hearing polling cluster replies) ∧
    ∀ k < polling.maxRetries.toNat, replies k = .ok .failed →
      (∀ j < k, replies j ≠ .ok .running) →
      asking polling.interval cluster k ++ [.sleep polling.interval, .status cluster] <+:
        (hearing polling cluster replies).1 := by
  have hattempts {k : Nat} (hk : k ≤ polling.maxRetries.toNat) :
      (UInt32.ofNat (k + 1)).toNat = k + 1 :=
    UInt32.toNat_ofNat_of_lt' (by omega)
  have hearly {k : Nat} (h : ∀ j < k, replies j ≠ .ok .running) :
      ∀ j < k, stateOf (replies j) ≠ .running :=
    fun j hj hrunning => h j hj ((stateOf_eq_running_iff _).mp hrunning)
  refine ⟨fun k hk hrunning hbefore => ?_, fun hnone => ?_, fun other hother => ?_,
    fun k hk hfailed hbefore => ?_⟩
  · have hstate := (stateOf_eq_running_iff _).mpr hrunning
    refine ⟨.ofNat (k + 1), hattempts hk, ?_⟩
    rw [hearing_of_stopsAt polling cluster ⟨hearly hbefore, hk, .inl hstate⟩, stopped,
      if_pos hstate]
  · have hnever := hearly (k := polling.maxRetries.toNat + 1)
      fun j hj => hnone j (Nat.le_of_lt_succ hj)
    refine ⟨.ofNat (polling.maxRetries.toNat + 1), hattempts (Nat.le_refl _), ?_⟩
    rw [hearing_of_stopsAt polling cluster
      ⟨fun j hj => hnever j (Nat.lt_succ_of_lt hj), Nat.le_refl _, .inr rfl⟩, stopped,
      if_neg (hnever _ (Nat.lt_succ_self _))]
  · refine hearing_congr polling cluster fun n => ?_
    rcases hother n with hn | ⟨e, hreply, hn⟩
    · rw [hn]
    · rw [hn, hreply]
      rfl
  · obtain ⟨stop, hstop, hhearing⟩ := exists_hearing polling cluster replies
    have hlt : k < stop := by
      refine hstop.lt_of_not_running hk fun i hi => ?_
      rcases Nat.lt_or_eq_of_le hi with hi | rfl
      · exact hearly hbefore i hi
      · rw [hfailed]
        exact nofun
    have hmore : asking polling.interval cluster k ++ [.sleep polling.interval, .status cluster] =
        asking polling.interval cluster (k + 1) := by
      simp [asking, List.replicate_succ']
    rw [hhearing, hmore]
    exact asking_prefix hlt

/-- A cluster whose state is not to be had at first, that then fails, and that runs in the end. -/
def recovering : Nat → Reply
  | 0 => .error (.timeout "zk")
  | 1 => .ok .failed
  | _ => .ok .running

/-- The cluster is seen running at the third question, and not at all if there are only two. -/
theorem wait_exact_recovering :
    (∃ attempts : UInt32, attempts.toNat = 3 ∧
      hearing ⟨2000, 5⟩ "zk" recovering =
        ([.status "zk", .sleep 2000, .status "zk", .sleep 2000, .status "zk"], .ok attempts)) ∧
    ∃ attempts : UInt32, attempts.toNat = 2 ∧
      hearing ⟨2000, 1⟩ "zk" recovering =
        ([.status "zk", .sleep 2000, .status "zk"], .error ⟨"zk", attempts, .failed⟩) := by
  constructor
  · obtain ⟨hrunning, _⟩ := wait_exact ⟨2000, 5⟩ "zk" recovering (by decide)
    refine hrunning 2 (by decide) rfl fun j hj => ?_
    match j, hj with
    | 0, _ => exact nofun
    | 1, _ => exact nofun
  · obtain ⟨_, htimeout, _⟩ := wait_exact ⟨2000, 1⟩ "zk" recovering (by decide)
    refine htimeout fun j hj => ?_
    match j, hj with
    | 0, _ => exact nofun
    | 1, _ => exact nofun

end Provisioning.Poll
