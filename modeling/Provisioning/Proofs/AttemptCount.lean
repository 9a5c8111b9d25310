/-
**Attempts, counted in 32 bits.**

A wait counts its questions in a number of 32 bits, and the number of its retries is another one.
One question is asked besides the retries, so with the largest number of retries there may be one
question more than 32 bits can say.  The configuration does not exclude this, as its check does not
look at the number of retries.

Machine arithmetic hides such a sum, since it begins again at zero.  Beside the wait there is
therefore the same wait with its sums looked at, `Poll.checked`, which gives up where one of them
does not fit.  The two are tied by an equation between workflows, so nothing is assumed of whoever
answers: the wait is the checked one, and where this has given up it is over as well, with no
attempts at all.  What the checked wait reports is counted in full, because none of its sums has
lost anything.

For a stream of replies it can then be said when a sum does not fit.  It takes the largest number of
retries, and replies of which none but perhaps the very last one says running.

Main definitions:

* `Poll.oneMore?` — a sum that is looked at;
* `Poll.checked` — **the wait with its sums looked at**, and `Poll.wrapped`, what becomes of it in
  machine arithmetic;
* `Poll.reported` — the attempts that a wait reports;
* `Poll.checkedHearing` — what a checked wait hears of a stream of replies.

Main results:

* `Poll.wait_eq_wrapped` — **the wait and the checked wait**, whoever answers;
* `Poll.toNat_reported_of_ends_checked` — the attempts of a checked wait are its questions;
* `Poll.exists_givenUp_iff` — a checked wait is given up where its questions are too many;
* `Poll.attempts_counted` — **when the attempts are the questions**;
* `Poll.attempts_not_counted` — they are not for every configuration that passes the check.
-/

import Provisioning.Proofs.EndpointText
import Provisioning.Proofs.ExactWait

set_option relaxedAutoImplicit false
set_option autoImplicit false

namespace Provisioning.Poll

open Readiness (Polling Timeout)
open Cluster (ContainerState)
open Workflow (Event Act Ends talks talks_answered noting calling run_calls ends_acts run_bind
  ends_done_iff ends_note_iff ends_sleep_iff)

/-! ### Sums -/

/-- **One more**, if 32 bits can say it. -/
def oneMore? (n : UInt32) : Option UInt32 :=
  if n.toNat + 1 < UInt32.size then some (n + 1) else none

theorem toNat_add_one {n : UInt32} (h : n.toNat + 1 < UInt32.size) :
    (n + 1).toNat = n.toNat + 1 := by
  rw [UInt32.toNat_add, UInt32.toNat_one]
  exact Nat.mod_eq_of_lt h

/-- What is one more has not begun again at zero. -/
theorem toNat_of_oneMore? {n more : UInt32} (h : oneMore? n = some more) :
    more.toNat = n.toNat + 1 := by
  rw [oneMore?] at h
  split at h
  · rename_i hlt
    obtain rfl := Option.some.inj h
    exact toNat_add_one hlt
  · cases h

theorem oneMore?_of_lt {n : UInt32} (h : n.toNat + 1 < UInt32.size) :
    oneMore? n = some (n + 1) := if_pos h

/-- There is not one more than the largest number, and a sum that says so is zero. -/
theorem add_one_of_oneMore? {n : UInt32} (h : oneMore? n = none) : n + 1 = 0 := by
  rw [oneMore?] at h
  split at h
  · cases h
  · have hlt := n.toNat_lt_size
    have hlast : n.toNat + 1 = UInt32.size := by omega
    rw [← UInt32.toNat_inj, UInt32.toNat_add, UInt32.toNat_one, hlast]
    rfl

/-! ### The checked wait -/

/-- The wait after `retries` retries, with `remaining` more of them to come and its sums looked at.
However it goes on behind a question, the first thing it does is a sum; if this does not fit, the
wait is given up with the state that was heard. -/
def checkedFrom (polling : Polling) (cluster : String) (retries : UInt32) (remaining : Nat) :
    Workflow (Except ContainerState (Except Timeout UInt32)) := do
  let state ← ask cluster
  match oneMore? retries with
  | none => return .error state
  | some more =>
    if state = .running then
      noting (.running cluster more)
      return .ok (.ok more)
    match remaining with
    | 0 => return .ok (.error ⟨cluster, more, state⟩)
    | remaining + 1 =>
      noting (.retrying cluster state more polling)
      calling (.sleep polling.interval)
      checkedFrom polling cluster more remaining

/-- **The wait with its sums looked at.** -/
def checked (polling : Polling) (cluster : String) :
    Workflow (Except ContainerState (Except Timeout UInt32)) :=
  checkedFrom polling cluster 0 polling.maxRetries.toNat

/-- **What becomes of a checked wait** in machine arithmetic.  Where it was given up, the wait is
over after the question that was asked last, and its attempts begin again at zero. -/
def wrapped (cluster : String) :
    Except ContainerState (Except Timeout UInt32) → Workflow (Except Timeout UInt32)
  | .ok result => return result
  | .error state => do
    if state = .running then
      noting (.running cluster 0)
      return .ok 0
    return .error ⟨cluster, 0, state⟩

section

variable {polling : Polling} {cluster : String}

/-- The wait and the checked wait, with as many retries to come as 32 bits can say.  The induction
is on them; with at least one of them left the sum fits. -/
theorem waitFrom_eq_wrapped {retries : UInt32} {remaining : Nat}
    (h : retries.toNat + remaining < UInt32.size) :
    waitFrom polling cluster retries remaining =
      checkedFrom polling cluster retries remaining >>= wrapped cluster := by
  induction remaining generalizing retries with
  | zero =>
      rw [waitFrom.eq_def, checkedFrom.eq_def, bind_assoc]
      refine bind_congr fun state => ?_
      cases hmore : oneMore? retries with
      | none =>
          rw [add_one_of_oneMore? hmore]
          rfl
      | some more =>
          have hlt : retries.toNat + 1 < UInt32.size := by
            rw [← toNat_of_oneMore? hmore]
            exact more.toNat_lt_size
          obtain rfl := Option.some.inj ((oneMore?_of_lt hlt).symm.trans hmore)
          by_cases hr : state = .running
          · simp [hr, noting, wrapped]
          · simp [hr, wrapped]
  | succ remaining ih =>
      rw [waitFrom.eq_def, checkedFrom.eq_def, bind_assoc]
      refine bind_congr fun state => ?_
      have hlt : retries.toNat + 1 < UInt32.size := by omega
      rw [oneMore?_of_lt hlt]
      by_cases hr : state = .running
      · simp [hr, noting, wrapped]
      · have hmore := @ih (retries + 1) (by rw [toNat_add_one hlt]; omega)
        simp [hr, noting, calling, hmore]

/-- **The wait and the checked wait.**  They do the same until a sum does not fit, and there the
wait is over too. -/
theorem wait_eq_wrapped :
    wait polling cluster = checked polling cluster >>= wrapped cluster :=
  waitFrom_eq_wrapped (by rw [UInt32.toNat_zero, Nat.zero_add]; exact UInt32.toNat_lt_size _)

/-! ### Attempts and questions -/

/-- **The attempts that a wait reports**, be it with success or not. -/
def reported : Except Timeout UInt32 → UInt32
  | .ok attempts => attempts
  | .error timeout => timeout.attempts

/-- A checked wait that is not given up goes one question at a time, and counts each of them. -/
theorem ends_checkedFrom_step {retries : UInt32} {remaining : Nat} {acts : List Act}
    {result : Except Timeout UInt32}
    (h : Ends (checkedFrom polling cluster retries remaining) acts (.ok result)) :
    ∃ reply rest, ∃ more : UInt32, acts = .answered (.status cluster) reply :: rest ∧
      more.toNat = retries.toNat + 1 ∧
      (rest = [] ∧ reported result = more ∨
        ∃ left later, remaining = left + 1 ∧
          rest = .answered (.sleep polling.interval) () :: later ∧
          Ends (checkedFrom polling cluster more left) later (.ok result)) := by
  rw [checkedFrom.eq_def] at h
  obtain ⟨reply, rest, hacts, hrest⟩ := ends_ask_bind_iff.mp h
  cases hmore : oneMore? retries with
  | none =>
      rw [hmore] at hrest
      cases (ends_done_iff.mp hrest).2
  | some more =>
      refine ⟨reply, rest, more, hacts, toNat_of_oneMore? hmore, ?_⟩
      rw [hmore] at hrest
      by_cases hr : stateOf reply = .running
      · simp only [hr, if_true] at hrest
        obtain ⟨rfl, hresult⟩ := ends_done_iff.mp (ends_note_iff.mp hrest)
        obtain rfl := Except.ok.inj hresult
        exact .inl ⟨rfl, rfl⟩
      · simp only [hr, if_false] at hrest
        cases remaining with
        | zero =>
            obtain ⟨rfl, hresult⟩ := ends_done_iff.mp hrest
            obtain rfl := Except.ok.inj hresult
            exact .inl ⟨rfl, rfl⟩
        | succ left =>
            obtain ⟨later, rfl, hlater⟩ := ends_sleep_iff.mp (ends_note_iff.mp hrest)
            exact .inr ⟨left, later, rfl, rfl, hlater⟩

/-- The attempts of a checked wait after some retries are these and its questions, counted in full.
The induction is on the retries that are left. -/
theorem toNat_reported_of_ends_checkedFrom {retries : UInt32} {remaining : Nat} {acts : List Act}
    {result : Except Timeout UInt32}
    (h : Ends (checkedFrom polling cluster retries remaining) acts (.ok result)) :
    (reported result).toNat =
      retries.toNat + (talks acts).countP fun talk => isQuestion talk.1 := by
  induction remaining generalizing retries acts with
  | zero =>
      obtain ⟨reply, rest, more, rfl, hmore, ⟨rfl, rfl⟩ | ⟨left, later, hleft, -⟩⟩ :=
        ends_checkedFrom_step h
      · exact hmore
      · cases hleft
  | succ remaining ih =>
      obtain ⟨reply, rest, more, rfl, hmore, ⟨rfl, rfl⟩ | ⟨left, later, hleft, rfl, hlater⟩⟩ :=
        ends_checkedFrom_step h
      · exact hmore
      · obtain rfl := Nat.succ.inj hleft
        rw [ih hlater, hmore, Nat.add_assoc, Nat.add_comm 1, talks_answered, talks_answered,
          List.countP_cons_of_pos rfl, List.countP_cons_of_neg Bool.false_ne_true]

/-- **The attempts of a checked wait are its questions**, whoever answers them. -/
theorem toNat_reported_of_ends_checked {acts : List Act} {result : Except Timeout UInt32}
    (h : Ends (checked polling cluster) acts (.ok result)) :
    (reported result).toNat = (talks acts).countP fun talk => isQuestion talk.1 :=
  (toNat_reported_of_ends_checkedFrom h).trans (Nat.zero_add _)

end

/-! ### Streams of replies -/

section

variable (polling : Polling) (cluster : String)

/-- **A checked wait that hears a stream of replies**: its calls, and how it ends. -/
def checkedHearing (replies : Nat → Reply) :
    List Call × Except ContainerState (Except Timeout UInt32) :=
  let ended := (checked polling cluster).run (inTurn replies) []
  (ended.1.filterMap Event.call?, ended.2)

/-- How a wait ends, from the end of the checked one. -/
def wrappedEnd : Except ContainerState (Except Timeout UInt32) → Except Timeout UInt32
  | .ok result => result
  | .error state => if state = .running then .ok 0 else .error ⟨cluster, 0, state⟩

/-- A wait has the calls of the checked one, and its end unless that was given up. -/
theorem hearing_eq_wrapped (replies : Nat → Reply) :
    hearing polling cluster replies =
      ((checkedHearing polling cluster replies).1,
        wrappedEnd cluster (checkedHearing polling cluster replies).2) := by
  rw [hearing, checkedHearing, wait_eq_wrapped, run_bind]
  cases ((checked polling cluster).run (inTurn replies) []).2 with
  | ok result => rfl
  | error state =>
      by_cases hr : state = .running
      · simp [wrapped, wrappedEnd, hr, noting, Workflow.run, Event.call?]
      · simp [wrapped, wrappedEnd, hr]

theorem toNat_reported_of_checkedHearing {replies : Nat → Reply} {result : Except Timeout UInt32}
    (h : (checkedHearing polling cluster replies).2 = .ok result) :
    (reported result).toNat = (checkedHearing polling cluster replies).1.countP isQuestion := by
  have hends := ends_acts (inTurn replies) (checked polling cluster) []
  rw [checkedHearing] at h
  rw [h] at hends
  rw [toNat_reported_of_ends_checked hends, checkedHearing, run_calls, List.filterMap_nil,
    List.nil_append, List.countP_map]
  rfl

theorem countP_isQuestion_asking (interval : UInt64) (k : Nat) :
    (asking interval cluster k).countP isQuestion = k + 1 := by
  induction k with
  | zero => rfl
  | succ k ih =>
      rw [asking_succ, List.countP_cons_of_pos rfl, List.countP_cons_of_neg Bool.false_ne_true, ih]

/-- A wait that is stopped at the reply `k` has asked for it and all before. -/
theorem countP_isQuestion_hearing {replies : Nat → Reply} {k : Nat}
    (h : StopsAt replies polling.maxRetries.toNat k) :
    (hearing polling cluster replies).1.countP isQuestion = k + 1 := by
  rw [hearing_of_stopsAt polling cluster h]
  exact countP_isQuestion_asking cluster polling.interval k

/-- A wait that was given up where its sums are looked at reports no attempts. -/
theorem reported_wrappedEnd_error (state : ContainerState) :
    reported (wrappedEnd cluster (.error state)) = 0 := by
  rw [wrappedEnd]
  split
  · rfl
  · rfl

/-- What a wait reports that is stopped at the reply `k`. -/
theorem reported_stopped (replies : Nat → Reply) (k : Nat) :
    reported (stopped cluster replies k) = .ofNat (k + 1) := by
  rw [stopped]
  split
  · rfl
  · rfl

/-- **A checked wait is given up** just if there is no number of 32 bits for its questions. -/
theorem exists_givenUp_iff {replies : Nat → Reply} {k : Nat}
    (h : StopsAt replies polling.maxRetries.toNat k) :
    (∃ state, (checkedHearing polling cluster replies).2 = .error state) ↔
      ¬ k + 1 < UInt32.size := by
  have hquestions := countP_isQuestion_hearing polling cluster h
  have hend := congrArg (fun heard => reported heard.2) (hearing_of_stopsAt polling cluster h)
  rw [hearing_eq_wrapped] at hquestions hend
  cases hended : (checkedHearing polling cluster replies).2 with
  | ok result =>
      have hcount := (toNat_reported_of_checkedHearing polling cluster hended).trans hquestions
      have hlt : k + 1 < UInt32.size := hcount ▸ (reported result).toNat_lt_size
      simp [hlt]
  | error state =>
      rw [hended, reported_wrappedEnd_error, reported_stopped] at hend
      have hge : ¬ k + 1 < UInt32.size := by
        intro hlt
        have hcount := UInt32.toNat_ofNat_of_lt' hlt
        rw [← hend] at hcount
        exact Nat.succ_ne_zero k hcount.symm
      simp [hge]

end

/-- A stream lets a wait go on to its last question if no reply before that says running. -/
theorem StopsAt.eq_last_iff {replies : Nat → Reply} {retries k : Nat}
    (h : StopsAt replies retries k) : k = retries ↔ ∀ j < retries, replies j ≠ .ok .running := by
  constructor
  · rintro rfl j hj hrunning
    exact h.early j hj ((stateOf_eq_running_iff _).mpr hrunning)
  · intro hnone
    refine Nat.le_antisymm h.le (Nat.le_of_not_lt fun hlt => ?_)
    rcases h.ended with hrunning | hlast
    · exact hnone k hlt ((stateOf_eq_running_iff _).mp hrunning)
    · omega

/-- A sum of a wait does not fit if the wait goes on to the last of the most questions there are. -/
theorem StopsAt.not_lt_size_iff {replies : Nat → Reply} {retries : UInt32} {k : Nat}
    (h : StopsAt replies retries.toNat k) : ¬ k + 1 < UInt32.size ↔
      retries.toNat + 1 = UInt32.size ∧ ∀ j < retries.toNat, replies j ≠ .ok .running := by
  have hle := h.le
  have hlt := retries.toNat_lt_size
  rw [← h.eq_last_iff]
  omega

/-- **When the attempts are the questions.**  The check of a configuration admits every number of
retries or none.  A sum of the wait does not fit just if the number of retries is the largest there
is and no reply but perhaps the last one says running.  If all sums fit, machine arithmetic loses
nothing and the attempts are the questions.  If one does not, there is one question more than the
attempts can say, and none are reported. -/
theorem attempts_counted (c : Config) (cluster : String) (replies : Nat → Reply) :
    let last := c.maxRetries.toNat
    let heard := hearing c.polling cluster replies
    let summed := checkedHearing c.polling cluster replies
    (∀ retries : UInt32, ({ c with maxRetries := retries } : Config).validate = c.validate) ∧
    ((∃ state, summed.2 = .error state) ↔
      last + 1 = UInt32.size ∧ ∀ j < last, replies j ≠ .ok .running) ∧
    (∀ result, summed.2 = .ok result → summed.1 = heard.1 ∧ result = heard.2 ∧
      (reported result).toNat = heard.1.countP isQuestion) ∧
    ∀ state, summed.2 = .error state → summed.1 = heard.1 ∧
      heard.1.countP isQuestion = UInt32.size ∧ reported heard.2 = 0 := by
  intro last heard summed
  have hcalls : summed.1 = heard.1 :=
    (congrArg Prod.fst (hearing_eq_wrapped c.polling cluster replies)).symm
  have hend : heard.2 = wrappedEnd cluster summed.2 :=
    congrArg Prod.snd (hearing_eq_wrapped c.polling cluster replies)
  obtain ⟨k, hstops, -⟩ := exists_hearing c.polling cluster replies
  have hgivenUp := exists_givenUp_iff c.polling cluster hstops
  refine ⟨fun retries => rfl, ?_, fun result hresult => ?_, fun state hstate => ?_⟩
  · exact hgivenUp.trans hstops.not_lt_size_iff
  · rw [hresult] at hend
    rw [← hcalls]
    exact ⟨rfl, hend.symm, toNat_reported_of_checkedHearing c.polling cluster hresult⟩
  · obtain ⟨hlargest, hnone⟩ := hstops.not_lt_size_iff.mp (hgivenUp.mp ⟨state, hstate⟩)
    refine ⟨hcalls, (countP_isQuestion_hearing c.polling cluster hstops).trans ?_, ?_⟩
    · rw [hstops.eq_last_iff.mpr hnone]
      exact hlargest
    · rw [hend, hstate, reported_wrappedEnd_error]

/-- With the largest number of retries and a cluster that runs at the third question, every sum
fits. -/
theorem attempts_counted_of_recovering :
    let c : Config := { maxRetries := 4294967295 }
    c.validate = .ok () ∧ ∃ result, (checkedHearing c.polling "zk" recovering).2 = .ok result ∧
      (reported result).toNat = 3 := by
  intro c
  refine ⟨Config.validate_eq_ok_iff.mpr ⟨by decide, by decide, by decide⟩, ?_⟩
  obtain ⟨-, hgivenUp, hcounted, -⟩ := attempts_counted c "zk" recovering
  have hstops : StopsAt recovering c.polling.maxRetries.toNat 2 := by
    refine ⟨fun j hj => ?_, by decide, .inl rfl⟩
    match j, hj with
    | 0, _ => exact nofun
    | 1, _ => exact nofun
  cases hresult : (checkedHearing c.polling "zk" recovering).2 with
  | ok result =>
      obtain ⟨-, -, hquestions⟩ := hcounted result hresult
      exact ⟨result, rfl, hquestions.trans (countP_isQuestion_hearing c.polling "zk" hstops)⟩
  | error state =>
      obtain ⟨-, hnone⟩ := hgivenUp.mp ⟨state, hresult⟩
      exact absurd rfl (hnone 2 (by decide))

/-- **The attempts are not always the questions.**  With the largest number of retries, which passes
the check, and a cluster that stays pending, there are `2 ^ 32` questions and no attempts. -/
theorem attempts_not_counted :
    let c : Config := { maxRetries := 4294967295 }
    let pending : Nat → Reply := fun _ => .ok .pending
    c.validate = .ok () ∧ (∃ state, (checkedHearing c.polling "zk" pending).2 = .error state) ∧
      (hearing c.polling "zk" pending).1.countP isQuestion = UInt32.size ∧
      (hearing c.polling "zk" pending).2 = .error ⟨"zk", 0, .pending⟩ := by
  intro c pending
  have hnot (n : Nat) : stateOf (pending n) ≠ .running := by
    show ContainerState.pending ≠ .running
    decide
  have hstops : StopsAt pending c.polling.maxRetries.toNat c.polling.maxRetries.toNat :=
    ⟨fun j _ => hnot j, Nat.le_refl _, .inr rfl⟩
  have hzero : UInt32.ofNat (c.polling.maxRetries.toNat + 1) = 0 := by decide
  have hend := congrArg Prod.snd (hearing_of_stopsAt c.polling "zk" hstops)
  rw [stopped, hzero, if_neg (hnot c.polling.maxRetries.toNat)] at hend
  exact ⟨Config.validate_eq_ok_iff.mpr ⟨by decide, by decide, by decide⟩,
    (exists_givenUp_iff c.polling "zk" hstops).mpr (by decide),
    (countP_isQuestion_hearing c.polling "zk" hstops).trans (by decide), hend⟩

end Provisioning.Poll
