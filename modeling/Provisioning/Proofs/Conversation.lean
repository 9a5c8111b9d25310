/-
**Conversations, answer by answer.**

`Provisioning/Workflow.lean` gives a workflow a meaning once somebody answers its calls: a whole
conversation with an environment, or one stretch as far as the next call.  A caller that talks to a
provisioner step by step, and may lose interest in between, fits neither: its conversation is a
finite piece of one, and what it was answered is known only as it goes.

This module describes such pieces by what happened in them.  An **act** is a state that was
published, or a call together with its answer, and `Workflow.Leads w acts r` says that the acts lead
the workflow `w` to `r`, its result or the call at which it waits.  Nothing is assumed about where
the answers come from, so whatever is proved about all acts holds of every client, whether it
remembers what it was asked before or not.  Notices are no acts: they are words about a run, and
nothing depends on them.

Main definitions:

* `Workflow.Act`, `Workflow.Talk` — what happens, and a call with its answer;
* `Workflow.Throughout` — what holds of each element of a list and those in front of it;
* `Workflow.Leads` — **acts lead a workflow** to its end or to a call;
* `Workflow.acts` — the acts of a whole conversation with an environment.

Main results:

* `Workflow.leads_advance`, `Workflow.Leads.resume` — a conversation grows by one answer and one
  stretch at a time;
* `Workflow.ends_bind_iff` — the acts of two workflows, one after the other;
* `Workflow.Leads.exists_ends` — **every piece is the beginning of a whole conversation**, whatever
  its open call is answered;
* `Workflow.ends_acts` — a conversation with an environment is one of those described here;
* `Workflow.mem_talks_of_run` — a call in such a conversation has the answer that the environment
  gives in its place.
-/

import Provisioning.Workflow

set_option relaxedAutoImplicit false
set_option autoImplicit false

namespace Provisioning.Workflow

variable {α β : Type}

/-! ### Acts -/

/-- What happens in a conversation, apart from notices. -/
inductive Act where
  | published (state : ProvisioningState)
  | answered (call : Call) (answer : call.Answer)

/-- A call with its answer. -/
abbrev Talk := (call : Call) × call.Answer

/-- An act as an event, which tells nothing of the answer. -/
def Act.event : Act → Event
  | .published state => .published state
  | .answered call _ => .called call

/-- The call of an act, with its answer. -/
def Act.talk? : Act → Option Talk
  | .published _ => none
  | .answered call answer => some ⟨call, answer⟩

/-- The calls among acts, with their answers. -/
def talks (acts : List Act) : List Talk := acts.filterMap Act.talk?

@[simp] theorem talks_nil : talks [] = [] := rfl

@[simp] theorem talks_published (state : ProvisioningState) (acts : List Act) :
    talks (.published state :: acts) = talks acts := rfl

@[simp] theorem talks_answered (call : Call) (answer : call.Answer) (acts : List Act) :
    talks (.answered call answer :: acts) = ⟨call, answer⟩ :: talks acts := rfl

@[simp] theorem talks_append (acts more : List Act) :
    talks (acts ++ more) = talks acts ++ talks more := List.filterMap_append

/-- What remarks tell of what happened; notices are left out. -/
def Remark.act? : Remark → Option Act
  | .published state => some (.published state)
  | .noted _ => none

/-- The acts among remarks. -/
def remarkActs (remarks : List Remark) : List Act := remarks.filterMap Remark.act?

@[simp] theorem remarkActs_nil : remarkActs [] = [] := rfl

@[simp] theorem remarkActs_published (state : ProvisioningState) (remarks : List Remark) :
    remarkActs (.published state :: remarks) = .published state :: remarkActs remarks := rfl

@[simp] theorem remarkActs_noted (notice : Notice) (remarks : List Remark) :
    remarkActs (.noted notice :: remarks) = remarkActs remarks := rfl

/-- The state that an act publishes. -/
def Act.state? : Act → Option ProvisioningState
  | .published state => some state
  | .answered _ _ => none

/-- The states that are published among acts. -/
def statesAmong (acts : List Act) : List ProvisioningState := acts.filterMap Act.state?

@[simp] theorem statesAmong_nil : statesAmong [] = [] := rfl

@[simp] theorem statesAmong_published (state : ProvisioningState) (acts : List Act) :
    statesAmong (.published state :: acts) = state :: statesAmong acts := rfl

@[simp] theorem statesAmong_answered (call : Call) (answer : call.Answer) (acts : List Act) :
    statesAmong (.answered call answer :: acts) = statesAmong acts := rfl

@[simp] theorem statesAmong_append (acts more : List Act) :
    statesAmong (acts ++ more) = statesAmong acts ++ statesAmong more := List.filterMap_append

/-! ### Acts in their place -/

/-- **All along a list** every element stands behind those in front of it as `p` says. -/
def Throughout {α : Type} (p : List α → α → Prop) (xs : List α) : Prop :=
  ∀ before x after, xs = before ++ x :: after → p before x

section Throughout

variable {ι : Type} {p q : List ι → ι → Prop} {xs ys : List ι}

@[simp] theorem throughout_nil : Throughout p [] := by
  intro before x after h
  cases (List.append_eq_nil_iff.mp h.symm).2

/-- An element of two lists stands in the first, or in the second and then behind all of the
first. -/
theorem throughout_append_iff : Throughout p (xs ++ ys) ↔
    Throughout p xs ∧ Throughout (fun before => p (xs ++ before)) ys := by
  constructor
  · intro h
    constructor
    · rintro before x after rfl
      exact h before x (after ++ ys) (by simp)
    · rintro before x after rfl
      exact h (xs ++ before) x after (by simp)
  · rintro ⟨hxs, hys⟩ before x after h
    rcases List.append_eq_append_iff.mp h with ⟨between, rfl, rfl⟩ | ⟨last, rfl, hlast⟩
    · exact hys between x after rfl
    · cases last with
      | nil =>
          rw [List.nil_append] at hlast
          have hx := hys [] x after hlast.symm
          rwa [List.append_nil, List.append_nil] at hx
      | cons y last =>
          obtain ⟨rfl, rfl⟩ := List.cons.inj hlast
          exact hxs before x last rfl

theorem throughout_cons_iff {x : ι} : Throughout p (x :: xs) ↔
    p [] x ∧ Throughout (fun before => p (x :: before)) xs := by
  have hsplit : Throughout p ([x] ++ xs) ↔ _ := throughout_append_iff
  rw [List.singleton_append] at hsplit
  rw [hsplit]
  refine and_congr_left fun _ => ⟨fun h => h [] x [] rfl, fun hx before y after h => ?_⟩
  cases before with
  | nil =>
      obtain ⟨rfl, _⟩ := List.cons.inj h
      exact hx
  | cons z before => cases (List.append_eq_nil_iff.mp (List.cons.inj h).2.symm).2

/-- Only what the list itself can put in front of an element matters. -/
theorem throughout_of_forall (h : ∀ before x, (∀ y ∈ before, y ∈ xs) → x ∈ xs → p before x) :
    Throughout p xs := by
  rintro before x after rfl
  exact h before x (fun y hy => List.mem_append_left _ hy)
    (List.mem_append_right _ List.mem_cons_self)

/-- What is not found in a list is not found among its elements. -/
theorem filterMap_eq_nil_of_subset {κ : Type} {f : ι → Option κ} (h : xs.filterMap f = [])
    (hsubset : ∀ y ∈ ys, y ∈ xs) : ys.filterMap f = [] :=
  List.filterMap_eq_nil_iff.mpr fun y hy => List.filterMap_eq_nil_iff.mp h y (hsubset y hy)

theorem Throughout.imp (h : Throughout p xs) (hpq : ∀ before x, p before x → q before x) :
    Throughout q xs := fun before x after hxs => hpq before x (h before x after hxs)

/-- Along a list and along what a function finds in it. -/
theorem Throughout.filterMap {κ : Type} {f : ι → Option κ} {q : List κ → κ → Prop}
    (h : Throughout (fun before x => ∀ y, f x = some y → q (before.filterMap f) y) xs) :
    Throughout q (xs.filterMap f) := by
  intro before y after hsplit
  obtain ⟨front, rest, rfl, rfl, hrest⟩ := List.filterMap_eq_append_iff.mp hsplit
  obtain ⟨skipped, x, last, rfl, hskipped, hx, _⟩ := List.filterMap_eq_cons_iff.mp hrest
  have hfront : (front ++ skipped).filterMap f = front.filterMap f := by
    rw [List.filterMap_append, List.filterMap_eq_nil_iff.mpr hskipped, List.append_nil]
  rw [← hfront]
  exact h (front ++ skipped) x last (List.append_assoc _ _ _).symm y hx

end Throughout

/-! ### Pieces of a conversation -/

/-- **The acts lead a workflow** to its result, or to a call at which it waits. -/
inductive Leads : Workflow α → List Act → α ⊕ Suspended α → Prop
  | done (a : α) : Leads (.done a) [] (.inl a)
  | waits (call : Call) (resume : call.Answer → Workflow α) :
      Leads (.await call resume) [] (.inr ⟨call, resume⟩)
  | publish {next : Workflow α} {acts : List Act} {r : α ⊕ Suspended α}
      (state : ProvisioningState) : Leads next acts r →
      Leads (.publish state next) (.published state :: acts) r
  | note {next : Workflow α} {acts : List Act} {r : α ⊕ Suspended α} (notice : Notice) :
      Leads next acts r → Leads (.note notice next) acts r
  | await {call : Call} {resume : call.Answer → Workflow α} {acts : List Act}
      {r : α ⊕ Suspended α} (answer : call.Answer) : Leads (resume answer) acts r →
      Leads (.await call resume) (.answered call answer :: acts) r

/-- The acts are a whole conversation with the result `a`. -/
abbrev Ends (w : Workflow α) (acts : List Act) (a : α) : Prop := Leads w acts (.inl a)

/-- What a workflow does up to its next call leads it there. -/
theorem leads_advance (w : Workflow α) : Leads w (remarkActs w.advance.1) w.advance.2 := by
  induction w with
  | done a => exact Leads.done a
  | publish state next ih => exact Leads.publish state ih
  | note notice next ih => exact Leads.note notice ih
  | await call resume _ => exact Leads.waits call resume

/-- **One answer more**: a piece that ends at a call goes on with whatever the call is answered. -/
theorem Leads.resume {w : Workflow α} {acts more : List Act} {waiting : Suspended α}
    {r : α ⊕ Suspended α} (h : Leads w acts (.inr waiting)) (answer : waiting.call.Answer)
    (hr : Leads (waiting.resume answer) more r) :
    Leads w (acts ++ .answered waiting.call answer :: more) r := by
  generalize hx : (Sum.inr waiting : α ⊕ Suspended α) = x at h
  induction h with
  | done a => simp at hx
  | waits call resume =>
      obtain rfl := Sum.inr.inj hx
      exact Leads.await answer hr
  | publish state _ ih => exact Leads.publish state (ih hx)
  | note notice _ ih => exact Leads.note notice (ih hx)
  | await answer _ ih => exact Leads.await answer (ih hx)

/-! ### Whole conversations -/

@[simp] theorem ends_done_iff {a b : α} {acts : List Act} :
    Ends (.done a) acts b ↔ acts = [] ∧ b = a := by
  constructor
  · intro h
    cases h
    exact ⟨rfl, rfl⟩
  · rintro ⟨rfl, rfl⟩
    exact Leads.done _

@[simp] theorem ends_publish_iff {state : ProvisioningState} {next : Workflow α}
    {acts : List Act} {a : α} : Ends (.publish state next) acts a ↔
      ∃ rest, acts = .published state :: rest ∧ Ends next rest a := by
  constructor
  · intro h
    cases h with
    | publish _ h => exact ⟨_, rfl, h⟩
  · rintro ⟨rest, rfl, h⟩
    exact Leads.publish state h

@[simp] theorem ends_note_iff {notice : Notice} {next : Workflow α} {acts : List Act} {a : α} :
    Ends (.note notice next) acts a ↔ Ends next acts a := by
  constructor
  · intro h
    cases h with
    | note _ h => exact h
  · exact Leads.note notice

@[simp] theorem ends_await_iff {call : Call} {resume : call.Answer → Workflow α}
    {acts : List Act} {a : α} : Ends (.await call resume) acts a ↔
      ∃ answer rest, acts = .answered call answer :: rest ∧ Ends (resume answer) rest a := by
  constructor
  · intro h
    cases h with
    | await answer h => exact ⟨answer, _, rfl, h⟩
  · rintro ⟨answer, rest, rfl, h⟩
    exact Leads.await answer h

theorem exists_unit_iff {p : Unit → Prop} : (∃ u, p u) ↔ p () :=
  ⟨fun ⟨_, h⟩ => h, fun h => ⟨(), h⟩⟩

/-- There is only one answer to a pause. -/
theorem ends_sleep_iff {ms : UInt64} {resume : Unit → Workflow α} {acts : List Act} {a : α} :
    Ends (.await (.sleep ms) resume) acts a ↔
      ∃ rest, acts = .answered (.sleep ms) () :: rest ∧ Ends (resume ()) rest a :=
  ends_await_iff.trans exists_unit_iff

/-- There is only one answer to a compensation. -/
theorem ends_compensate_iff {stage : Cluster.Kind} {created : List Cluster.Descriptor}
    {resume : Unit → Workflow α} {acts : List Act} {a : α} :
    Ends (.await (.compensate stage created) resume) acts a ↔
      ∃ rest, acts = .answered (.compensate stage created) () :: rest ∧
        Ends (resume ()) rest a :=
  ends_await_iff.trans exists_unit_iff

/-- **Two workflows, one after the other**: the acts of the first, and behind them the acts of what
its result goes on with. -/
theorem ends_bind_iff {w : Workflow α} {f : α → Workflow β} {acts : List Act} {b : β} :
    Ends (w >>= f) acts b ↔
      ∃ before a after, acts = before ++ after ∧ Ends w before a ∧ Ends (f a) after b := by
  induction w generalizing acts with
  | done a =>
      simp only [bind_done, ends_done_iff]
      constructor
      · intro h
        exact ⟨[], a, acts, rfl, ⟨rfl, rfl⟩, h⟩
      · rintro ⟨_, _, _, rfl, ⟨rfl, rfl⟩, h⟩
        exact h
  | publish state next ih =>
      simp only [bind_publish, ends_publish_iff, ih]
      constructor
      · rintro ⟨_, rfl, before, a, after, rfl, hw, hf⟩
        exact ⟨_, a, after, rfl, ⟨before, rfl, hw⟩, hf⟩
      · rintro ⟨_, a, after, rfl, ⟨before, rfl, hw⟩, hf⟩
        exact ⟨_, rfl, before, a, after, rfl, hw, hf⟩
  | note notice next ih => simp only [bind_note, ends_note_iff, ih]
  | await call resume ih =>
      simp only [bind_await, ends_await_iff, ih]
      constructor
      · rintro ⟨answer, _, rfl, before, a, after, rfl, hw, hf⟩
        exact ⟨_, a, after, rfl, ⟨answer, before, rfl, hw⟩, hf⟩
      · rintro ⟨_, a, after, rfl, ⟨answer, before, rfl, hw⟩, hf⟩
        exact ⟨answer, _, rfl, before, a, after, rfl, hw, hf⟩

/-! ### From a piece to the whole -/

/-- The acts of a whole conversation with an environment, after the events in `before`. -/
def acts (env : Environment) : Workflow α → (before : List Event) → List Act
  | .done _, _ => []
  | .publish state next, before =>
    .published state :: next.acts env (before ++ [.published state])
  | .note notice next, before => next.acts env (before ++ [.noted notice])
  | .await call resume, before =>
    .answered call (env.answer before call) ::
      (resume (env.answer before call)).acts env (before ++ [.called call])

/-- **A conversation with an environment** is one of those described here, with the same result. -/
theorem ends_acts (env : Environment) (w : Workflow α) (before : List Event) :
    Ends w (w.acts env before) (w.run env before).2 := by
  induction w generalizing before with
  | done a => exact Leads.done a
  | publish state next ih => exact Leads.publish state (ih _)
  | note notice next ih => exact Leads.note notice (ih _)
  | await call resume ih => exact Leads.await _ (ih _ _)

/-- The answers in a conversation with an environment are those of the environment. -/
theorem exists_answer_of_mem_talks {env : Environment} {w : Workflow α} {before : List Event}
    {call : Call} {answer : call.Answer} (h : (⟨call, answer⟩ : Talk) ∈ talks (w.acts env before)) :
    ∃ earlier, answer = env.answer earlier call := by
  induction w generalizing before with
  | done a => cases h
  | publish state next ih => exact ih h
  | note notice next ih => exact ih h
  | await other resume ih =>
      rcases List.mem_cons.mp h with h | h
      · cases h
        exact ⟨before, rfl⟩
      · exact ih _ h

/-- Whether an event is a call. -/
def Event.call? : Event → Option Call
  | .called call => some call
  | _ => none

@[simp] theorem Event.call?_called (call : Call) : (Event.called call).call? = some call := rfl

@[simp] theorem Event.call?_published (state : ProvisioningState) :
    (Event.published state).call? = none := rfl

@[simp] theorem Event.call?_noted (notice : Notice) : (Event.noted notice).call? = none := rfl

/-- What is a call is this event. -/
theorem Event.eq_called_of_call? {event : Event} {call : Call} (h : event.call? = some call) :
    event = .called call := by
  cases event with
  | published state => cases h
  | noted notice => cases h
  | called other =>
      obtain rfl := Option.some.inj h
      rfl

/-- The calls of a conversation with an environment are those of its acts. -/
theorem run_calls (env : Environment) (w : Workflow α) (before : List Event) :
    (w.run env before).1.filterMap Event.call? =
      before.filterMap Event.call? ++ (talks (w.acts env before)).map (·.1) := by
  induction w generalizing before with
  | done a => simp [acts]
  | publish state next ih => simp [run, acts, ih]
  | note notice next ih => simp [run, acts, ih]
  | await call resume ih => simp [run, acts, ih]

/-- The same answer to every create call, and the same one to every status call. -/
def answering (created : Except Backend.CallError String)
    (state : Except Backend.CallError Cluster.ContainerState) : (call : Call) → call.Answer
  | .create _ => created
  | .status _ => state
  | .sleep _ => ()
  | .compensate _ _ => ()

/-- Some answer to a call. -/
def anyAnswer : (call : Call) → call.Answer := answering (.ok "") (.ok .unknown)

/-- Every workflow comes to an end, whoever answers. -/
theorem exists_ends (w : Workflow α) : ∃ acts a, Ends w acts a :=
  ⟨_, _, ends_acts ⟨fun _ => anyAnswer⟩ w []⟩

/-- **Every piece is the beginning of a whole conversation**, whatever its open call is answered. -/
theorem Leads.exists_ends {w : Workflow α} {acts : List Act} {waiting : Suspended α}
    (h : Leads w acts (.inr waiting)) (answer : waiting.call.Answer) :
    ∃ more a, Ends w (acts ++ .answered waiting.call answer :: more) a := by
  obtain ⟨more, a, ha⟩ := Workflow.exists_ends (waiting.resume answer)
  exact ⟨more, a, h.resume answer ha⟩

/-! ### Calls in their place -/

/-- A conversation begins with what was before it. -/
theorem exists_run_eq (env : Environment) (w : Workflow α) (before : List Event) :
    ∃ more, (w.run env before).1 = before ++ more := by
  induction w generalizing before with
  | done a => exact ⟨[], (List.append_nil before).symm⟩
  | publish state next ih =>
      obtain ⟨more, h⟩ := ih (before ++ [.published state])
      exact ⟨.published state :: more, h.trans (List.append_assoc _ _ _)⟩
  | note notice next ih =>
      obtain ⟨more, h⟩ := ih (before ++ [.noted notice])
      exact ⟨.noted notice :: more, h.trans (List.append_assoc _ _ _)⟩
  | await call resume ih =>
      obtain ⟨more, h⟩ := ih (env.answer before call) (before ++ [.called call])
      exact ⟨.called call :: more, h.trans (List.append_assoc _ _ _)⟩

/-- Where a conversation goes on with an event, a call stands further on, or is this event. -/
theorem split_run {env : Environment} {w : Workflow α} {before pre post : List Event}
    {event : Event} {call : Call}
    (h : (w.run env (before ++ [event])).1 = pre ++ .called call :: post)
    (hle : before.length ≤ pre.length) :
    (before ++ [event]).length ≤ pre.length ∨ before = pre ∧ event = .called call := by
  rcases Nat.lt_or_ge before.length pre.length with hlt | hge
  · left
    rw [List.length_append]
    exact hlt
  · right
    -- Both lists begin the same run, and they are of one length.
    obtain ⟨more, hmore⟩ := exists_run_eq env w (before ++ [event])
    rw [hmore, List.append_assoc] at h
    obtain ⟨hpre, hrest⟩ := List.append_inj h (Nat.le_antisymm hle hge)
    exact ⟨hpre, (List.cons.inj hrest).1⟩

/-- **A call in its place**: it was answered as the environment answers it there. -/
theorem mem_talks_of_run {env : Environment} {w : Workflow α}
    {before pre post : List Event} {call : Call}
    (h : (w.run env before).1 = pre ++ .called call :: post) (hle : before.length ≤ pre.length) :
    (⟨call, env.answer pre call⟩ : Talk) ∈ talks (w.acts env before) := by
  induction w generalizing before with
  | done a =>
      have hlength : before.length = pre.length + (post.length + 1) := by
        simpa using congrArg List.length h
      omega
  | publish state next ih =>
      rcases split_run h hle with hle | ⟨_, hevent⟩
      · exact ih h hle
      · cases hevent
  | note notice next ih =>
      rcases split_run h hle with hle | ⟨_, hevent⟩
      · exact ih h hle
      · cases hevent
  | await other resume ih =>
      rcases split_run h hle with hle | ⟨rfl, hevent⟩
      · exact List.mem_cons_of_mem _ (ih _ h hle)
      · cases hevent
        exact List.mem_cons_self

/-- A call among the events of a conversation is among its calls. -/
theorem exists_talk_of_called {env : Environment} {w : Workflow α} {call : Call}
    (h : .called call ∈ (w.run env []).1) :
    ∃ reply, (⟨call, reply⟩ : Talk) ∈ talks (w.acts env []) := by
  obtain ⟨pre, post, hsplit⟩ := List.append_of_mem h
  exact ⟨_, mem_talks_of_run hsplit (Nat.zero_le _)⟩

/-- Each call of a conversation has its place among the events. -/
theorem exists_call_of_mem_talks {env : Environment} {w : Workflow α} {before : List Event}
    {call : Call} {answer : call.Answer} (h : (⟨call, answer⟩ : Talk) ∈ talks (w.acts env before)) :
    ∃ pre post, (w.run env before).1 = pre ++ .called call :: post ∧
      answer = env.answer pre call := by
  induction w generalizing before with
  | done a => cases h
  | publish state next ih => exact ih h
  | note notice next ih => exact ih h
  | await other resume ih =>
      rcases List.mem_cons.mp h with h | h
      · cases h
        obtain ⟨more, hmore⟩ :=
          exists_run_eq env (resume (env.answer before call)) (before ++ [.called call])
        exact ⟨before, more, hmore.trans (List.append_assoc _ _ _), rfl⟩
      · exact ih _ h

end Provisioning.Workflow
