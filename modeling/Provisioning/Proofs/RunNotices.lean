/-
**What is said in a run.**

Unless more is asked for, only warnings and errors are shown, and a run that succeeds may still have
something to warn of: a cluster that got another name than was ordered, a question about a cluster
that was not answered, or a cluster that never reported running and was passed over.  These are said
in three different parts of the program, and each of them can also be told from the calls and their
answers, or from the workspace.  What is shown therefore says nothing that could not be known, and
nothing is shown if and only if there is nothing to warn of.

A client says more than the run itself: what it was told by the backend.  It says this at its calls,
so what is said in a conversation is put together from the events, each in its place.

Main definitions:

* `Notice.Minor` — a notice that is not shown unless more is asked for;
* `Run.Told` — **what is said on the way to a success**, and what it can be told from;
* `Backend.Client.heard`, `Backend.Client.said` — what a client says at a call, and what is said in
  a conversation with it;
* `Run.Clean` — **nothing to warn of**.

Main results:

* `Run.told_provisioning` — what a run says by itself;
* `Backend.Client.said_of_success` — **all that is said** when a run succeeds.
-/

import Provisioning.Notice.Filter
import Provisioning.Proofs.Distinct
import Provisioning.Proofs.HttpRun
import Provisioning.Proofs.Postconditions

set_option relaxedAutoImplicit false
set_option autoImplicit false

namespace Provisioning

open Cluster (Kind Order Descriptor)
open Workflow (Event Talk talks noticesAmong noting entering calling Postcondition Meets)

/-! ### Minor notices -/

namespace Notice

/-- **A notice that is not shown** unless more is asked for. -/
def Minor (n : Notice) : Prop := Severity.warn.rank < n.severity.rank

instance (n : Notice) : Decidable n.Minor :=
  inferInstanceAs (Decidable (Severity.warn.rank < n.severity.rank))

theorem minor_of_info {n : Notice} (h : n.severity = .info) : n.Minor := by
  rw [Minor, h]
  decide

theorem minor_of_debug {n : Notice} (h : n.severity = .debug) : n.Minor := by
  rw [Minor, h]
  decide

/-- A notice that is shown is a warning or an error. -/
theorem severity_eq_warn {n : Notice} (hshown : ¬ n.Minor) (herror : n.severity ≠ .error) :
    n.severity = .warn := by
  rw [Minor] at hshown
  cases hseverity : n.severity with
  | error => exact absurd hseverity herror
  | warn => rfl
  | info => exact absurd (by rw [hseverity]; decide) hshown
  | debug => exact absurd (by rw [hseverity]; decide) hshown
  | trace => exact absurd (by rw [hseverity]; decide) hshown

/-- Without a word on notices, those are shown that are not minor, in the course of a run or not. -/
theorem admits_ofVerbosity_zero (run : Option RunId) (n : Notice) :
    (Filter.ofVerbosity 0).admits run n = !decide n.Minor := by
  cases run with
  | none => cases n <;> rfl
  | some id => cases n <;> rfl

/-- And it is not shown in the course of which run they were given. -/
theorem follows_ofVerbosity_zero : (Filter.ofVerbosity 0).follows = false := rfl

end Notice

/-! ### What a run says by itself -/

namespace Run

/-- A call on the way to a success: a cluster was created, and nothing is compensated. -/
def Succeeds : Talk → Prop
  | ⟨.create _, reply⟩ => reply.isOk = true
  | ⟨.compensate _ _, _⟩ => False
  | ⟨.status _, _⟩ | ⟨.sleep _, _⟩ => True

/-- A call that is not a question without an answer. -/
def Heard : Talk → Prop
  | ⟨.status _, reply⟩ => reply.isOk = true
  | ⟨.create _, _⟩ | ⟨.sleep _, _⟩ | ⟨.compensate _ _, _⟩ => True

/-- **What is said on the way to a success**: no error, and a warning just if a question was not
answered, or something came late. -/
structure Told (calls : List Talk) (notices : List Notice) (late : Prop) : Prop where
  succeed : ∀ talk ∈ calls, Succeeds talk
  no_error : ∀ n ∈ notices, n.severity ≠ .error
  minor_iff : (∀ n ∈ notices, n.Minor) ↔ (∀ talk ∈ calls, Heard talk) ∧ ¬ late

section Told

variable {calls more : List Talk} {notices others : List Notice} {late later : Prop}

theorem told_nil : Told [] [] False := ⟨nofun, nofun, by simp⟩

theorem Told.append (h : Told calls notices late) (hmore : Told more others later) :
    Told (calls ++ more) (notices ++ others) (late ∨ later) where
  succeed := List.forall_mem_append.mpr ⟨h.succeed, hmore.succeed⟩
  no_error := List.forall_mem_append.mpr ⟨h.no_error, hmore.no_error⟩
  minor_iff := by
    rw [List.forall_mem_append, List.forall_mem_append, h.minor_iff, hmore.minor_iff, not_or]
    tauto

/-- A minor notice, whenever it is given. -/
theorem told_minor {n : Notice} (h : n.Minor) : Told [] [n] False where
  succeed := nofun
  no_error := List.forall_mem_singleton.mpr fun herror => by
    rw [Notice.Minor, herror] at h
    exact absurd h (by decide)
  minor_iff := by simp [h]

/-- A call of which nothing is said. -/
theorem told_call {talk : Talk} (hsucceeds : Succeeds talk) (hheard : Heard talk) :
    Told [talk] [] False := ⟨by simpa, nofun, by simpa⟩

theorem Told.congr (h : Told calls notices late) (hiff : late ↔ later) :
    Told calls notices later := ⟨h.succeed, h.no_error, by rw [h.minor_iff, hiff]⟩

/-- Behind something that was told, without anything late in it. -/
theorem Told.behind (h : Told calls notices False) (hmore : Told more others later) :
    Told (calls ++ more) (notices ++ others) later := (h.append hmore).congr (by rw [false_or])

end Told

/-- What is told on the way to a result, of which some say that something came late. -/
def Tells {α : Type} (late : α → Prop) : Postcondition α :=
  fun calls notices a => Told calls notices (late a)

section Tells

variable {α β : Type} {w : Workflow α} {f : α → Workflow β}

/-- A workflow behind one in which nothing came late. -/
theorem tells_bind {late : β → Prop} (h : w.Meets (Tells fun _ => False))
    (hf : ∀ a, (f a).Meets (Tells late)) : (w >>= f).Meets (Tells late) :=
  h.bind fun _ _ a htold => (hf a).imp fun _ _ _ hmore => htold.behind hmore

/-- And one that may end the run. -/
theorem tells_bind_steps {f : α → Workflow (Except Failure β)} {late : β → Prop}
    (h : w.Meets (Tells fun _ => False)) (hf : ∀ a, (f a).Meets (OnSuccess (Tells late))) :
    (w >>= f).Meets (OnSuccess (Tells late)) :=
  h.bind fun _ _ a htold => (hf a).imp fun _ _ _ hmore b hb => htold.behind (hmore b hb)

theorem tells_noting {n : Notice} (h : n.Minor) : (noting n).Meets (Tells fun _ => False) :=
  Workflow.meets_noting (told_minor h)

theorem tells_entering (state : ProvisioningState) :
    (entering state).Meets (Tells fun _ => False) :=
  Workflow.meets_entering (told_minor (Notice.minor_of_info rfl))

end Tells

/-- A question: it is said if it was not answered. -/
theorem tells_ask (cluster : String) : (Poll.ask cluster).Meets (Tells fun _ => False) := by
  intro reply
  cases reply with
  | ok state => exact told_call trivial rfl
  | error e => exact ⟨by simp [Succeeds], by simp [Notice.severity], by
      simp [Heard, Except.isOk, Except.toBool, Notice.Minor, Notice.severity]⟩

/-- **A wait**: only its questions matter.  The induction is on the retries that are left. -/
theorem tells_waitFrom (polling : Readiness.Polling) (cluster : String) (asked : UInt32)
    (remaining : Nat) :
    (Poll.waitFrom polling cluster asked remaining).Meets (Tells fun _ => False) := by
  have hrunning : (noting (.running cluster (asked + 1))).Meets (Tells fun _ => False) :=
    tells_noting (Notice.minor_of_debug rfl)
  induction remaining generalizing asked with
  | zero =>
      rw [Poll.waitFrom.eq_def]
      refine tells_bind (tells_ask cluster) fun state => ?_
      by_cases hr : state = .running
      · rw [if_pos hr]
        exact tells_bind hrunning fun _ => told_nil
      · rw [if_neg hr]
        exact told_nil
  | succ remaining ih =>
      rw [Poll.waitFrom.eq_def]
      refine tells_bind (tells_ask cluster) fun state => ?_
      by_cases hr : state = .running
      · rw [if_pos hr]
        exact tells_bind hrunning fun _ => told_nil
      · rw [if_neg hr]
        refine tells_bind (tells_noting (Notice.minor_of_debug rfl)) fun _ => ?_
        refine tells_bind (Workflow.meets_calling fun _ => told_call trivial trivial) fun _ => ?_
        exact ih (asked + 1) (tells_noting (Notice.minor_of_debug rfl))

/-- The end of a wait: if the run goes on without the cluster, it says so. -/
theorem tells_judge (settings : Settings) (earlier : List StageReport) (order : Order)
    (name : String) (waited : Except Readiness.Timeout UInt32) :
    (judge settings earlier order name waited).Meets
      (OnSuccess (Tells fun report => report.readiness.isTimedOut = true)) := by
  cases waited with
  | ok attempts =>
      intro report hreport
      obtain rfl := Except.ok.inj hreport
      exact told_nil.congr (by simp [Readiness.isTimedOut])
  | error timeout =>
      rw [judge]
      cases settings.policy with
      | fail => exact meets_abort_bind _ _ _ _
      | proceed =>
          intro report hreport
          obtain rfl := Except.ok.inj hreport
          exact ⟨List.forall_mem_nil _, by simp [Notice.severity], by
            simp [Notice.Minor, Notice.severity, Readiness.isTimedOut]⟩

/-- **A stage**: besides its questions, only a cluster that came late is said. -/
theorem tells_establish (settings : Settings) (earlier : List StageReport) (order : Order) :
    (establish settings earlier order).run.Meets
      (OnSuccess (Tells fun report => report.readiness.isTimedOut = true)) := by
  rw [run_establish]
  refine tells_bind_steps (tells_entering _) fun _ => fun reply => ?_
  cases reply with
  | error e => exact meets_abort_bind _ _ _ _
  | ok name =>
      -- Of the create call nothing is said here: that is left to the client.
      have hrest : (do
          entering (.awaiting order.kind)
          judge settings earlier order name (← Poll.wait settings.polling name)).Meets
            (OnSuccess (Tells fun report => report.readiness.isTimedOut = true)) :=
        tells_bind_steps (tells_entering _) fun _ =>
          tells_bind_steps (tells_waitFrom _ _ _ _) fun _ => tells_judge _ _ _ _ _
      have hcreated : Told [⟨.create order, .ok name⟩] [] False := told_call rfl trivial
      exact hrest.imp fun _ _ _ htold report hreport => hcreated.behind (htold report hreport)

/-- **What a run says by itself.** -/
theorem tells_workflow (settings : Settings) (r : Request) (port : UInt16) (a : Allotment) :
    (workflow settings r port a).Meets (OnSuccess (Tells fun workspace =>
      ∃ s ∈ workspace.stages, s.readiness.isTimedOut = true)) := by
  rw [workflow, stages, run_lift_bind]
  refine tells_bind_steps (tells_noting (Notice.minor_of_info rfl)) fun _ => ?_
  refine meets_steps_bind (tells_establish _ _ _) fun _ _ coordination hcoordination => ?_
  refine meets_steps_bind (tells_establish _ _ _) fun _ _ broker hbroker => ?_
  refine meets_steps_bind (tells_establish _ _ _) fun _ _ worker hworker => ?_
  intro workspace hworkspace
  obtain rfl := Except.ok.inj hworkspace
  have hcomplete := (told_minor (Notice.minor_of_info (n := .stateChanged .complete) rfl)).behind
    (told_minor (Notice.minor_of_info (n := .ready coordination.cluster.name broker.cluster.name
      worker.cluster.name) rfl))
  exact (hcoordination.append (hbroker.append (hworker.append hcomplete))).congr (by simp)

/-- **What the run of a caller says by itself.** -/
theorem tells_provisioning (settings : Settings) (r : Request) (port : UInt16) (a : Allotment) :
    (provisioning settings r port a).Meets fun calls notices answer =>
      ∀ workspace, answer = .ok workspace → Told calls notices (workspace.timedOut ≠ []) := by
  refine (tells_workflow settings r port a).bind fun calls notices result htold => ?_
  cases result with
  | error f => nofun
  | ok workspace =>
      intro other hother
      obtain rfl := Except.ok.inj hother
      simp only [List.append_nil]
      refine (htold workspace rfl).congr ?_
      simp [Workspace.timedOut]

end Run

/-! ### What a client says -/

namespace Backend

/-- What is noted of a planned call when its request ends as given. -/
def Planned.notices {α : Type} (exchange : HttpRequest → Exchange) :
    Except CallError (Planned α) → List Notice
  | .error _ => []
  | .ok planned => (planned.conclude (exchange planned.request)).2

/-- **What a client says at a call**, after the requests that were sent. -/
def Client.heard (c : Client) (backend : Responder) (sent : List HttpRequest) : Call → List Notice
  | .create o => c.createNotice o :: Planned.notices (backend sent) (c.create o)
  | .status cluster => Planned.notices (backend sent) (c.status cluster)
  | .sleep _ => []
  | .compensate stage created => Compensation.leaveRunning stage created

/-- What is said at an event, after those before it. -/
def Client.saidAt (c : Client) (backend : Responder) (before : List Event) : Event → List Notice
  | .published _ => []
  | .noted n => [n]
  | .called call => c.heard backend (c.requests before) call

/-- **What is said at events**, by the run and by its client, after the events in `before`. -/
def Client.said (c : Client) (backend : Responder) : (before events : List Event) → List Notice
  | _, [] => []
  | before, event :: rest =>
    c.saidAt backend before event ++ c.said backend (before ++ [event]) rest

variable {c : Client} {backend : Responder}

/-- What is said at events is said at one of them. -/
theorem Client.mem_said_iff {before events : List Event} {n : Notice} :
    n ∈ c.said backend before events ↔ ∃ pre event post, events = pre ++ event :: post ∧
      n ∈ c.saidAt backend (before ++ pre) event := by
  induction events generalizing before with
  | nil => simp [said]
  | cons event rest ih =>
      rw [said, List.mem_append, ih]
      constructor
      · rintro (h | ⟨pre, other, post, rfl, h⟩)
        · exact ⟨[], event, rest, rfl, by rwa [List.append_nil]⟩
        · exact ⟨event :: pre, other, post, rfl, by rwa [List.append_cons]⟩
      · rintro ⟨pre, other, post, hsplit, h⟩
        cases pre with
        | nil =>
            obtain ⟨rfl, rfl⟩ := List.cons.inj hsplit
            rw [List.append_nil] at h
            exact .inl h
        | cons first pre =>
            obtain ⟨rfl, rfl⟩ := List.cons.inj hsplit
            rw [List.append_cons] at h
            exact .inr ⟨pre, other, post, rfl, h⟩

/-- All that is said: the notices of the run, and what its client says at the calls. -/
theorem Client.forall_mem_said_iff {events : List Event} {p : Notice → Prop} :
    (∀ n ∈ c.said backend [] events, p n) ↔ (∀ n ∈ noticesAmong events, p n) ∧
      ∀ pre call post, events = pre ++ .called call :: post →
        ∀ n ∈ c.heard backend (c.requests pre) call, p n := by
  constructor
  · intro h
    constructor
    · intro n hn
      obtain ⟨pre, post, hsplit⟩ := List.append_of_mem (Workflow.noted_mem_iff.mpr hn)
      exact h n (mem_said_iff.mpr ⟨pre, _, post, hsplit, List.mem_singleton.mpr rfl⟩)
    · exact fun pre call post hsplit n hn => h n (mem_said_iff.mpr ⟨pre, _, post, hsplit, hn⟩)
  · rintro ⟨hnoted, hheard⟩ n hn
    obtain ⟨pre, event, post, hsplit, hsaid⟩ := mem_said_iff.mp hn
    cases event with
    | published state => cases hsaid
    | noted other =>
        obtain rfl := List.mem_singleton.mp hsaid
        refine hnoted n (Workflow.noted_mem_iff.mp ?_)
        rw [hsplit]
        exact List.mem_append_right _ List.mem_cons_self
    | called call => exact hheard pre call post hsplit n hsaid

/-! ### What is said of answers -/

/-- Of an answer with a payload nothing is said, and of another a warning at most. -/
theorem payload_notices (endpoint : String) (url : Url) (e : Exchange) :
    (∀ v, (payload endpoint url e).1 = .ok v → (payload endpoint url e).2 = []) ∧
      ∀ n ∈ (payload endpoint url e).2, n.severity = .warn := by
  rw [payload]
  unfold Response.payload
  split
  · exact ⟨nofun, nofun⟩
  · exact ⟨nofun, nofun⟩
  · exact ⟨nofun, nofun⟩
  · split
    · exact ⟨nofun, nofun⟩
    · split
      · exact ⟨nofun, nofun⟩
      · exact ⟨nofun, nofun⟩
      · split
        · exact ⟨fun _ _ => rfl, nofun⟩
        · exact ⟨nofun, List.forall_mem_singleton.mpr rfl⟩

/-- Of an answer with a state nothing is said, and of another a warning at most. -/
theorem statusConclusion_notices (endpoint : String) (url : Url) (e : Exchange) :
    (∀ state, (statusConclusion endpoint url e).1 = .ok state →
      (statusConclusion endpoint url e).2 = []) ∧
      ∀ n ∈ (statusConclusion endpoint url e).2, n.severity = .warn := by
  obtain ⟨hok, hwarn⟩ := payload_notices endpoint url e
  rw [statusConclusion]
  split
  · rename_i hpayload
    rw [hpayload] at hwarn
    exact ⟨nofun, hwarn⟩
  · rename_i hpayload
    rw [hpayload] at hok hwarn
    exact ⟨fun _ _ => hok _ rfl, hwarn⟩
  · rename_i hpayload
    rw [hpayload] at hok hwarn
    split
    · exact ⟨nofun, hwarn⟩
    · exact ⟨fun _ _ => hok _ rfl, hwarn⟩

/-- A cluster gets the name that was ordered, or it is said that it has another. -/
theorem resolvedName_notices (kind : Kind) (ordered : String) (given : Option String) :
    (resolvedName kind ordered given).2 = if (resolvedName kind ordered given).1 = ordered then []
      else [.renamed kind ordered (resolvedName kind ordered given).1] := by
  rw [resolvedName]
  split
  · rw [if_pos rfl]
  · rfl

/-- Of a cluster that was created it is said if it was renamed, and of any other answer a warning at
most. -/
theorem createConclusion_notices (o : Order) (url : Url) (e : Exchange) :
    (∀ name, (createConclusion o url e).1 = .ok name → (createConclusion o url e).2 =
      if name = o.name then [] else [.renamed o.kind o.name name]) ∧
      ∀ n ∈ (createConclusion o url e).2, n.severity = .warn := by
  obtain ⟨hok, hwarn⟩ := payload_notices o.kind.resource url e
  rw [createConclusion]
  split
  · rename_i hpayload
    rw [hpayload] at hwarn
    exact ⟨nofun, hwarn⟩
  · rename_i hpayload
    rw [hpayload] at hok hwarn
    split
    · exact ⟨nofun, hwarn⟩
    · rename_i given _
      have hnotices := resolvedName_notices o.kind o.name given
      obtain rfl := hok _ rfl
      constructor
      · intro name hname
        obtain rfl := Except.ok.inj hname
        exact hnotices
      · intro n hn
        replace hn : n ∈ (resolvedName o.kind o.name given).2 := hn
        rw [hnotices] at hn
        split at hn
        · cases hn
        · obtain rfl := List.mem_singleton.mp hn
          rfl

/-- Of a question that is answered nothing is said. -/
theorem Client.heard_status {before : List Event} {cluster : String}
    {state : Cluster.ContainerState}
    (h : (c.environment backend).answer before (.status cluster) = .ok state) :
    c.heard backend (c.requests before) (.status cluster) = [] := by
  simp only [environment, answer] at h
  rw [heard]
  rcases c.status_cases cluster with ⟨endpoint, url, hstatus⟩ | ⟨e, hstatus⟩
  · rw [hstatus] at h ⊢
    exact (statusConclusion_notices endpoint url _).1 state h
  · rw [hstatus] at h
    cases h

/-- Of a cluster that is created the call is said, and that it was renamed. -/
theorem Client.heard_create {before : List Event} {o : Order} {name : String}
    (h : (c.environment backend).answer before (.create o) = .ok name) :
    c.heard backend (c.requests before) (.create o) =
      c.createNotice o :: if name = o.name then [] else [.renamed o.kind o.name name] := by
  simp only [environment, answer] at h
  rw [heard]
  rcases c.create_cases o with ⟨url, -, hcreate⟩ | ⟨-, message, hcreate⟩
  · rw [hcreate] at h ⊢
    exact congrArg _ ((createConclusion_notices o url _).1 name h)
  · rw [hcreate] at h
    cases h

/-- A client says no error. -/
theorem Client.heard_no_error (sent : List HttpRequest) (call : Call) :
    ∀ n ∈ c.heard backend sent call, n.severity ≠ .error := by
  have hwarn {n : Notice} (h : n.severity = .warn) : n.severity ≠ .error := by
    rw [h]
    decide
  cases call with
  | create o =>
      refine List.forall_mem_cons.mpr ⟨nofun, fun n hn => hwarn ?_⟩
      rcases c.create_cases o with ⟨url, -, hcreate⟩ | ⟨-, message, hcreate⟩
      · rw [hcreate] at hn
        exact (createConclusion_notices o url _).2 n hn
      · rw [hcreate] at hn
        cases hn
  | status cluster =>
      intro n hn
      rw [heard] at hn
      rcases c.status_cases cluster with ⟨endpoint, url, hstatus⟩ | ⟨e, hstatus⟩
      · rw [hstatus] at hn
        exact hwarn ((statusConclusion_notices endpoint url _).2 n hn)
      · rw [hstatus] at hn
        cases hn
  | sleep ms => nofun
  | compensate stage created =>
      intro n hn
      rw [heard, Compensation.leaveRunning] at hn
      split at hn
      · cases hn
      · obtain rfl := List.mem_singleton.mp hn
        exact hwarn rfl

end Backend

/-! ### All that is said -/

/-- **Nothing to warn of**: every cluster has the name that was ordered, every question was
answered, and no cluster came late. -/
structure Run.Clean (calls : List Talk) (workspace : Run.Workspace) : Prop where
  kept : Run.NamesKept calls
  answered : ∀ (cluster : String) (reply : Except Backend.CallError Cluster.ContainerState),
    (⟨.status cluster, reply⟩ : Talk) ∈ calls → reply.isOk = true
  in_time : workspace.timedOut = []

/-- **All that is said when a run succeeds**: no error, and no warning just if there is nothing to
warn of. -/
theorem Backend.Client.said_of_success (c : Client) (backend : Responder) (settings : Run.Settings)
    (r : Request) (port : UInt16) (a : Allotment) {workspace : Run.Workspace}
    (hsuccess : ((provisioning settings r port a).run (c.environment backend) []).2 =
      .ok workspace) :
    let w := provisioning settings r port a
    let env := c.environment backend
    let said := c.said backend [] (w.run env []).1
    (∀ n ∈ said, n.severity ≠ .error) ∧
      ((∀ n ∈ said, n.Minor) ↔ Run.Clean (talks (w.acts env [])) workspace) := by
  intro w env said
  obtain ⟨notices, hnotices, htold⟩ := (Run.tells_provisioning settings r port a).run env []
  obtain ⟨hsucceed, hno_error, hminor⟩ := htold workspace hsuccess
  have hnotices : noticesAmong (w.run env []).1 = notices := hnotices
  rw [forall_mem_said_iff, forall_mem_said_iff, hnotices, hminor]
  refine ⟨⟨hno_error, fun pre call _ _ => c.heard_no_error _ call⟩, ?_, ?_⟩
  · rintro ⟨⟨hheard, hlate⟩, hsaid⟩
    refine ⟨fun o name hcreated => ?_, fun cluster reply hasked => hheard _ hasked,
      not_not.mp hlate⟩
    -- A cluster with another name than was ordered would be said at its create call.
    obtain ⟨pre, post, hsplit, hanswer⟩ := Workflow.exists_call_of_mem_talks hcreated
    by_contra hne
    have hrenamed := hsaid pre _ post hsplit
    rw [heard_create hanswer.symm, if_neg hne] at hrenamed
    exact absurd (hrenamed _ (List.mem_cons_of_mem _ (List.mem_singleton.mpr rfl))) (by
      simp [Notice.Minor, Notice.severity])
  · intro hclean
    refine ⟨⟨?_, not_not.mpr hclean.in_time⟩, fun pre call post hsplit => ?_⟩
    · rintro ⟨call, reply⟩ htalk
      cases call with
      | status cluster => exact hclean.answered cluster reply htalk
      | create o => trivial
      | sleep ms => trivial
      | compensate stage created => trivial
    · -- What the client says at a call is found from the answer, and that is known to be good.
      have htalk := Workflow.mem_talks_of_run hsplit (Nat.zero_le _)
      cases call with
      | create o =>
          cases hanswer : env.answer pre (.create o) with
          | error e =>
              have hok := hsucceed _ htalk
              rw [Run.Succeeds, hanswer] at hok
              cases hok
          | ok name =>
              rw [hanswer] at htalk
              rw [heard_create hanswer, if_pos (hclean.kept o name htalk)]
              exact List.forall_mem_singleton.mpr (Notice.minor_of_debug rfl)
      | status cluster =>
          cases hanswer : env.answer pre (.status cluster) with
          | error e =>
              have hok := hclean.answered cluster _ htalk
              rw [hanswer] at hok
              cases hok
          | ok state =>
              rw [heard_status hanswer]
              exact nofun
      | sleep ms => nofun
      | compensate stage created => exact (hsucceed _ htalk).elim

end Provisioning
