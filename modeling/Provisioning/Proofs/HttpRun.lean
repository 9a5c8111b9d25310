/-
**Runs over the wire.**

The client of the backend takes part in a run inside a monad, in which requests are sent and notices
are written.  For what can be said about runs this is too much: all that their answers depend on is
how the requests end, and a backend may let a request end as it likes on the strength of the
requests before it.  So a client and a backend together are an environment, which finds the requests
before a call among the events before it, and a run in a monad goes exactly as with this
environment.

A call that cannot be planned sends nothing.  For a create call this is decided by its URL alone,
which has to be one of the web that can be sent.

Main definitions:

* `Workflow.Partner.Follows` — a partner inside a monad that takes part as an environment does;
* `Backend.Client.Reaches` — where the create calls of a kind go;
* `Backend.Client.requests` — the requests that events have sent;
* `Backend.Client.environment` — **a client and a backend** as an environment;
* `Program.World.surroundings` — a world as surroundings.

Main results:

* `Workflow.Partner.Follows.run_runM` — **a run inside a monad** is the run with the environment;
* `Backend.Client.create_cases` — a create call is planned, or it has failed already;
* `Backend.Client.follows_partner` — the client takes part as it and its backend do.
-/

import Provisioning.Program.Transcript
import Provisioning.Proofs.Conversation

set_option relaxedAutoImplicit false
set_option autoImplicit false

namespace Provisioning

/-! ### Runs inside a monad of states -/

namespace Workflow

variable {σ : Type} {partner : Partner (StateM σ)} {env : Environment}
  {Behind : List Event → σ → Prop}

/-- The state after an event, in which a partner takes part. -/
def Partner.after (partner : Partner (StateM σ)) (s : σ) : Event → σ
  | .published state => ((partner.publish state).run s).2
  | .noted notice => ((partner.note notice).run s).2
  | .called call => ((partner.answer call).run s).2

/-- **A partner takes part as an environment does**: it gives the same answers in all states that
stand behind the events so far, and an event leads to such a state again. -/
structure Partner.Follows (partner : Partner (StateM σ)) (env : Environment)
    (Behind : List Event → σ → Prop) : Prop where
  answer_eq (before : List Event) (s : σ) (call : Call) : Behind before s →
    ((partner.answer call).run s).1 = env.answer before call
  after_event (before : List Event) (s : σ) (event : Event) : Behind before s →
    Behind (before ++ [event]) (partner.after s event)

/-- **A run inside a monad** is the run with the environment: it has the same result, and goes from
state to state with its events. -/
theorem Partner.Follows.run_runM (h : partner.Follows env Behind) {α : Type} (w : Workflow α)
    (before : List Event) (s : σ) (hs : Behind before s) :
    ∃ events, (w.run env before).1 = before ++ events ∧
      (w.runM partner).run s = ((w.run env before).2, events.foldl partner.after s) ∧
      Behind (w.run env before).1 (events.foldl partner.after s) := by
  induction w generalizing before s with
  | done a => exact ⟨[], (List.append_nil before).symm, rfl, hs⟩
  | publish state next ih =>
      obtain ⟨events, hevents, hrun, hbehind⟩ :=
        ih _ _ (h.after_event before s (.published state) hs)
      exact ⟨.published state :: events, hevents.trans (List.append_assoc _ _ _), hrun, hbehind⟩
  | note notice next ih =>
      obtain ⟨events, hevents, hrun, hbehind⟩ := ih _ _ (h.after_event before s (.noted notice) hs)
      exact ⟨.noted notice :: events, hevents.trans (List.append_assoc _ _ _), hrun, hbehind⟩
  | await call resume ih =>
      obtain ⟨events, hevents, hrun, hbehind⟩ :=
        ih (env.answer before call) _ _ (h.after_event before s (.called call) hs)
      refine ⟨.called call :: events, hevents.trans (List.append_assoc _ _ _), ?_, hbehind⟩
      have hstep : ((Workflow.await call resume).runM partner).run s =
          ((resume ((partner.answer call).run s).1).runM partner).run
            (partner.after s (.called call)) := rfl
      rw [hstep, h.answer_eq before s call hs]
      exact hrun

end Workflow

namespace Backend

open Cluster (Kind Order)
open Workflow (Event)

/-! ### Where create calls go -/

/-- **Where the create calls of a kind go**: the URL made of the base URL, without user name and
password, if it is one of the web with a host, and can be sent. -/
def Client.Reaches (c : Client) (kind : Kind) (url : Url) : Prop :=
  ∃ u, Url.ofText (c.endpoint kind.resource) = .ok u ∧ u.hasHost = true ∧ u.isWeb = true ∧
    isSendable u.anonymous = true ∧ url = u.anonymous

/-- The request of a create call. -/
def Client.createRequest (c : Client) (o : Order) (url : Url) : HttpRequest where
  method := .post
  url := url
  limitSecs := c.createLimit o.kind
  body := some o.json

/-- There is at most one place where the create calls of a kind go. -/
theorem Client.Reaches.unique {c : Client} {kind : Kind} {url other : Url}
    (h : c.Reaches kind url) (hother : c.Reaches kind other) : url = other := by
  obtain ⟨u, hu, -, -, -, rfl⟩ := h
  obtain ⟨v, hv, -, -, -, rfl⟩ := hother
  obtain rfl := Except.ok.inj (hu.symm.trans hv)
  rfl

/-- **A create call is planned** where it goes anywhere, and otherwise has failed already. -/
theorem Client.create_cases (c : Client) (o : Order) :
    (∃ url, c.Reaches o.kind url ∧
      c.create o = .ok ⟨c.createRequest o url, createConclusion o url⟩) ∨
    ((∀ url, ¬ c.Reaches o.kind url) ∧ ∃ message, c.create o = .error (.http message)) := by
  rw [create, collectionUrl]
  cases hurl : Url.ofText (c.endpoint o.kind.resource) with
  | error e =>
      refine .inr ⟨?_, _, rfl⟩
      rintro url ⟨u, hu, -⟩
      cases hurl.symm.trans hu
  | ok u =>
      simp only [bind, Except.bind, sendableUrl]
      cases hgood : u.anonymous.hasHost && u.anonymous.isWeb && isSendable u.anonymous with
      | true =>
          rw [Bool.and_eq_true, Bool.and_eq_true] at hgood
          exact .inl ⟨_, ⟨u, hurl, hgood.1.1, hgood.1.2, hgood.2, rfl⟩, rfl⟩
      | false =>
          refine .inr ⟨?_, _, rfl⟩
          rintro url ⟨v, hv, hhost, hweb, hsend, rfl⟩
          obtain rfl := Except.ok.inj (hurl.symm.trans hv)
          have hall := Bool.and_eq_true_iff.mpr ⟨Bool.and_eq_true_iff.mpr ⟨hhost, hweb⟩, hsend⟩
          cases hgood.symm.trans hall

/-- The request of a status call. -/
def Client.statusRequest (c : Client) (url : Url) : HttpRequest where
  method := .get
  url := url
  limitSecs := c.requestLimitSecs
  body := none

/-- A status call is planned, or it has failed already. -/
theorem Client.status_cases (c : Client) (cluster : String) :
    (∃ endpoint url,
      c.status cluster = .ok ⟨c.statusRequest url, statusConclusion endpoint url⟩) ∨
    ∃ e, c.status cluster = .error e := by
  rw [status]
  cases c.containersUrl cluster with
  | error e => exact .inr ⟨e, rfl⟩
  | ok url =>
      simp only [bind, Except.bind]
      cases sendableUrl url with
      | error e => exact .inr ⟨e, rfl⟩
      | ok sendable => exact .inl ⟨url.pathString, sendable, rfl⟩

/-! ### The environment -/

/-- What comes of the requests of calls, after those before them. -/
abbrev Responder := List HttpRequest → HttpRequest → Exchange

/-- The request of a planned call. -/
def Planned.request? {α : Type} : Except CallError (Planned α) → Option HttpRequest
  | .error _ => none
  | .ok planned => some planned.request

/-- What a planned call comes to, when its request ends as given. -/
def Planned.outcome {α : Type} (exchange : HttpRequest → Exchange) :
    Except CallError (Planned α) → Except CallError α
  | .error e => .error e
  | .ok planned => (planned.conclude (exchange planned.request)).1

/-- The request that a call sends. -/
def Client.request? (c : Client) : Call → Option HttpRequest
  | .create o => Planned.request? (c.create o)
  | .status cluster => Planned.request? (c.status cluster)
  | .sleep _ | .compensate _ _ => none

/-- The requests that events have sent. -/
def Client.requests (c : Client) (events : List Event) : List HttpRequest :=
  events.filterMap fun event => event.call?.bind c.request?

/-- What a call is answered with, after the requests that were sent. -/
def Client.answer (c : Client) (backend : Responder) (sent : List HttpRequest) :
    (call : Call) → call.Answer
  | .create o => Planned.outcome (backend sent) (c.create o)
  | .status cluster => Planned.outcome (backend sent) (c.status cluster)
  | .sleep _ => ()
  | .compensate _ _ => ()

/-- **A client and a backend** as an environment. -/
def Client.environment (c : Client) (backend : Responder) : Workflow.Environment where
  answer before := c.answer backend (c.requests before)

theorem Client.requests_called (c : Client) (before : List Event) (call : Call) :
    c.requests (before ++ [.called call]) = c.requests before ++ (c.request? call).toList := by
  cases h : c.request? call with
  | none => simp [requests, h]
  | some r => simp [requests, h]

theorem Client.requests_published (c : Client) (before : List Event) (state : ProvisioningState) :
    c.requests (before ++ [.published state]) = c.requests before := by
  simp [requests]

theorem Client.requests_noted (c : Client) (before : List Event) (notice : Notice) :
    c.requests (before ++ [.noted notice]) = c.requests before := by
  simp [requests]

/-! ### The client inside a monad -/

/-- Surroundings with a state in which the requests that calls have sent can be found: of a request
comes what the backend lets come of it, and nothing else sends one. -/
structure Surroundings (σ : Type) (backend : Responder) where
  exchange : HttpRequest → StateM σ Exchange
  sleep : UInt64 → StateM σ Unit
  note : Notice → StateM σ Unit
  sent : σ → List HttpRequest
  exchange_result (r : HttpRequest) (s : σ) : ((exchange r).run s).1 = backend (sent s) r
  exchange_sent (r : HttpRequest) (s : σ) : sent ((exchange r).run s).2 = sent s ++ [r]
  sleep_sent (ms : UInt64) (s : σ) : sent ((sleep ms).run s).2 = sent s
  note_sent (n : Notice) (s : σ) : sent ((note n).run s).2 = sent s

variable {σ : Type} {backend : Responder}

theorem Surroundings.forM_note_sent (around : Surroundings σ backend) (notices : List Notice)
    (s : σ) : around.sent ((notices.forM around.note).run s).2 = around.sent s := by
  induction notices generalizing s with
  | nil => rfl
  | cons n rest ih =>
      exact (ih _).trans (around.note_sent n s)

/-- Carrying out a planned call: its outcome, and one request more. -/
theorem Surroundings.perform_eq (around : Surroundings σ backend) {α : Type}
    (planned : Except CallError (Planned α)) (s : σ) :
    ((Planned.perform around.exchange around.note planned).run s).1 =
        Planned.outcome (backend (around.sent s)) planned ∧
      around.sent ((Planned.perform around.exchange around.note planned).run s).2 =
        around.sent s ++ (Planned.request? planned).toList := by
  cases planned with
  | error e => exact ⟨rfl, (List.append_nil _).symm⟩
  | ok planned =>
      refine ⟨?_, (around.forM_note_sent _ _).trans (around.exchange_sent planned.request s)⟩
      rw [Planned.outcome, ← around.exchange_result planned.request s]
      rfl

/-- An answer inside the monad, and the request that is sent for it. -/
theorem Surroundings.answer_eq (around : Surroundings σ backend) (c : Client) (call : Call)
    (s : σ) :
    (((c.partner around.exchange around.sleep around.note).answer call).run s).1 =
        c.answer backend (around.sent s) call ∧
      around.sent (((c.partner around.exchange around.sleep around.note).answer call).run s).2 =
        around.sent s ++ (c.request? call).toList := by
  cases call with
  | create o =>
      simp only [Client.partner, Client.answer, Client.request?]
      -- The planned call is only carried out, so it does not matter how it is planned.
      generalize c.create o = planned
      have hperform := around.perform_eq planned ((around.note (c.createNotice o)).run s).2
      rw [around.note_sent] at hperform
      exact hperform
  | status cluster =>
      simp only [Client.partner, Client.answer, Client.request?]
      generalize c.status cluster = planned
      exact around.perform_eq planned s
  | sleep ms => exact ⟨rfl, (around.sleep_sent ms s).trans (List.append_nil _).symm⟩
  | compensate stage created =>
      exact ⟨rfl, (around.forM_note_sent _ s).trans (List.append_nil _).symm⟩

/-- **The client takes part** in a run as the environment of it and its backend does, in any state
whose requests are those of the events so far. -/
theorem Client.follows_partner (c : Client) (around : Surroundings σ backend) :
    (c.partner around.exchange around.sleep around.note).Follows (c.environment backend)
      fun before s => around.sent s = c.requests before where
  answer_eq before s call hs := by
    rw [(around.answer_eq c call s).1, hs]
    rfl
  after_event before s event hs := by
    cases event with
    | published state => exact hs.trans (c.requests_published before state).symm
    | noted notice =>
        exact (around.note_sent notice s).trans (hs.trans (c.requests_noted before notice).symm)
    | called call =>
        rw [c.requests_called, ← hs]
        exact (around.answer_eq c call s).2

end Backend

/-! ### Worlds -/

namespace Program

open Backend (Client Surroundings)

/-- A world as surroundings, whatever is written. -/
def World.surroundings (w : World) (filter : Notice.Filter) (run : Option RunId) :
    Surroundings Transcript w.backend where
  exchange := w.system.exchange
  sleep := w.system.sleep
  note := w.system.note filter run
  sent := Transcript.requests
  exchange_result _ _ := rfl
  exchange_sent _ _ := rfl
  sleep_sent _ _ := rfl
  note_sent n t := by
    rw [System.note]
    split
    · rfl
    · rfl

end Program

end Provisioning
