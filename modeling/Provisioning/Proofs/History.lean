/-
**The history of a provisioner.**

A session is what a provisioner knows between two moments, and that is little: whether it is held,
and whom it would have to answer.  What a caller can rely on is about all that has happened, which
runs began, what each of them did, and in which order it reached the backend.  A **history** keeps
this beside the session.  It is an observer: it learns of a moment only what can be seen of it, who
came and what came out, and it does not look at what the provisioner keeps to itself.

Everything about histories rests on one invariant, `History.Sound`.  A provisioner is either free,
with no run under way and nobody to answer, or it is held by the run that began last; and every run
has done just what the workflow of its request does on the answers it was given.

Main definitions:

* `Moment` — a caller asks for a run, a run's call is answered, a caller gives up its run;
* `Flight` — **a run that began**, with its acts and how it stands;
* `History`, `History.after` — what has happened after some moments;
* `Flight.Faithful` — a run does what its workflow does;
* `History.Sound` — **the invariant**.

Main results:

* `History.Sound.step`, `History.sound_after` — **it holds after all moments**.
-/

import Provisioning.Proofs.Course

set_option relaxedAutoImplicit false
set_option autoImplicit false

namespace Provisioning

open Run (Settings)
open Workflow (Act Event Talk Leads Ends Remark Suspended remarkActs talks leads_advance)

/-! ### Runs that began -/

/-- A moment of a provisioner. -/
inductive Moment where
  /-- A caller asks for a run. -/
  | call (id : CallerId) (r : Request) (allot : Allotter)
  /-- The call of a caller's run is answered. -/
  | reply (id : CallerId) (answer : (call : Call) → call.Answer)
  /-- A caller gives up its run. -/
  | abandon (id : CallerId)

/-- How a run stands. -/
inductive Standing where
  | waiting (call : Call)
  | returned (answer : Answer)
  /-- It was given up at a call. -/
  | abandoned (call : Call)

namespace Standing

/-- How a run stands that was seen to get somewhere. -/
def ofReached : Answer ⊕ Call → Standing
  | .inl answer => .returned answer
  | .inr call => .waiting call

/-- The call that has no answer yet, or never will. -/
def openCall? : Standing → Option Call
  | .waiting call => some call
  | .returned _ => none
  | .abandoned call => some call

end Standing

/-- **A run that began**: who asked for it, what was handed out to it, and what has happened. -/
structure Flight where
  caller : CallerId
  request : Request
  port : UInt16
  allotment : Allotment
  acts : List Act
  standing : Standing

namespace Flight

/-- Whether the run is under way. -/
def inFlight (f : Flight) : Bool :=
  match f.standing with
  | .waiting _ => true
  | _ => false

/-- What the run is meant to do. -/
def workflow (settings : Settings) (f : Flight) : Workflow Answer :=
  provisioning settings f.request f.port f.allotment

/-- What the run did, its open call last. -/
def events (f : Flight) : List Event :=
  f.acts.map Act.event ++ f.standing.openCall?.toList.map .called

/-- The part of a log that belongs to the run. -/
def block (f : Flight) : List (CallerId × Event) := f.events.map fun event => (f.caller, event)

/-- The answered calls of the run. -/
def talks (f : Flight) : List Talk := Workflow.talks f.acts

/-- **A run does what its workflow does**: its request is valid, and its acts lead the workflow to
the answer that was returned, or to the call at which it waits or was given up. -/
def Faithful (settings : Settings) (f : Flight) : Prop :=
  f.request.validate = .ok f.port ∧
    match f.standing with
    | .returned answer => Ends (f.workflow settings) f.acts answer
    | .waiting call | .abandoned call =>
      ∃ resume, Leads (f.workflow settings) f.acts (.inr ⟨call, resume⟩)

end Flight

/-! ### The observer -/

/-- What is seen of a moment, apart from notices: the states that are published, and the call that
a run makes. -/
def Session.Outcome.events (o : Session.Outcome) : List Event :=
  (remarkActs o.remarks).map Act.event ++
    (Standing.ofReached o.reached).openCall?.toList.map .called

namespace Flight

/-- The run that a caller is seen to begin.  None begins on an invalid request, and none where the
caller is turned away. -/
def begun? (id : CallerId) (r : Request) (allot : Allotter) (o : Session.Outcome) :
    Option Flight :=
  match r.validate, o.reached with
  | .error _, _ => none
  | .ok _, .inl (.error .busy) => none
  | .ok port, reached => some {
      caller := id
      request := r
      port
      allotment := allot port r.serviceName
      acts := remarkActs o.remarks
      standing := .ofReached reached }

/-- A run at its first call. -/
def started (id : CallerId) (r : Request) (port : UInt16) (a : Allotment) : Flight where
  caller := id
  request := r
  port
  allotment := a
  acts := [.published (.creating .coordinationService)]
  standing := .waiting (.create (Run.coordinationServiceOrder r port a))

/-- A run that went on after the answer to its call. -/
def goneOn (f : Flight) (call : Call) (answer : call.Answer) (o : Session.Outcome) : Flight :=
  { f with
    acts := f.acts ++ .answered call answer :: remarkActs o.remarks
    standing := .ofReached o.reached }

/-- A run, when the call of a caller's run was answered. -/
def replied (id : CallerId) (answer : (call : Call) → call.Answer) (o : Session.Outcome)
    (f : Flight) : Flight :=
  match f.standing with
  | .waiting call =>
    if f.caller = id then
      { f with
        acts := f.acts ++ .answered call (answer call) :: remarkActs o.remarks
        standing := .ofReached o.reached }
    else f
  | _ => f

/-- A run, when a caller gave up. -/
def dropped (id : CallerId) (f : Flight) : Flight :=
  match f.standing with
  | .waiting call => if f.caller = id then { f with standing := .abandoned call } else f
  | _ => f

end Flight

/-- What has happened to a provisioner: the runs in the order in which they began, and one log of
all that was seen, with the caller it was seen of. -/
structure History where
  session : Session
  flights : List Flight := []
  log : List (CallerId × Event) := []

namespace History

/-- Nothing has happened yet. -/
def opened (settings : Settings) : History where
  session := { settings }

/-- One moment more. -/
def step (h : History) : Moment → History
  | .call id r allot =>
    let (outcome, session) := h.session.call id r allot
    { session
      flights := h.flights ++ (Flight.begun? id r allot outcome).toList
      log := h.log ++ outcome.events.map fun event => (id, event) }
  | .reply id answer =>
    match h.session.reply id answer with
    | (none, session) => { h with session }
    | (some outcome, session) =>
      { session
        flights := h.flights.map (Flight.replied id answer outcome)
        log := h.log ++ outcome.events.map fun event => (id, event) }
  | .abandon id =>
    { h with
      session := h.session.abandon id
      flights := h.flights.map (Flight.dropped id) }

/-- **What has happened** after some moments. -/
def after (settings : Settings) (moments : List Moment) : History :=
  moments.foldl step (opened settings)

end History

namespace Flight

/-- A run that is over stays as it is, whoever is answered. -/
theorem replied_of_not_in_flight (id : CallerId) (answer : (call : Call) → call.Answer)
    (o : Session.Outcome) {f : Flight} (hf : f.inFlight = false) : f.replied id answer o = f := by
  rcases hs : f.standing with call | answer | call
  · simp [inFlight, hs] at hf
  · simp [replied, hs]
  · simp [replied, hs]

/-- A run that is over stays as it is, whoever gives up. -/
theorem dropped_of_not_in_flight (id : CallerId) {f : Flight} (hf : f.inFlight = false) :
    f.dropped id = f := by
  rcases hs : f.standing with call | answer | call
  · simp [inFlight, hs] at hf
  · simp [dropped, hs]
  · simp [dropped, hs]

end Flight

/-- **Every run follows a course**: to its end if it has returned, and otherwise as far as the call
that has no answer. -/
theorem Flight.Faithful.exists_course {settings : Settings} {f : Flight}
    (hf : f.Faithful settings) :
    ∃ more result, Run.Course settings f.request f.port f.allotment (f.acts ++ more) result ∧
      match f.standing with
      | .returned answer => more = [] ∧ answer = answerOf result
      | .waiting call | .abandoned call => ∃ answer rest, more = .answered call answer :: rest := by
  have hopen (call : Call) (resume : call.Answer → Workflow Answer)
      (hleads : Leads (f.workflow settings) f.acts (.inr ⟨call, resume⟩)) :
      ∃ answer rest result, Run.Course settings f.request f.port f.allotment
        (f.acts ++ .answered call answer :: rest) result := by
    obtain ⟨rest, _, hends⟩ := hleads.exists_ends (Workflow.anyAnswer call)
    obtain ⟨result, hcourse, _⟩ := ends_provisioning_iff.mp hends
    exact ⟨_, rest, result, hcourse⟩
  obtain ⟨_, hstanding⟩ := hf
  cases hs : f.standing with
  | returned answer =>
      rw [hs] at hstanding
      obtain ⟨result, hcourse, hanswer⟩ := ends_provisioning_iff.mp hstanding
      exact ⟨[], result, by rwa [List.append_nil], rfl, hanswer⟩
  | waiting call =>
      rw [hs] at hstanding
      obtain ⟨resume, hleads⟩ := hstanding
      obtain ⟨answer, rest, result, hcourse⟩ := hopen call resume hleads
      exact ⟨_, result, hcourse, answer, rest, rfl⟩
  | abandoned call =>
      rw [hs] at hstanding
      obtain ⟨resume, hleads⟩ := hstanding
      obtain ⟨answer, rest, result, hcourse⟩ := hopen call resume hleads
      exact ⟨_, result, hcourse, answer, rest, rfl⟩

/-- A run that has returned followed its course to the end. -/
theorem Flight.Faithful.course_of_returned {settings : Settings} {f : Flight}
    (hf : f.Faithful settings) {answer : Answer} (hstanding : f.standing = .returned answer) :
    ∃ result, Run.Course settings f.request f.port f.allotment f.acts result ∧
      answer = answerOf result := by
  obtain ⟨_, hends⟩ := hf
  rw [hstanding] at hends
  exact ends_provisioning_iff.mp hends

/-! ### What the published state tells -/

/-- The last state that is published among acts. -/
def lastPublished (before : ProvisioningState) (acts : List Act) : ProvisioningState :=
  acts.foldl (fun state act =>
    match act with
    | .published state => state
    | .answered _ _ => state) before

theorem lastPublished_append (before : ProvisioningState) (acts more : List Act) :
    lastPublished before (acts ++ more) = lastPublished (lastPublished before acts) more :=
  List.foldl_append

theorem lastState_eq (before : ProvisioningState) (remarks : List Remark) :
    Session.lastState before remarks = lastPublished before (remarkActs remarks) := by
  induction remarks generalizing before with
  | nil => rfl
  | cons remark remarks ih =>
      cases remark with
      | published state => exact ih state
      | noted notice => exact ih before

/-! ### The invariant -/

namespace History

/-- **Nobody is under way**: the provisioner is not held, and there is nobody to answer. -/
structure Free (h : History) : Prop where
  not_held : h.session.held = false
  none_suspended : h.session.suspended = []
  none_in_flight : ∀ f ∈ h.flights, f.inFlight = false

/-- **One run is under way**, the one that began last: the provisioner is held, and it would answer
that run only, at the call at which it waits. -/
structure Held (h : History) (past : List Flight) (f : Flight) (waiting : Suspended Answer) :
    Prop where
  held : h.session.held = true
  suspended_eq : h.session.suspended = [(f.caller, waiting)]
  flights_eq : h.flights = past ++ [f]
  past_not_in_flight : ∀ g ∈ past, g.inFlight = false
  waits : f.standing = .waiting waiting.call
  leads : Leads (f.workflow h.session.settings) f.acts (.inr waiting)

/-- **The invariant** of histories. -/
structure Sound (settings : Settings) (h : History) : Prop where
  settings_eq : h.session.settings = settings
  faithful : ∀ f ∈ h.flights, f.Faithful settings
  log_eq : h.log = h.flights.flatMap Flight.block
  state_eq : h.session.state = lastPublished .idle (h.flights.flatMap Flight.acts)
  control : h.Free ∨ ∃ past f waiting, h.Held past f waiting

end History

/-! ### One stretch of a run -/

/-- A run begins with the create call of its first cluster. -/
theorem Session.proceed_provisioning (s : Session) (id : CallerId) (settings : Settings)
    (r : Request) (port : UInt16) (a : Allotment) :
    (s.proceed id (provisioning settings r port a)).1.reached =
      .inr (.create (Run.coordinationServiceOrder r port a)) := rfl

/-- A valid request begins a run at a provisioner that is not held. -/
theorem Session.call_of_not_held {s : Session} (hs : s.held = false) (id : CallerId) {r : Request}
    {port : UInt16} (hvalid : r.validate = .ok port) (allot : Allotter) :
    s.call id r allot =
      s.proceed id (provisioning s.settings r port (allot port r.serviceName)) := by
  simp [call, hvalid, hs]

/-- Why a caller with a request would be refused: the request is invalid, or else somebody holds the
provisioner. -/
def Session.refusal? (s : Session) (r : Request) : Option Failure :=
  match r.validate with
  | .error reason => some (.invalid reason)
  | .ok _ => if s.held then some .busy else none

/-- A caller who is refused learns why, and nothing else happens. -/
theorem Session.call_of_refusal {s : Session} {r : Request} {failure : Failure}
    (hrefusal : s.refusal? r = some failure) (id : CallerId) (allot : Allotter) :
    s.call id r allot = (⟨[], .inl (.error failure)⟩, s) := by
  rw [refusal?] at hrefusal
  split at hrefusal
  · rename_i reason hinvalid
    obtain rfl := Option.some.inj hrefusal
    exact s.call_of_invalid id hinvalid allot
  · rename_i port hvalid
    split at hrefusal
    · rename_i hheld
      obtain rfl := Option.some.inj hrefusal
      exact call_of_held hheld id hvalid allot
    · cases hrefusal

/-- There are two reasons to be refused. -/
theorem Session.eq_of_refusal {s : Session} {r : Request} {failure : Failure}
    (hrefusal : s.refusal? r = some failure) :
    failure = .busy ∨ ∃ reason, failure = .invalid reason := by
  rw [refusal?] at hrefusal
  split at hrefusal
  · exact .inr ⟨_, (Option.some.inj hrefusal).symm⟩
  · split at hrefusal
    · exact .inl (Option.some.inj hrefusal).symm
    · cases hrefusal

/-- Who is not refused has a valid request, and comes to a provisioner that is not held. -/
theorem Session.refusal?_eq_none_iff {s : Session} {r : Request} :
    s.refusal? r = none ↔ s.held = false ∧ ∃ port, r.validate = .ok port := by
  rw [refusal?]
  cases r.validate with
  | error reason => simp
  | ok port => simp

/-- **What a stretch of a run leaves behind**, where nobody else is suspended: the run waits and
holds the provisioner, or it is over and has let it go. -/
theorem Session.proceed_spec {s : Session} {id : CallerId}
    (halone : s.suspended.filter (·.1 != id) = []) (w : Workflow Answer) :
    (s.proceed id w).2.settings = s.settings ∧
      (s.proceed id w).2.state = lastPublished s.state (remarkActs (s.proceed id w).1.remarks) ∧
      ((∃ answer, (s.proceed id w).1.reached = .inl answer ∧
          Ends w (remarkActs (s.proceed id w).1.remarks) answer ∧
          (s.proceed id w).2.held = false ∧ (s.proceed id w).2.suspended = []) ∨
        ∃ waiting, (s.proceed id w).1.reached = .inr waiting.call ∧
          Leads w (remarkActs (s.proceed id w).1.remarks) (.inr waiting) ∧
          (s.proceed id w).2.held = true ∧ (s.proceed id w).2.suspended = [(id, waiting)]) := by
  have hadvance := leads_advance w
  rcases hw : w.advance with ⟨remarks, answer | waiting⟩
  · have hproceed : s.proceed id w = (⟨remarks, .inl answer⟩,
        { s with state := lastState s.state remarks, held := false, suspended := [] }) := by
      simp only [proceed, hw, halone]
    rw [hw] at hadvance
    rw [hproceed]
    exact ⟨rfl, lastState_eq _ _, .inl ⟨answer, rfl, hadvance, rfl, rfl⟩⟩
  · have hproceed : s.proceed id w = (⟨remarks, .inr waiting.call⟩,
        { s with
          state := lastState s.state remarks, held := true, suspended := [(id, waiting)] }) := by
      simp only [proceed, hw, halone]
    rw [hw] at hadvance
    rw [hproceed]
    exact ⟨rfl, lastState_eq _ _, .inr ⟨waiting, rfl, hadvance, rfl, rfl⟩⟩

namespace History

variable {settings : Settings}

/-- A run that goes on, `before` and then as far as its next call, leaves a sound history: whether
it has just begun or was answered. -/
theorem Sound.of_proceed {h : History} (s : Session) (past : List Flight) (f : Flight)
    (before : List Act) (w : Workflow Answer)
    (hsession : h.session = (s.proceed f.caller w).2) (hflights : h.flights = past ++ [f])
    (hacts : f.acts = before ++ remarkActs (s.proceed f.caller w).1.remarks)
    (hstanding : f.standing = .ofReached (s.proceed f.caller w).1.reached)
    (halone : s.suspended.filter (·.1 != f.caller) = []) (hsettings : s.settings = settings)
    (hstate : s.state = lastPublished .idle (past.flatMap Flight.acts ++ before))
    (hlog : h.log = h.flights.flatMap Flight.block)
    (hpast : ∀ g ∈ past, g.Faithful settings ∧ g.inFlight = false)
    (hvalid : f.request.validate = .ok f.port)
    (hleads : ∀ more r, Leads w more r → Leads (f.workflow settings) (before ++ more) r) :
    h.Sound settings := by
  obtain ⟨hset, hst, hend⟩ := Session.proceed_spec halone w
  rw [← hsession] at hset hst hend
  have hfaithful : f.Faithful settings := by
    refine ⟨hvalid, ?_⟩
    rcases hend with ⟨answer, hreached, hpiece, _⟩ | ⟨waiting, hreached, hpiece, _⟩
    · rw [hstanding, hreached, Standing.ofReached, hacts]
      exact hleads _ _ hpiece
    · rw [hstanding, hreached, Standing.ofReached, hacts]
      exact ⟨waiting.resume, hleads _ _ hpiece⟩
  refine ⟨hset.trans hsettings, ?_, hlog, ?_, ?_⟩
  -- The runs before are as they were; of the new one it was just shown.
  · intro g hg
    rw [hflights] at hg
    rcases List.mem_append.mp hg with hg | hg
    · exact (hpast g hg).1
    · rw [List.mem_singleton.mp hg]
      exact hfaithful
  · rw [hst, hstate, hflights, List.flatMap_append, List.flatMap_singleton, hacts,
      lastPublished_append, lastPublished_append, lastPublished_append]
  · rcases hend with ⟨answer, hreached, _, hheld, hsusp⟩ | ⟨waiting, hreached, hpiece, hheld, hsusp⟩
    · refine .inl ⟨hheld, hsusp, ?_⟩
      intro g hg
      rw [hflights] at hg
      rcases List.mem_append.mp hg with hg | hg
      · exact (hpast g hg).2
      · rw [List.mem_singleton.mp hg, Flight.inFlight, hstanding, hreached, Standing.ofReached]
    · refine .inr ⟨past, f, waiting, hheld, hsusp, hflights, fun g hg => (hpast g hg).2, ?_, ?_⟩
      · rw [hstanding, hreached, Standing.ofReached]
      · rw [hset, hsettings, hacts]
        exact hleads _ _ hpiece

/-! ### The moments -/

theorem sound_opened (settings : Settings) : (opened settings).Sound settings where
  settings_eq := rfl
  faithful := by simp [opened]
  log_eq := rfl
  state_eq := rfl
  control := .inl ⟨rfl, rfl, by simp [opened]⟩

/-- **Who is refused leaves no trace.** -/
theorem step_call_of_refusal {h : History} {r : Request} {failure : Failure}
    (hrefusal : h.session.refusal? r = some failure) (id : CallerId) (allot : Allotter) :
    h.step (.call id r allot) = h := by
  have hbegun : Flight.begun? id r allot ⟨[], .inl (.error failure)⟩ = none := by
    rw [Session.refusal?] at hrefusal
    rw [Flight.begun?]
    split at hrefusal
    · rename_i reason hinvalid
      rw [hinvalid]
    · rename_i port hvalid
      rw [hvalid]
      split at hrefusal
      · obtain rfl := Option.some.inj hrefusal
        rfl
      · cases hrefusal
  simp only [step, Session.call_of_refusal hrefusal, hbegun, Option.toList_none, List.append_nil]
  simp [Session.Outcome.events, Standing.ofReached, Standing.openCall?]

/-- **What a caller begins** with a valid request at a provisioner that is not held. -/
theorem step_call_of_not_held {h : History} (hfree : h.session.held = false) (id : CallerId)
    {r : Request} {port : UInt16} (hvalid : r.validate = .ok port) (allot : Allotter) :
    let a := allot port r.serviceName
    h.step (.call id r allot) = {
      session := (h.session.proceed id (provisioning h.session.settings r port a)).2
      flights := h.flights ++ [Flight.started id r port a]
      log := h.log ++ (Flight.started id r port a).block } := by
  intro a
  have hbegun : Flight.begun? id r allot
      (h.session.proceed id (provisioning h.session.settings r port a)).1 =
        some (Flight.started id r port a) := by
    rw [Flight.begun?, hvalid, Session.proceed_provisioning]
    rfl
  simp only [step, Session.call_of_not_held hfree id hvalid allot]
  rw [hbegun]
  rfl

/-- A caller whose request is valid begins a run at a provisioner that is free. -/
theorem Sound.step_call_of_free {h : History} (hsound : h.Sound settings) (hfree : h.Free)
    (id : CallerId) {r : Request} {port : UInt16} (hvalid : r.validate = .ok port)
    (allot : Allotter) : (h.step (.call id r allot)).Sound settings := by
  let a := allot port r.serviceName
  rw [step_call_of_not_held hfree.not_held id hvalid allot]
  refine Sound.of_proceed h.session h.flights (Flight.started id r port a) []
    (provisioning h.session.settings r port a) rfl rfl rfl rfl ?_ hsound.settings_eq ?_ ?_ ?_
    hvalid ?_
  · rw [hfree.none_suspended]
    rfl
  · rw [List.append_nil]
    exact hsound.state_eq
  · rw [hsound.log_eq, List.flatMap_append, List.flatMap_singleton]
  · intro g hg
    exact ⟨hsound.faithful g hg, hfree.none_in_flight g hg⟩
  · intro more r hmore
    rw [Flight.workflow, ← hsound.settings_eq]
    exact hmore

/-- The run that began last does what its workflow does. -/
theorem Sound.faithful_of_last {h : History} (hsound : h.Sound settings) {past : List Flight}
    {f : Flight} (hflights : h.flights = past ++ [f]) : f.Faithful settings := by
  refine hsound.faithful f ?_
  rw [hflights]
  exact List.mem_append_right past (List.mem_singleton.mpr rfl)

theorem Held.mem {h : History} {past : List Flight} {f : Flight} {waiting : Suspended Answer}
    (hheld : h.Held past f waiting) : f ∈ h.flights := by
  rw [hheld.flights_eq]
  exact List.mem_append_right past (List.mem_singleton.mpr rfl)

theorem Held.mem_of_past {h : History} {past : List Flight} {f g : Flight}
    {waiting : Suspended Answer} (hheld : h.Held past f waiting) (hg : g ∈ past) :
    g ∈ h.flights := by
  rw [hheld.flights_eq]
  exact List.mem_append_left [f] hg

/-- While a run is under way, all others are over. -/
theorem Held.map_flights {h : History} {past : List Flight} {f : Flight}
    {waiting : Suspended Answer} (hheld : h.Held past f waiting) (g : Flight → Flight)
    (hg : ∀ e : Flight, e.inFlight = false → g e = e) : h.flights.map g = past ++ [g f] := by
  rw [hheld.flights_eq, List.map_append, List.map_singleton]
  congr 1
  exact (List.map_congr_left fun e he => hg e (hheld.past_not_in_flight e he)).trans
    (List.map_id past)

/-- **What the answer to the call of the run under way leads to.** -/
theorem Held.step_reply {h : History} {past : List Flight} {f : Flight}
    {waiting : Suspended Answer} (hheld : h.Held past f waiting)
    (answer : (call : Call) → call.Answer) :
    let w := waiting.resume (answer waiting.call)
    let o := (h.session.proceed f.caller w).1
    h.step (.reply f.caller answer) = {
      session := (h.session.proceed f.caller w).2
      flights := past ++ [f.goneOn waiting.call (answer waiting.call) o]
      log := h.log ++ o.events.map fun event => (f.caller, event) } := by
  intro w o
  have hreply : h.session.reply f.caller answer =
      (some o, (h.session.proceed f.caller w).2) := by
    simp [Session.reply, Session.waiting?, hheld.suspended_eq, w, o]
  have hreplied : f.replied f.caller answer o =
      f.goneOn waiting.call (answer waiting.call) o := by
    simp [Flight.replied, Flight.goneOn, hheld.waits]
  simp only [step, hreply]
  rw [hheld.map_flights _ fun e he => Flight.replied_of_not_in_flight _ _ _ he, hreplied]

theorem Held.flights_step_reply {h : History} {past : List Flight} {f : Flight}
    {waiting : Suspended Answer} (hheld : h.Held past f waiting)
    (answer : (call : Call) → call.Answer) :
    (h.step (.reply f.caller answer)).flights =
      past ++ [f.goneOn waiting.call (answer waiting.call)
        (h.session.proceed f.caller (waiting.resume (answer waiting.call))).1] :=
  congrArg History.flights (hheld.step_reply answer)

/-- The answer to the call of the run under way. -/
theorem Sound.step_reply_of_held {h : History} (hsound : h.Sound settings) {past : List Flight}
    {f : Flight} {waiting : Suspended Answer} (hheld : h.Held past f waiting)
    (answer : (call : Call) → call.Answer) : (h.step (.reply f.caller answer)).Sound settings := by
  let w := waiting.resume (answer waiting.call)
  let o := (h.session.proceed f.caller w).1
  let f' := f.goneOn waiting.call (answer waiting.call) o
  rw [hheld.step_reply answer]
  -- The call that was open is answered now, so it moves from the end of the block into the acts.
  have hblock : f'.block = f.block ++ o.events.map fun event => (f.caller, event) := by
    simp [Flight.block, Flight.events, Session.Outcome.events, f', Flight.goneOn, hheld.waits,
      Standing.openCall?, Act.event]
  refine Sound.of_proceed h.session past f'
    (f.acts ++ [.answered waiting.call (answer waiting.call)]) w rfl rfl ?_ rfl ?_
    hsound.settings_eq ?_ ?_ ?_ ?_ ?_
  · rw [List.append_assoc]
    rfl
  · simp [hheld.suspended_eq, f', Flight.goneOn]
  · rw [hsound.state_eq, hheld.flights_eq, List.flatMap_append, List.flatMap_singleton,
      ← List.append_assoc, lastPublished_append _ _ [_]]
    rfl
  · rw [hsound.log_eq, hheld.flights_eq, List.flatMap_append, List.flatMap_singleton,
      List.flatMap_append, List.flatMap_singleton, hblock, List.append_assoc]
  · intro g hg
    exact ⟨hsound.faithful g (hheld.mem_of_past hg), hheld.past_not_in_flight g hg⟩
  · exact (hsound.faithful f hheld.mem).1
  · intro more r hmore
    rw [List.append_assoc]
    have hleads := hheld.leads
    rw [hsound.settings_eq] at hleads
    exact hleads.resume (answer waiting.call) hmore

/-- The run under way is given up. -/
theorem Sound.step_abandon_of_held {h : History} (hsound : h.Sound settings) {past : List Flight}
    {f : Flight} {waiting : Suspended Answer} (hheld : h.Held past f waiting) :
    (h.step (.abandon f.caller)).Sound settings := by
  let f' : Flight := { f with standing := .abandoned waiting.call }
  have hdropped : f.dropped f.caller = f' := by
    simp [Flight.dropped, hheld.waits, f']
  have hstep : h.step (.abandon f.caller) = { h with
      session := { h.session with held := false, suspended := [] }
      flights := past ++ [f'] } := by
    simp only [step]
    rw [hheld.map_flights _ fun e he => Flight.dropped_of_not_in_flight _ he, hdropped]
    simp [Session.abandon, Session.waiting?, hheld.suspended_eq]
  rw [hstep]
  have hblock : f'.block = f.block := by
    simp [Flight.block, Flight.events, f', hheld.waits, Standing.openCall?]
  refine ⟨hsound.settings_eq, ?_, ?_, ?_, .inl ⟨rfl, rfl, ?_⟩⟩
  · intro g hg
    rcases List.mem_append.mp hg with hg | hg
    · exact hsound.faithful g (hheld.mem_of_past hg)
    · rw [List.mem_singleton.mp hg]
      refine ⟨(hsound.faithful f hheld.mem).1, waiting.resume, ?_⟩
      have hleads := hheld.leads
      rwa [hsound.settings_eq] at hleads
  · rw [hsound.log_eq, hheld.flights_eq, List.flatMap_append, List.flatMap_append,
      List.flatMap_singleton, List.flatMap_singleton, hblock]
  · rw [hsound.state_eq, hheld.flights_eq, List.flatMap_append, List.flatMap_append]
    rfl
  · intro g hg
    rcases List.mem_append.mp hg with hg | hg
    · exact hheld.past_not_in_flight g hg
    · rw [List.mem_singleton.mp hg]
      rfl

/-- Nothing happens to a caller who has no run under way. -/
theorem step_of_not_waiting {h : History} {id : CallerId} (hnone : h.session.waiting? id = none)
    (answer : (call : Call) → call.Answer) (hflights : ∀ f ∈ h.flights, f.dropped id = f) :
    h.step (.reply id answer) = h ∧ h.step (.abandon id) = h := by
  have hmap : h.flights.map (Flight.dropped id) = h.flights :=
    (List.map_congr_left hflights).trans (List.map_id h.flights)
  constructor
  · simp [step, Session.reply, hnone]
  · simp [step, Session.abandon, hnone, hmap]

/-- A caller has no run under way, or it has the one that holds the provisioner. -/
theorem Sound.waiting_cases {h : History} (hsound : h.Sound settings) (id : CallerId) :
    (h.session.waiting? id = none ∧ ∀ f ∈ h.flights, f.dropped id = f) ∨
      ∃ past f waiting, h.Held past f waiting ∧ f.caller = id := by
  rcases hsound.control with hfree | ⟨past, f, waiting, hheld⟩
  · refine .inl ⟨?_, fun f hf => Flight.dropped_of_not_in_flight id (hfree.none_in_flight f hf)⟩
    rw [Session.waiting?, hfree.none_suspended]
    rfl
  · by_cases hid : f.caller = id
    · exact .inr ⟨past, f, waiting, hheld, hid⟩
    · refine .inl ⟨?_, ?_⟩
      · have hne : (id == f.caller) = false := beq_false_of_ne (Ne.symm hid)
        simp [Session.waiting?, hheld.suspended_eq, List.lookup_cons, hne]
      · intro g hg
        rw [hheld.flights_eq] at hg
        rcases List.mem_append.mp hg with hg | hg
        · exact Flight.dropped_of_not_in_flight id (hheld.past_not_in_flight g hg)
        · rw [List.mem_singleton.mp hg]
          simp [Flight.dropped, hheld.waits, hid]

/-- **The invariant is kept by every moment.** -/
theorem Sound.step {h : History} (hsound : h.Sound settings) (moment : Moment) :
    (h.step moment).Sound settings := by
  cases moment with
  | call id r allot =>
      cases hrefusal : h.session.refusal? r with
      | some failure =>
          rw [step_call_of_refusal hrefusal]
          exact hsound
      | none =>
          obtain ⟨hnot, port, hvalid⟩ := Session.refusal?_eq_none_iff.mp hrefusal
          rcases hsound.control with hfree | ⟨past, f, waiting, hheld⟩
          · exact hsound.step_call_of_free hfree id hvalid allot
          · rw [hheld.held] at hnot
            cases hnot
  | reply id answer =>
      rcases hsound.waiting_cases id with ⟨hnone, hflights⟩ | ⟨past, f, waiting, hheld, rfl⟩
      · rw [(step_of_not_waiting hnone answer hflights).1]
        exact hsound
      · exact hsound.step_reply_of_held hheld answer
  | abandon id =>
      rcases hsound.waiting_cases id with ⟨hnone, hflights⟩ | ⟨past, f, waiting, hheld, rfl⟩
      · rw [(step_of_not_waiting hnone Workflow.anyAnswer hflights).2]
        exact hsound
      · exact hsound.step_abandon_of_held hheld

/-- **The invariant holds after all moments.** -/
theorem sound_after (settings : Settings) (moments : List Moment) :
    (after settings moments).Sound settings := by
  -- The induction takes the latest moment first, and the moments are listed from the first one on.
  rw [after, ← List.foldr_reverse]
  generalize moments.reverse = latest
  induction latest with
  | nil => exact sound_opened settings
  | cons moment latest ih => exact ih.step moment

/-! ### Runs under way -/

variable {h : History}

/-- The runs under way: the one that holds the provisioner, if there is one. -/
theorem Free.filter_inFlight (hfree : h.Free) : h.flights.filter Flight.inFlight = [] := by
  refine List.filter_eq_nil_iff.mpr fun f hf => ?_
  rw [hfree.none_in_flight f hf]
  exact Bool.false_ne_true

theorem Held.filter_inFlight {past : List Flight} {f : Flight} {waiting : Suspended Answer}
    (hheld : h.Held past f waiting) : h.flights.filter Flight.inFlight = [f] := by
  have hpast : past.filter Flight.inFlight = [] := by
    refine List.filter_eq_nil_iff.mpr fun g hg => ?_
    rw [hheld.past_not_in_flight g hg]
    exact Bool.false_ne_true
  have hf : f.inFlight = true := by rw [Flight.inFlight, hheld.waits]
  rw [hheld.flights_eq, List.filter_append, hpast, List.filter_cons_of_pos hf]
  rfl

/-- A run under way is the one that holds the provisioner. -/
theorem Sound.held_of_inFlight (hsound : h.Sound settings) {f : Flight} (hf : f ∈ h.flights)
    (hflight : f.inFlight = true) : ∃ past waiting, h.Held past f waiting := by
  have hmem : f ∈ h.flights.filter Flight.inFlight := List.mem_filter.mpr ⟨hf, hflight⟩
  rcases hsound.control with hfree | ⟨past, g, waiting, hheld⟩
  · rw [hfree.filter_inFlight] at hmem
    cases hmem
  · rw [hheld.filter_inFlight] at hmem
    obtain rfl := List.mem_singleton.mp hmem
    exact ⟨past, waiting, hheld⟩

/-- Where the provisioner is not held, nobody is under way. -/
theorem Sound.free_of_not_held (hsound : h.Sound settings) (hnot : h.session.held = false) :
    h.Free := by
  rcases hsound.control with hfree | ⟨past, f, waiting, hheld⟩
  · exact hfree
  · rw [hheld.held] at hnot
    cases hnot

/-- The provisioner is held just while a run is under way. -/
theorem Sound.held_iff (hsound : h.Sound settings) :
    h.session.held = true ↔ ∃ f ∈ h.flights, f.inFlight = true := by
  constructor
  · intro hs
    rcases hsound.control with hfree | ⟨past, f, waiting, hheld⟩
    · rw [hfree.not_held] at hs
      cases hs
    · exact ⟨f, hheld.mem, by rw [Flight.inFlight, hheld.waits]⟩
  · rintro ⟨f, hf, hflight⟩
    obtain ⟨past, waiting, hheld⟩ := hsound.held_of_inFlight hf hflight
    exact hheld.held

end History

end Provisioning
