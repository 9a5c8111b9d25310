/-
**One run at a time.**

The clusters of a workspace are named after what the backend answers, and a backend that is asked by
two runs at once could not be told from one that makes mistakes.  So a provisioner admits one run at
a time, and it must do so although nobody waits, although any caller may go away in the middle of
its run, and although a run that has published its failure is still at work: it hands over what it
has created, and a caller who reads the published state may well think that it is over.

All of this follows from the invariant of histories.  What is left to show is that the published
state is a failure while a run waits for its compensation, and that whatever ends a run, an answer
or a caller who goes away, makes the provisioner accept the next caller at once.

Main definitions:

* `Session.Accepts` — every valid request begins a run;
* `SingleFlight` — **one run at a time**, as it can be seen in a history.

Main results:

* `History.Sound.state_of_compensating` — the state that is published during a compensation;
* `single_flight` — **every history has one run at a time**.
-/

import Provisioning.Proofs.History

set_option relaxedAutoImplicit false
set_option autoImplicit false

namespace Provisioning

open Run (Settings)
open Workflow (Act Suspended)

/-- Whoever comes next with a valid request begins a run: its first create call is made. -/
def Session.Accepts (s : Session) : Prop :=
  ∀ (id : CallerId) (r : Request) (port : UInt16) (allot : Allotter), r.validate = .ok port →
    (s.call id r allot).1.reached =
      .inr (.create (Run.coordinationServiceOrder r port (allot port r.serviceName)))

/-- **One run at a time**, as it can be seen in a history. -/
structure SingleFlight (settings : Settings) (h : History) : Prop where
  /-- At most one run is under way. -/
  at_most_one : (h.flights.filter Flight.inFlight).length ≤ 1
  /-- The provisioner is held just while one is. -/
  held_iff : h.session.held = true ↔ ∃ f ∈ h.flights, f.inFlight = true
  /-- Nobody else waits for an answer. -/
  suspended_eq :
    h.session.suspended.map (fun (id, waiting) => (id, Standing.waiting waiting.call)) =
      (h.flights.filter Flight.inFlight).map fun f => (f.caller, f.standing)
  /-- Every run does what its request asks for, whatever happens around it. -/
  faithful : ∀ f ∈ h.flights, f.Faithful settings
  /-- The log is made of the blocks of the runs, one behind the other. -/
  log_eq : h.log = h.flights.flatMap Flight.block
  /-- A valid request is turned away just while a run is under way. -/
  busy_iff (id : CallerId) (r : Request) (port : UInt16) (allot : Allotter) :
    r.validate = .ok port →
      ((h.session.call id r allot).1.reached = .inl (.error .busy) ↔
        ∃ f ∈ h.flights, f.inFlight = true)
  /-- A run is under way also when it has published its failure and waits for its compensation. -/
  compensating : ∀ f ∈ h.flights, ∀ stage created,
    f.standing = .waiting (.compensate stage created) → h.session.state = .failed stage
  /-- Where no run is under way, the next caller begins one. -/
  accepts : (∀ f ∈ h.flights, f.inFlight = false) → h.session.Accepts
  /-- When a run returns, with a workspace or with a failure, the next caller begins one. -/
  accepts_of_returned (id : CallerId) (answer : (call : Call) → call.Answer)
    (o : Session.Outcome) (result : Answer) :
    (h.session.reply id answer).1 = some o → o.reached = .inl result →
      (h.session.reply id answer).2.Accepts
  /-- When a caller gives up its run, the next caller begins one. -/
  accepts_of_abandoned : ∀ f ∈ h.flights, f.inFlight = true →
    (h.session.abandon f.caller).Accepts

theorem Session.accepts_of_not_held {s : Session} (hs : s.held = false) : s.Accepts := by
  intro id r port allot hvalid
  rw [Session.call_of_not_held hs id hvalid, Session.proceed_provisioning]

namespace History

variable {settings : Settings} {h : History}

/-- **While a run waits for its compensation, its failure is the published state.** -/
theorem Sound.state_of_compensating (hsound : h.Sound settings) {f : Flight} (hf : f ∈ h.flights)
    {stage : Cluster.Kind} {created : List Cluster.Descriptor}
    (hstanding : f.standing = .waiting (.compensate stage created)) :
    h.session.state = .failed stage := by
  have hflight : f.inFlight = true := by rw [Flight.inFlight, hstanding]
  obtain ⟨past, ⟨call, resume⟩, hheld⟩ := hsound.held_of_inFlight hf hflight
  obtain rfl : call = .compensate stage created := by
    simpa using hheld.waits.symm.trans hstanding
  -- Once the compensation is answered the run can only end, so its course is known up to here.
  obtain ⟨more, answer, hends⟩ := hheld.leads.exists_ends ()
  obtain ⟨result, hcourse, _⟩ := ends_provisioning_iff.mp hends
  obtain ⟨start, hacts⟩ := hcourse.failed_before_compensation
  rw [hsound.state_eq, hheld.flights_eq, List.flatMap_append, List.flatMap_singleton, hacts,
    ← List.append_assoc, lastPublished_append _ _ [_]]
  rfl

end History

/-! ### Letting go -/

/-- A run that returns lets the provisioner go. -/
theorem Session.not_held_of_returned {s : Session} {id : CallerId}
    {answer : (call : Call) → call.Answer} {o : Session.Outcome} {result : Answer}
    (hreply : (s.reply id answer).1 = some o) (hreached : o.reached = .inl result) :
    (s.reply id answer).2.held = false := by
  rw [reply] at hreply ⊢
  cases hwaiting : s.waiting? id with
  | none =>
      rw [hwaiting] at hreply
      cases hreply
  | some waiting =>
      rw [hwaiting] at hreply
      obtain rfl := Option.some.inj hreply
      rcases hw : (waiting.resume (answer waiting.call)).advance with ⟨remarks, stop | next⟩
      · simp [proceed, hw]
      · simp [proceed, hw] at hreached

/-- A caller who gives up its run lets the provisioner go. -/
theorem History.Held.not_held_of_abandoned {h : History} {past : List Flight} {f : Flight}
    {waiting : Suspended Answer} (hheld : h.Held past f waiting) :
    (h.session.abandon f.caller).held = false := by
  simp [Session.abandon, Session.waiting?, hheld.suspended_eq]

/-! ### The theorem -/

/-- The invariant says that there is one run at a time. -/
theorem History.Sound.singleFlight {settings : Settings} {h : History}
    (hsound : h.Sound settings) : SingleFlight settings h where
  at_most_one := by
    rcases hsound.control with hfree | ⟨past, f, waiting, hheld⟩
    · rw [hfree.filter_inFlight]
      exact Nat.zero_le 1
    · rw [hheld.filter_inFlight]
      exact Nat.le_refl 1
  held_iff := hsound.held_iff
  suspended_eq := by
    rcases hsound.control with hfree | ⟨past, f, waiting, hheld⟩
    · rw [hfree.filter_inFlight, hfree.none_suspended]
      rfl
    · rw [hheld.filter_inFlight, hheld.suspended_eq, List.map_singleton, List.map_singleton,
        hheld.waits]
  faithful := hsound.faithful
  log_eq := hsound.log_eq
  busy_iff id r port allot hvalid := by
    rw [← hsound.held_iff]
    cases hheld : h.session.held with
    | true =>
        rw [Session.call_of_held hheld id hvalid allot]
        exact ⟨fun _ => rfl, fun _ => rfl⟩
    | false =>
        rw [Session.accepts_of_not_held hheld id r port allot hvalid]
        exact ⟨nofun, nofun⟩
  compensating f hf stage created := hsound.state_of_compensating hf
  accepts hnone := by
    refine Session.accepts_of_not_held (Bool.eq_false_iff.mpr fun hheld => ?_)
    obtain ⟨f, hf, hflight⟩ := hsound.held_iff.mp hheld
    rw [hnone f hf] at hflight
    cases hflight
  accepts_of_returned id answer o result hreply hreached :=
    Session.accepts_of_not_held (Session.not_held_of_returned hreply hreached)
  accepts_of_abandoned f hf hflight := by
    obtain ⟨past, waiting, hheld⟩ := hsound.held_of_inFlight hf hflight
    exact Session.accepts_of_not_held hheld.not_held_of_abandoned

/-- **One run at a time**, whatever happens to a provisioner: whoever calls, also while a run is at
one of its calls, however the calls are answered, and whoever gives up. -/
theorem single_flight (settings : Settings) (moments : List Moment) :
    SingleFlight settings (History.after settings moments) :=
  (History.sound_after settings moments).singleFlight

/-- A caller who comes while a failed run is compensated is turned away. -/
example (id : CallerId) (allot : Allotter) (e : Backend.CallError) :
    let request : Request := { clientPort := some 9092, nodes := ["node"] }
    let refused := Workflow.answering (.error e) (.error e)
    let h := History.after {} [.call 0 request allot, .reply 0 refused]
    h.session.state = .failed .coordinationService ∧
      (h.session.call id request allot).1.reached = .inl (.error .busy) := ⟨rfl, rfl⟩

end Provisioning
