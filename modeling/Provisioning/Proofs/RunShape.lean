/-
**The shape of a run.**

Whoever runs the backend wants to know what a run may send there, whatever it is answered: that a
create call is never repeated, that no cluster is created before the one it is bound to, that a
cluster which does not come up is not asked for forever.  The answers may depend on everything that
was sent before, so that such bounds cannot be read off one conversation after the other.  They
follow from the **shape** of a run, which says kind by kind what can come next.

A run that was given up, or waits, has no result.  But what it has done so far is the beginning of
a whole run, whatever its open call would have been answered, and so its calls are the beginning of
a shape.

Main definitions:

* `Run.Shape` — **the sequences of calls** of a run, for the kinds that are left;
* `Run.Orderly` — what a shape rules out;
* `Flight.Begins` — a run is, or begins, a sequence of calls.

Main results:

* `Run.Course.shape` — every run has a shape;
* `Run.Shape.orderly` — every shape is orderly;
* `run_shape` — **all runs, of all callers, in all histories**.
-/

import Provisioning.Proofs.History

set_option relaxedAutoImplicit false
set_option autoImplicit false

namespace Provisioning

namespace Run

open Cluster (Kind Order Descriptor)
open Workflow (Act Talk talks talks_nil talks_append talks_published)

/-! ### Shapes -/

/-- **The sequences of calls** that a run can make for the kinds that are left: one create call of
the next kind, and then a compensation, or the wait for the cluster and the other kinds. -/
inductive Shape (settings : Settings) : List Kind → List Talk → Prop
  | done : Shape settings [] []
  | refused {kind : Kind} {kinds : List Kind} {order : Order} (e : Backend.CallError)
      (created : List Descriptor) : order.kind = kind →
      Shape settings (kind :: kinds) [⟨.create order, .error e⟩, ⟨.compensate kind created, ()⟩]
  | unready {kind : Kind} {kinds : List Kind} {order : Order} (name : String)
      (answers : Poll.Answers settings.polling.maxRetries.toNat) (created : List Descriptor) :
      order.kind = kind → ¬ answers.running → settings.policy = .fail →
      Shape settings (kind :: kinds)
        (⟨.create order, .ok name⟩ ::
          (answers.talks settings.polling.interval name ++ [⟨.compensate kind created, ()⟩]))
  | passed {kind : Kind} {kinds : List Kind} {order : Order} {rest : List Talk} (name : String)
      (answers : Poll.Answers settings.polling.maxRetries.toNat) :
      order.kind = kind → answers.running ∨ settings.policy = .proceed →
      Shape settings kinds rest →
      Shape settings (kind :: kinds)
        (⟨.create order, .ok name⟩ :: (answers.talks settings.polling.interval name ++ rest))

/-- **Every course of the stages has a shape**, for the kinds that are left. -/
theorem Stages.shape {settings : Settings} {r : Request} {port : UInt16} {a : Allotment}
    {earlier : List StageReport} {acts : List Act} {result : Except Failure (List StageReport)}
    (h : Stages settings (nextOrder r port a) earlier acts result) {kinds : List Kind}
    (hkinds : (clusters earlier).map (·.kind) ++ kinds = Kind.all) :
    Shape settings kinds (talks acts) := by
  -- Along the stages `kinds` loses its first kind whenever a cluster of that kind is made.
  induction h generalizing kinds with
  | complete hnext =>
      obtain rfl := kinds_of_nextOrder_none hkinds hnext
      exact Shape.done
  | failed hnext hstage =>
      obtain ⟨rest, rfl⟩ := kinds_of_nextOrder hkinds hnext
      cases hstage with
      | refused e => exact Shape.refused e _ rfl
      | unready name answers hr hp =>
          rw [talks_append, talks_creation, talks_aborting]
          exact Shape.unready name answers _ rfl hr hp
  | passed hnext hstage _ ih =>
      obtain ⟨rest, rfl⟩ := kinds_of_nextOrder hkinds hnext
      cases hstage with
      | passed name answers hp =>
          rw [talks_append, talks_creation]
          exact Shape.passed name answers rfl hp (ih (kinds_concat hkinds rfl))

/-- **Every run has a shape.** -/
theorem Course.shape {settings : Settings} {r : Request} {port : UInt16} {a : Allotment}
    {acts : List Act} {result : Except Failure Workspace}
    (h : Course settings r port a acts result) : Shape settings Kind.all (talks acts) := by
  cases h with
  | failed h => exact h.shape rfl
  | complete h =>
      rw [talks_append, talks_published, talks_nil, List.append_nil]
      exact h.shape rfl

/-! ### Order -/

/-- Whether a call creates a cluster of a kind. -/
def creates (kind : Kind) : Call → Bool
  | .create order => order.kind == kind
  | _ => false

/-- **What a shape rules out**: of the calls of a run, with their answers. -/
structure Orderly (settings : Settings) (talks : List Talk) : Prop where
  /-- No create call is repeated. -/
  create_once (kind : Kind) : talks.countP (fun talk => creates kind talk.1) ≤ 1
  /-- No cluster is created before those of all earlier kinds were, and, if that ends a run, before
  they reported running. -/
  create_in_order {before after : List Talk} {order : Order}
    {reply : Except Backend.CallError String} : talks = before ++ ⟨.create order, reply⟩ :: after →
    ∀ kind ∈ Kind.all.takeWhile (· != order.kind), ∃ earlier name, earlier.kind = kind ∧
      (⟨.create earlier, .ok name⟩ : Talk) ∈ before ∧
      (settings.policy = .fail → (⟨.status name, .ok .running⟩ : Talk) ∈ before)
  /-- Each cluster is asked for as often as the settings allow. -/
  questions_le : talks.countP (fun talk => Poll.isQuestion talk.1) ≤
    3 * (settings.polling.maxRetries.toNat + 1)
  /-- Nothing follows on a compensation. -/
  compensate_last {before after : List Talk} {stage : Kind} {created : List Descriptor} :
    talks = before ++ ⟨.compensate stage created, ()⟩ :: after → after = []

/-- What is no part of a first piece stands behind it. -/
theorem split_behind {α : Type} {piece rest before after : List α} {x : α} (hx : x ∉ piece)
    (h : piece ++ rest = before ++ x :: after) :
    ∃ between, before = piece ++ between ∧ rest = between ++ x :: after := by
  rcases List.append_eq_append_iff.mp h with ⟨between, rfl, hrest⟩ | ⟨last, rfl, hrest⟩
  · exact ⟨between, rfl, hrest⟩
  · cases last with
    | nil => exact ⟨[], by simp, hrest.symm⟩
    | cons y last =>
        obtain ⟨rfl, _⟩ := List.cons.inj hrest
        exact absurd (List.mem_append_right before List.mem_cons_self) hx

/-- A single element has nothing behind it. -/
theorem nil_of_split_singleton {α : Type} {x y : α} {before after : List α}
    (h : [x] = before ++ y :: after) : after = [] := by
  cases before with
  | nil => exact (List.cons.inj h).2.symm
  | cons z before => cases (List.append_eq_nil_iff.mp (List.cons.inj h).2.symm).2

/-- What stands before the first `kind` in a list that does not begin with it. -/
theorem mem_takeWhile_cons {first kind k : Kind} {kinds : List Kind}
    (h : k ∈ (first :: kinds).takeWhile (· != kind)) :
    first ≠ kind ∧ (k = first ∨ k ∈ kinds.takeWhile (· != kind)) := by
  rw [List.takeWhile_cons] at h
  split at h
  · rename_i hne
    exact ⟨bne_iff_ne.mp hne, List.mem_cons.mp h⟩
  · cases h

variable {settings : Settings} {kinds : List Kind} {talks : List Talk}

theorem countP_creates_wait (kind : Kind) {retries : Nat} (interval : UInt64) (cluster : String)
    (answers : Poll.Answers retries) :
    (answers.talks interval cluster).countP (fun talk => creates kind talk.1) = 0 := by
  refine List.countP_eq_zero.mpr fun talk htalk => ?_
  rcases Poll.Answers.eq_of_mem_talks htalk with ⟨reply, rfl⟩ | rfl
  · exact Bool.false_ne_true
  · exact Bool.false_ne_true

theorem create_ne_create {order other : Order} (hne : other.kind ≠ order.kind)
    (reply given : Except Backend.CallError String) :
    (⟨.create order, reply⟩ : Talk) ≠ ⟨.create other, given⟩ := by
  intro h
  cases h
  exact hne rfl

theorem create_not_mem_creation {order other : Order} (hne : other.kind ≠ order.kind)
    (reply given : Except Backend.CallError String) {retries : Nat} (interval : UInt64)
    (cluster : String) (answers : Poll.Answers retries) :
    (⟨.create order, reply⟩ : Talk) ∉
      ⟨.create other, given⟩ :: answers.talks interval cluster := by
  intro hmem
  rcases List.mem_cons.mp hmem with h | hmem
  · exact create_ne_create hne reply given h
  · rcases Poll.Answers.eq_of_mem_talks hmem with ⟨_, h⟩ | h
    · cases h
    · cases h

theorem compensate_not_mem_create (stage : Kind) (created : List Descriptor) (order : Order)
    (reply : Except Backend.CallError String) :
    (⟨.compensate stage created, ()⟩ : Talk) ∉ [(⟨.create order, reply⟩ : Talk)] := by
  intro hmem
  cases List.mem_singleton.mp hmem

theorem compensate_not_mem_creation (stage : Kind) (created : List Descriptor) (order : Order)
    (reply : Except Backend.CallError String) {retries : Nat} (interval : UInt64)
    (cluster : String) (answers : Poll.Answers retries) :
    (⟨.compensate stage created, ()⟩ : Talk) ∉
      ⟨.create order, reply⟩ :: answers.talks interval cluster := by
  intro hmem
  rcases List.mem_cons.mp hmem with h | hmem
  · cases h
  · rcases Poll.Answers.eq_of_mem_talks hmem with ⟨_, h⟩ | h
    · cases h
    · cases h

theorem Shape.countP_creates_le (h : Shape settings kinds talks) (kind : Kind) :
    talks.countP (fun talk => creates kind talk.1) ≤ kinds.count kind := by
  have hhead (order : Order) (kinds : List Kind) (name : Except Backend.CallError String)
      (rest : List Talk)
      (hrest : rest.countP (fun talk => creates kind talk.1) ≤ kinds.count kind) :
      ((⟨.create order, name⟩ : Talk) :: rest).countP (fun talk => creates kind talk.1) ≤
        (order.kind :: kinds).count kind := by
    rw [List.countP_cons, List.count_cons]
    exact Nat.add_le_add_right hrest _
  induction h with
  | done => exact Nat.zero_le _
  | refused e created horder =>
      subst horder
      exact hhead _ _ _ _ (Nat.zero_le _)
  | unready name answers created horder _ _ =>
      subst horder
      refine hhead _ _ _ _ ?_
      rw [List.countP_append, countP_creates_wait]
      exact Nat.zero_le _
  | passed name answers horder _ _ ih =>
      subst horder
      refine hhead _ _ _ _ ?_
      rw [List.countP_append, countP_creates_wait, Nat.zero_add]
      exact ih

theorem Shape.questions_le (h : Shape settings kinds talks) :
    talks.countP (fun talk => Poll.isQuestion talk.1) ≤
      kinds.length * (settings.polling.maxRetries.toNat + 1) := by
  induction h with
  | done => exact Nat.zero_le _
  | refused e created _ => exact Nat.zero_le _
  | unready name answers created _ _ _ =>
      have hle := answers.questions_le
      rw [List.countP_cons_of_neg Bool.false_ne_true, List.countP_append,
        Poll.Answers.countP_isQuestion_talks, List.length_cons, Nat.succ_mul]
      exact Nat.le_add_left_of_le hle
  | passed name answers _ _ _ ih =>
      have hle := answers.questions_le
      rw [List.countP_cons_of_neg Bool.false_ne_true, List.countP_append,
        Poll.Answers.countP_isQuestion_talks, List.length_cons, Nat.succ_mul, Nat.add_comm]
      exact Nat.add_le_add ih hle

theorem Shape.compensate_last (h : Shape settings kinds talks) {before after : List Talk}
    {stage : Kind} {created : List Descriptor}
    (hsplit : talks = before ++ ⟨.compensate stage created, ()⟩ :: after) : after = [] := by
  induction h generalizing before with
  | done => cases (List.append_eq_nil_iff.mp hsplit.symm).2
  | refused e _ _ =>
      obtain ⟨_, -, hrest⟩ := split_behind (compensate_not_mem_create stage created _ _) hsplit
      exact nil_of_split_singleton hrest
  | unready name answers _ _ _ _ =>
      obtain ⟨_, -, hrest⟩ := split_behind
        (compensate_not_mem_creation stage created _ _ _ _ answers) hsplit
      exact nil_of_split_singleton hrest
  | passed name answers _ _ _ ih =>
      obtain ⟨_, -, hrest⟩ := split_behind
        (compensate_not_mem_creation stage created _ _ _ _ answers) hsplit
      exact ih hrest

theorem Shape.create_in_order (h : Shape settings kinds talks) {before after : List Talk}
    {order : Order} {reply : Except Backend.CallError String}
    (hsplit : talks = before ++ ⟨.create order, reply⟩ :: after) :
    ∀ kind ∈ kinds.takeWhile (· != order.kind), ∃ earlier name, earlier.kind = kind ∧
      (⟨.create earlier, .ok name⟩ : Talk) ∈ before ∧
      (settings.policy = .fail → (⟨.status name, .ok .running⟩ : Talk) ∈ before) := by
  intro kind hkind
  have hmem : (⟨.create order, reply⟩ : Talk) ∈ talks := by
    rw [hsplit]
    exact List.mem_append_right before List.mem_cons_self
  induction h generalizing before with
  | done => cases hkind
  | refused e _ horder =>
      subst horder
      obtain ⟨hne, _⟩ := mem_takeWhile_cons hkind
      rcases List.mem_cons.mp hmem with h | hmem
      · exact absurd h (create_ne_create hne reply _)
      · cases List.mem_singleton.mp hmem
  | unready name answers _ horder _ _ =>
      subst horder
      obtain ⟨hne, _⟩ := mem_takeWhile_cons hkind
      rw [← List.cons_append] at hmem
      rcases List.mem_append.mp hmem with h | hmem
      · exact absurd h (create_not_mem_creation hne reply _ _ _ answers)
      · cases List.mem_singleton.mp hmem
  | passed name answers horder hp _ ih =>
      subst horder
      obtain ⟨hne, hkind⟩ := mem_takeWhile_cons hkind
      obtain ⟨between, rfl, hrest⟩ := split_behind
        (create_not_mem_creation hne reply _ _ _ answers) hsplit
      -- The create call stands behind this stage: `kind` is that of this stage, or of a later one.
      rcases hkind with rfl | hkind
      · refine ⟨_, name, rfl, List.mem_append_left _ List.mem_cons_self, fun hpolicy => ?_⟩
        have hr := hp.resolve_right (by simp [hpolicy])
        exact List.mem_append_left _ (List.mem_cons_of_mem _
          (Poll.Answers.mem_talks_of_running _ name hr))
      · obtain ⟨earlier, called, hearlier, hcreated, hran⟩ := ih hrest hkind
          (hrest ▸ List.mem_append_right between List.mem_cons_self)
        exact ⟨earlier, called, hearlier, List.mem_append_right _ hcreated,
          fun hpolicy => List.mem_append_right _ (hran hpolicy)⟩

/-- **Every shape is orderly.** -/
theorem Shape.orderly (h : Shape settings Kind.all talks) : Orderly settings talks where
  create_once kind := by
    have hle := h.countP_creates_le kind
    cases kind with
    | coordinationService => exact hle
    | broker => exact hle
    | worker => exact hle
  create_in_order hsplit := h.create_in_order hsplit
  questions_le := h.questions_le
  compensate_last hsplit := h.compensate_last hsplit

end Run

/-! ### All runs -/

/-- **The calls of a run are all, or the beginning**, of a sequence of calls with a property: all
of them if the run has returned, and otherwise their beginning, whatever the open call would have
been answered. -/
def Flight.Begins (f : Flight) (p : List Workflow.Talk → Prop) : Prop :=
  match f.standing.openCall? with
  | none => p f.talks
  | some call => ∀ answer : call.Answer, ∃ more, p (f.talks ++ ⟨call, answer⟩ :: more)

/-- A run begins what all whole conversations of its workflow have. -/
theorem Flight.Faithful.begins {settings : Run.Settings} {f : Flight} (hf : f.Faithful settings)
    {p : List Workflow.Talk → Prop} (hp : ∀ acts answer,
      Workflow.Ends (f.workflow settings) acts answer → p (Workflow.talks acts)) : f.Begins p := by
  have hwait (call : Call) (resume : call.Answer → Workflow Answer)
      (hleads : Workflow.Leads (f.workflow settings) f.acts (.inr ⟨call, resume⟩))
      (answer : call.Answer) : ∃ more, p (f.talks ++ ⟨call, answer⟩ :: more) := by
    obtain ⟨more, result, hends⟩ := hleads.exists_ends answer
    refine ⟨Workflow.talks more, ?_⟩
    have hwhole := hp _ result hends
    rwa [Workflow.talks_append, Workflow.talks_answered] at hwhole
  obtain ⟨_, hstanding⟩ := hf
  rw [Begins]
  cases hs : f.standing with
  | returned answer =>
      rw [hs] at hstanding
      exact hp _ answer hstanding
  | waiting call =>
      rw [hs] at hstanding
      obtain ⟨resume, hleads⟩ := hstanding
      exact hwait call resume hleads
  | abandoned call =>
      rw [hs] at hstanding
      obtain ⟨resume, hleads⟩ := hstanding
      exact hwait call resume hleads

/-- **The shape of all runs.**  The calls of a run with any environment, whose answers may depend on
everything before, have a shape and are orderly; and so is what any caller's run begins in any
history, whether it has returned, still waits, or was given up. -/
theorem run_shape (settings : Run.Settings) :
    (∀ (r : Request) (port : UInt16) (a : Allotment) (env : Workflow.Environment),
      let w := Run.workflow settings r port a
      let talks := Workflow.talks (w.acts env [])
      (w.run env []).1.filterMap Workflow.Event.call? = talks.map (·.1) ∧
        Run.Shape settings Cluster.Kind.all talks ∧ Run.Orderly settings talks) ∧
    ∀ (moments : List Moment), ∀ f ∈ (History.after settings moments).flights,
      f.Begins fun talks =>
        Run.Shape settings Cluster.Kind.all talks ∧ Run.Orderly settings talks := by
  constructor
  · intro r port a env w talks
    have hshape := (Run.ends_workflow_iff.mp (Workflow.ends_acts env w [])).shape
    exact ⟨Workflow.run_calls env w [], hshape, hshape.orderly⟩
  · intro moments f hf
    refine ((History.sound_after settings moments).faithful f hf).begins fun acts answer hends => ?_
    obtain ⟨result, hcourse, _⟩ := ends_provisioning_iff.mp hends
    exact ⟨hcourse.shape, hcourse.shape.orderly⟩

/-- A run that was given up at its first call. -/
theorem run_shape_of_abandoned :
    let order : Cluster.Order := Run.coordinationServiceOrder
      { clientPort := some 9092, nodes := ["node"] } 9092 default
    ∀ reply : Except Backend.CallError String, ∃ more,
      Run.Shape {} Cluster.Kind.all (⟨.create order, reply⟩ :: more) ∧
        Run.Orderly {} (⟨.create order, reply⟩ :: more) :=
  (run_shape {}).2
    [.call 0 { clientPort := some 9092, nodes := ["node"] } fun _ _ => default, .abandon 0]
    _ (List.mem_singleton.mpr rfl)

end Provisioning
