/-
**The outcome of a status call.**

A run goes on once a cluster is reported to be running, so nothing else may look like that report.
An answer is taken apart in the same layers as that to a create call, and then its result has to be
a list of groups of containers, where much may be left out: a group may have no containers, a
container may have no state, and there may be no list at all.  Whatever is left out, the state is
unknown, and it is running only where the word for it stands in the one place that is looked at: the
state of the first container of the first group.

Main definitions:

* `Backend.isGroups` — the results that are lists of groups of containers;
* `Backend.firstContainer?`, `Backend.reported?` — **the container that counts**, and its report;
* `Backend.Succeeds`, `Backend.StatusFailure` — how a request ends that brings a result, and one
  that does not;
* `Program.StatusAnswer` — **what a status call says** in the end.

Main results:

* `Backend.isOk_groups`, `Backend.firstState_of_groups` — what the reader of a status call takes,
  and what it makes of it;
* `Backend.statusConclusion_isOk` — when there is a state at all;
* `status_outcome` — **a status call and its outcome**.
-/

import Provisioning.Proofs.CreateOutcome
import Provisioning.Proofs.SingleField

set_option relaxedAutoImplicit false
set_option autoImplicit false

namespace Provisioning

namespace Backend

open Cluster (ContainerState)
open Json (Value decodeValue IsGiven)

/-! ### Lists of groups of containers -/

/-- A container: its state is null or a string, or is not given. -/
def isContainer (v : Value) : Bool := v.holds "state" isName

/-- A group: its containers are a list of containers, or are not given. -/
def isGroup (v : Value) : Bool := v.holds "containers" (Value.lists isContainer)

/-- **The results that are lists of groups.** -/
def isGroups (v : Value) : Bool := v.lists isGroup

theorem isOk_containerState {v : Value} (hread : v.WasRead) :
    (decodeValue (containerState .value) v).isOk = isContainer v :=
  Json.isOk_record hread.tidy fun w _ => isOk_optional_text w

theorem isOk_group {v : Value} (hread : v.WasRead) :
    (decodeValue (Group.decoder .value) v).isOk = isGroup v := by
  refine Json.isOk_record hread.tidy fun w hw => ?_
  have hcontainers : w.WasRead := hread.given hw
  refine Json.isOk_list fun items hitems container hcontainer => ?_
  subst hitems
  exact isOk_containerState (hcontainers.item container hcontainer)

/-- **What the reader of a status call takes.** -/
theorem isOk_groups {v : Value} (hread : v.WasRead) :
    (decodeValue (groups .value) v).isOk = isGroups v := by
  refine Json.isOk_list fun items hitems group hgroup => ?_
  subst hitems
  exact isOk_group (hread.item group hgroup)

/-! ### The container that counts -/

/-- **The container that counts**: the first one of the first group. -/
def firstContainer? (result : Value) : Option Value :=
  (result.first?.bind fun group => group.given? 0 "containers").bind Value.first?

/-- What is reported of its state. -/
def reported? (result : Value) : Option String :=
  ((firstContainer? result).bind fun container => container.given? 0 "state").bind Value.string?

/-- The state of a report; without one the state is unknown. -/
def stateOf (report : Option String) : ContainerState := (report.map .ofReport).getD .unknown

/-- The state that is read of a container is the one it gives. -/
theorem containerState_eq_ok {v : Value} {report : Option String}
    (h : decodeValue (containerState .value) v = .ok report) :
    report = (v.given? 0 "state").bind Value.string? :=
  Json.textRecord_eq_ok h

/-- The first container of a group that was read. -/
theorem head?_of_group {v : Value} {group : Group}
    (h : decodeValue (Group.decoder .value) v = .ok group) :
    (group.containers.head?).bind id =
      (((v.given? 0 "containers").bind Value.first?).bind fun container =>
        container.given? 0 "state").bind Value.string? := by
  have hgiven : IsGiven (Json.list (containerState .value))
      ((v.given? 0 "containers").map .ofValue) [] group.containers :=
    @Json.record_eq_ok_given _ _ _ _ _ _ _ Group.containers (fun _ _ => rfl) v group h
  cases hcontainers : v.given? 0 "containers" with
  | none =>
      rw [hcontainers] at hgiven
      have hnone : group.containers = [] := hgiven
      rw [hnone]
      rfl
  | some w =>
      rw [hcontainers] at hgiven
      have hhead := Json.head?_of_list (v := w) hgiven
      cases hfirst : w.first? with
      | none =>
          rw [hfirst] at hhead
          rw [hhead]
          simp [hfirst]
      | some container =>
          rw [hfirst] at hhead
          obtain ⟨report, hreport, hhead⟩ := hhead
          rw [hhead, containerState_eq_ok hreport]
          simp [hfirst]

/-- **The state of a list of groups** is that of the container that counts. -/
theorem firstState_of_groups {v : Value} {read : List Group}
    (h : decodeValue (groups .value) v = .ok read) : firstState read = stateOf (reported? v) := by
  have hhead := Json.head?_of_list h
  have hreport : (read.head?.bind fun group => group.containers.head?).bind id = reported? v := by
    rw [reported?, firstContainer?]
    cases hfirst : v.first? with
    | none =>
        rw [hfirst] at hhead
        rw [hhead]
        rfl
    | some w =>
        rw [hfirst] at hhead
        obtain ⟨group, hgroup, hhead⟩ := hhead
        rw [hhead, Option.bind_some, Option.bind_some, head?_of_group hgroup]
  rw [firstState, hreport, stateOf]
  cases reported? v with
  | none => rfl
  | some word => rfl

/-! ### What is concluded -/

/-- **A request brings a result**: its answer has the status of a success, and its text is an
envelope that says that the backend did what it was asked for. -/
def Succeeds (ending : Option Response) (result : Value) : Prop :=
  ∃ status body envelope, ending = some (.answered status (some body)) ∧
    (200 ≤ status ∧ status < 300) ∧ Envelope.ofText (bodyText body) = .ok envelope ∧
      saysSuccess (bodyText body) = true ∧ envelope.result = result

/-- **A status call fails**: its request is not sent or not answered, or one of the layers of the
answer is not what it has to be. -/
inductive StatusFailure : Option Response → Prop
  | unsent : StatusFailure none
  | unreachable : StatusFailure (some .unreachable)
  | late : StatusFailure (some .timedOut)
  /-- A redirect was given up. -/
  | misled (reason : String) : StatusFailure (some (.misled reason))
  /-- The status is not that of a success. -/
  | refused {status : Nat} {body : Option (List UInt8)}
      (hstatus : ¬ (200 ≤ status ∧ status < 300)) : StatusFailure (some (.answered status body))
  /-- The body did not arrive in full, or its text is no envelope. -/
  | unreadable {status : Nat} {body : Option (List UInt8)}
      (hstatus : 200 ≤ status ∧ status < 300)
      (htext : ∀ bytes envelope, body = some bytes →
        Envelope.ofText (bodyText bytes) ≠ .ok envelope) :
      StatusFailure (some (.answered status body))
  /-- The envelope does not say that the backend did what it was asked for. -/
  | rejected {status : Nat} {bytes : List UInt8} {envelope : Envelope}
      (hstatus : 200 ≤ status ∧ status < 300)
      (henvelope : Envelope.ofText (bodyText bytes) = .ok envelope)
      (hword : saysSuccess (bodyText bytes) = false) :
      StatusFailure (some (.answered status (some bytes)))
  /-- There is a result, and it is no list of groups. -/
  | misshapen {ending : Option Response} {result : Value} (hsuccess : Succeeds ending result)
      (hnull : result ≠ .null) (hresult : isGroups result = false) : StatusFailure ending

theorem succeeds_iff {e : Exchange} {result : Value} :
    Succeeds (some e.response) result ↔ acknowledged? e = some result := by
  rw [acknowledged?_eq_some_iff]
  constructor
  · rintro ⟨status, body, envelope, he, hstatus, henvelope, hword, hresult⟩
    rw [← success_of_ofText henvelope] at hword
    exact ⟨status, body, envelope, Option.some.inj he, isSuccess_iff.mpr hstatus, henvelope, hword,
      hresult⟩
  · rintro ⟨status, body, envelope, he, hstatus, henvelope, hsuccess, hresult⟩
    rw [success_of_ofText henvelope] at hsuccess
    exact ⟨status, body, envelope, congrArg some he, isSuccess_iff.mp hstatus, henvelope, hsuccess,
      hresult⟩

/-- **A call has failed or brought a result.** -/
theorem statusFailure_or_succeeds (e : Response) :
    StatusFailure (some e) ∨ ∃ result, Succeeds (some e) result := by
  cases e with
  | unreachable => exact .inl .unreachable
  | timedOut => exact .inl .late
  | misled reason => exact .inl (.misled reason)
  | answered status body =>
      by_cases hstatus : 200 ≤ status ∧ status < 300
      · cases body with
        | none => exact .inl (.unreadable hstatus nofun)
        | some bytes =>
            cases henvelope : Envelope.ofText (bodyText bytes) with
            | error f =>
                refine .inl (.unreadable hstatus fun other envelope hother hread => ?_)
                obtain rfl := Option.some.inj hother
                cases henvelope.symm.trans hread
            | ok envelope =>
                cases hword : saysSuccess (bodyText bytes) with
                | false => exact .inl (.rejected hstatus henvelope hword)
                | true =>
                    exact .inr ⟨_, status, bytes, envelope, rfl, hstatus, henvelope, hword, rfl⟩
      · exact .inl (.refused hstatus)

/-- **Where nothing fails** there is a list of groups, or null. -/
theorem exists_groups_of_not_failure {ending : Option Response} (h : ¬ StatusFailure ending) :
    ∃ result, Succeeds ending result ∧ (result = .null ∨ isGroups result = true) := by
  cases ending with
  | none => exact absurd .unsent h
  | some e =>
      obtain ⟨result, hsuccess⟩ := (statusFailure_or_succeeds e).resolve_left h
      refine ⟨result, hsuccess, ?_⟩
      refine Classical.byContradiction fun hresult => ?_
      obtain ⟨hnull, hgroups⟩ := not_or.mp hresult
      exact h (.misshapen hsuccess hnull (Bool.eq_false_iff.mpr hgroups))

/-- An ending that fails brings no result, or one of another form. -/
theorem StatusFailure.not_succeeds_or_misshapen {ending : Option Response}
    (h : StatusFailure ending) : (∀ result, ¬ Succeeds ending result) ∨
      ∃ result, Succeeds ending result ∧ result ≠ .null ∧ isGroups result = false := by
  cases h with
  | unsent =>
      left
      rintro _ ⟨_, _, _, hanswer, _⟩
      cases hanswer
  | unreachable =>
      left
      rintro _ ⟨_, _, _, hanswer, _⟩
      cases hanswer
  | late =>
      left
      rintro _ ⟨_, _, _, hanswer, _⟩
      cases hanswer
  | misled reason =>
      left
      rintro _ ⟨_, _, _, hanswer, _⟩
      cases hanswer
  | refused hstatus =>
      left
      rintro _ ⟨_, _, _, hanswer, hrange, _⟩
      obtain ⟨rfl, _⟩ := Response.answered.inj (Option.some.inj hanswer)
      exact hstatus hrange
  | unreadable _ htext =>
      left
      rintro _ ⟨_, _, envelope, hanswer, _, henvelope, _⟩
      obtain ⟨rfl, hbody⟩ := Response.answered.inj (Option.some.inj hanswer)
      exact htext _ envelope hbody henvelope
  | rejected _ _ hword =>
      left
      rintro _ ⟨_, _, _, hanswer, _, _, hother, _⟩
      obtain ⟨rfl, hbody⟩ := Response.answered.inj (Option.some.inj hanswer)
      obtain rfl := Option.some.inj hbody
      cases hword.symm.trans hother
  | misshapen hsuccess hnull hresult => exact .inr ⟨_, hsuccess, hnull, hresult⟩

section Conclusions

variable {endpoint : String} {url : Url} {e : Exchange} {result : Value}

/-- A result that is not null is read as a list of groups. -/
theorem statusConclusion_of_ne_null (h : Succeeds (some e.response) result)
    (hnull : result ≠ .null) :
    (statusConclusion endpoint url e).1 =
      match decodeValue (groups .value) result with
      | .error f => .error (wrongPayload f)
      | .ok read => .ok (firstState read) := by
  rw [statusConclusion, payload_of_acknowledged _ _ (succeeds_iff.mp h)]
  split
  · rename_i hpayload
    cases hpayload
  · rename_i hpayload
    cases hpayload
    exact absurd rfl hnull
  · rename_i hpayload
    cases hpayload
    cases decodeValue (groups .value) result with
    | error f => rfl
    | ok read => rfl

/-- A list of groups has the state that it reports, and null has none. -/
theorem statusConclusion_of_groups (h : Succeeds (some e.response) result)
    (hresult : result = .null ∨ isGroups result = true) :
    (statusConclusion endpoint url e).1 = .ok (stateOf (reported? result)) := by
  have hack := succeeds_iff.mp h
  rcases hresult with rfl | hgroups
  · rw [statusConclusion, payload_of_acknowledged _ _ hack]
    rfl
  · have hnull : result ≠ .null := by
      rintro rfl
      cases hgroups
    have hread := isOk_groups (wasRead_of_acknowledged hack)
    rw [statusConclusion_of_ne_null h hnull]
    cases hdecode : decodeValue (groups .value) result with
    | error f =>
        rw [hdecode, hgroups] at hread
        cases hread
    | ok read => exact congrArg Except.ok (firstState_of_groups hdecode)

/-- Any other result is refused. -/
theorem statusConclusion_of_misshapen (h : Succeeds (some e.response) result)
    (hnull : result ≠ .null) (hresult : isGroups result = false) :
    ∃ error, (statusConclusion endpoint url e).1 = .error error := by
  have hread := isOk_groups (wasRead_of_acknowledged (succeeds_iff.mp h))
  rw [statusConclusion_of_ne_null h hnull]
  cases hdecode : decodeValue (groups .value) result with
  | error f => exact ⟨wrongPayload f, rfl⟩
  | ok read =>
      rw [hdecode, hresult] at hread
      cases hread

/-- **When there is no state.** -/
theorem statusConclusion_error_iff :
    (∃ error, (statusConclusion endpoint url e).1 = .error error) ↔
      StatusFailure (some e.response) := by
  constructor
  · rintro ⟨error, herror⟩
    refine Classical.byContradiction fun hfailure => ?_
    obtain ⟨result, hsuccess, hresult⟩ := exists_groups_of_not_failure hfailure
    rw [statusConclusion_of_groups hsuccess hresult] at herror
    cases herror
  · intro hfailure
    rcases hfailure.not_succeeds_or_misshapen with hnone | ⟨result, hsuccess, hnull, hresult⟩
    · have hrefused : acknowledged? e = none := Option.eq_none_iff_forall_ne_some.mpr
        fun result hack => hnone result (succeeds_iff.mpr hack)
      obtain ⟨error, notices, hpayload⟩ := payload_of_not_acknowledged endpoint url hrefused
      exact ⟨error, by rw [statusConclusion, hpayload]⟩
    · exact statusConclusion_of_misshapen hsuccess hnull hresult

end Conclusions

/-! ### Reports -/

/-- **Nothing is reported**: there is no first group, no first container of it, or no state of
that. -/
inductive ReportsNothing : Value → Prop
  | null : ReportsNothing .null
  | noGroup : ReportsNothing (.array [])
  | noContainer {group : Value} {others : List Value}
      (hcontainers : group.given? 0 "containers" = none ∨
        group.given? 0 "containers" = some (.array [])) : ReportsNothing (.array (group :: others))
  | noState {group container : Value} {others rest : List Value}
      (hcontainers : group.given? 0 "containers" = some (.array (container :: rest)))
      (hstate : container.given? 0 "state" = none ∨ container.given? 0 "state" = some .null) :
      ReportsNothing (.array (group :: others))

theorem ReportsNothing.reported?_eq {result : Value} (h : ReportsNothing result) :
    reported? result = none := by
  cases h with
  | null => rfl
  | noGroup => rfl
  | noContainer hcontainers =>
      rcases hcontainers with hnone | hempty
      · simp [reported?, firstContainer?, Value.first?, hnone]
      · simp [reported?, firstContainer?, Value.first?, hempty]
  | noState hcontainers hstate =>
      rcases hstate with hnone | hnull
      · simp [reported?, firstContainer?, Value.first?, hcontainers, hnone]
      · simp [reported?, firstContainer?, Value.first?, hcontainers, hnull, Value.string?]

/-- The word of a report in lower case, as far as the letters of the basic alphabet go. -/
def lowered (word : String) : List Char := word.toList.map Char.toLower

/-- **Only one word stands for a cluster that is running.** -/
theorem stateOf_eq_running_iff {report : Option String} :
    stateOf report = .running ↔ ∃ word, report = some word ∧ lowered word = "running".toList := by
  have hwords : ∀ entry ∈ ContainerState.reports, entry.2 = .running → entry.1 = "running" := by
    decide
  cases report with
  | none => simp [stateOf]
  | some word =>
      simp only [stateOf, Option.map_some, Option.getD_some, Option.some.injEq, exists_eq_left',
        ContainerState.ofReport]
      constructor
      · intro h
        cases hlookup : ContainerState.reports.lookup (String.ofList (word.toList.map Char.toLower))
          with
        | none =>
            rw [hlookup] at h
            cases h
        | some state =>
            rw [hlookup] at h
            obtain rfl : state = .running := h
            obtain ⟨front, back, hreports, _⟩ := List.lookup_eq_some_iff.mp hlookup
            have hword : String.ofList (word.toList.map Char.toLower) = "running" :=
              hwords (_, .running)
                (hreports ▸ List.mem_append_right _ List.mem_cons_self) rfl
            have hchars := congrArg String.toList hword
            rwa [String.toList_ofList] at hchars
      · intro h
        rw [lowered] at h
        rw [h]
        rfl

/-- The state of a report does not depend on the case of its letters. -/
theorem stateOf_congr {report other : Option String}
    (h : report.map lowered = other.map lowered) : stateOf report = stateOf other := by
  cases report with
  | none =>
      cases other with
      | none => rfl
      | some word => cases h
  | some word =>
      cases other with
      | none => cases h
      | some second =>
          have hsame : word.toList.map Char.toLower = second.toList.map Char.toLower :=
            Option.some.inj h
          simp only [stateOf, Option.map_some, Option.getD_some, ContainerState.ofReport, hsame]

/-! ### Results that are left out -/

/-- **A result that is left out is null.** -/
theorem result_of_missing {text : String} {envelope : Envelope}
    (h : Envelope.ofText text = .ok envelope)
    (hmissing : (Json.Document.ofText text).root.given? 1 "result" = none) :
    envelope.result = .null := by
  have hgiven := (given_of_ofText h).2
  rw [hmissing] at hgiven
  exact hgiven

/-! ### How a call ends -/

/-- **How the request of a status call ends**, if it can be sent. -/
def statusEnding (respond : HttpRequest → Exchange) (c : Client) (url : Url) : Option Response :=
  match sendableUrl url with
  | .error _ => none
  | .ok sendable => some (respond (c.statusRequest sendable)).response

/-- A call whose URL can be built comes to what its ending comes to. -/
theorem Client.outcome_of_url {c : Client} {cluster : String} {url : Url}
    (hurl : c.containersUrl cluster = .ok url) (respond : HttpRequest → Exchange) :
    (statusEnding respond c url = none ∧
        ∃ error, Planned.outcome respond (c.status cluster) = .error error) ∨
      ∃ e sendable, statusEnding respond c url = some e.response ∧
        Planned.outcome respond (c.status cluster) =
          (statusConclusion url.pathString sendable e).1 := by
  rw [Client.status, hurl, statusEnding]
  simp only [bind, Except.bind]
  cases sendableUrl url with
  | error error => exact .inl ⟨rfl, error, rfl⟩
  | ok sendable => exact .inr ⟨_, sendable, rfl, rfl⟩

end Backend

/-! ### The theorem -/

namespace Program

open Backend (Client Envelope Response Succeeds StatusFailure ReportsNothing statusEnding isGroups
  firstContainer? reported? stateOf lowered saysSuccess bodyText Planned)

/-- **What a status call says** of a cluster, when its request ends as given. -/
structure StatusAnswer (cluster : String) (ending : Option Response)
    (answer : Except Fault Cluster.Status) : Prop where
  /-- The answer is about the cluster that was asked for. -/
  cluster_eq : ∀ status, answer = .ok status → status.cluster = cluster
  /-- A cluster is running only where that is reported. -/
  running_iff : answer = .ok ⟨cluster, .running⟩ ↔
    ∃ result word, Succeeds ending result ∧ isGroups result = true ∧
      reported? result = some word ∧ lowered word = "running".toList
  /-- The state is that of the report, which is unknown without one. -/
  state_eq : ∀ result, Succeeds ending result → result = .null ∨ isGroups result = true →
    answer = .ok ⟨cluster, stateOf (reported? result)⟩
  unknown : ∀ result, Succeeds ending result → result = .null ∨ isGroups result = true →
    ReportsNothing result → answer = .ok ⟨cluster, .unknown⟩
  /-- A result that is left out counts as null. -/
  unknown_of_missing : ∀ status body envelope, ending = some (.answered status (some body)) →
    200 ≤ status ∧ status < 300 → Envelope.ofText (bodyText body) = .ok envelope →
      saysSuccess (bodyText body) = true →
        (Json.Document.ofText (bodyText body)).root.given? 1 "result" = none →
          answer = .ok ⟨cluster, .unknown⟩
  /-- There is no answer exactly where the call fails. -/
  error_iff : (∃ e, answer = .error e) ↔ StatusFailure ending

/-- The command that asks for a state, as far as its answer goes. -/
theorem World.status_eq (w : World) (filter : Notice.Filter) (c : Config) (cluster : String)
    (t : Transcript) :
    ((status w.system filter c cluster).run t).1 =
      match Planned.outcome (w.backend t.requests) ((Client.ofConfig c).status cluster) with
      | .ok state => .ok ⟨cluster, state⟩
      | .error e => .error (.call e) := by
  rw [status]
  generalize (Client.ofConfig c).status cluster = call
  have hperform : ((Planned.perform w.system.exchange (w.system.note filter none) call).run t).1 =
      Planned.outcome (w.backend t.requests) call :=
    ((w.surroundings filter none).perform_eq call t).1
  rw [StateT.run_bind, ← hperform]
  generalize (Planned.perform w.system.exchange (w.system.note filter none) call).run t = carried
  obtain ⟨result, after⟩ := carried
  cases result with
  | error e => rfl
  | ok state => rfl

/-- **An ending that brings a list of groups**, or null, has the state that is reported. -/
theorem World.status_of_groups {w : World} {filter : Notice.Filter} {c : Config} {cluster : String}
    {t : Transcript} {url : Url} {result : Json.Value}
    (hurl : (Client.ofConfig c).containersUrl cluster = .ok url)
    (hsuccess : Succeeds (statusEnding (w.backend t.requests) (Client.ofConfig c) url) result)
    (hresult : result = .null ∨ isGroups result = true) :
    ((status w.system filter c cluster).run t).1 = .ok ⟨cluster, stateOf (reported? result)⟩ := by
  rw [w.status_eq]
  rcases Client.outcome_of_url hurl (w.backend t.requests) with
    ⟨hnone, _⟩ | ⟨e, sendable, hending, houtcome⟩
  · rw [hnone] at hsuccess
    obtain ⟨_, _, _, hanswer, _⟩ := hsuccess
    cases hanswer
  · rw [hending] at hsuccess
    rw [houtcome, Backend.statusConclusion_of_groups hsuccess hresult]

/-- **There is no state** exactly where the call fails. -/
theorem World.status_error_iff {w : World} {filter : Notice.Filter} {c : Config} {cluster : String}
    {t : Transcript} {url : Url} (hurl : (Client.ofConfig c).containersUrl cluster = .ok url) :
    (∃ e, ((status w.system filter c cluster).run t).1 = .error e) ↔
      StatusFailure (statusEnding (w.backend t.requests) (Client.ofConfig c) url) := by
  rw [w.status_eq]
  rcases Client.outcome_of_url hurl (w.backend t.requests) with
    ⟨hnone, error, houtcome⟩ | ⟨e, sendable, hending, houtcome⟩
  · rw [hnone, houtcome]
    exact iff_of_true ⟨_, rfl⟩ .unsent
  · rw [hending, houtcome, ← @Backend.statusConclusion_error_iff url.pathString sendable e]
    cases (Backend.statusConclusion url.pathString sendable e).1 with
    | error error => exact iff_of_true ⟨_, rfl⟩ ⟨error, rfl⟩
    | ok state =>
        constructor
        · rintro ⟨_, herror⟩
          cases herror
        · rintro ⟨_, herror⟩
          cases herror

/-- **What a status call says**, in every world. -/
theorem World.statusAnswer_of_url {w : World} {filter : Notice.Filter} {c : Config}
    {cluster : String} {t : Transcript} {url : Url}
    (hurl : (Client.ofConfig c).containersUrl cluster = .ok url) :
    StatusAnswer cluster (statusEnding (w.backend t.requests) (Client.ofConfig c) url)
      ((status w.system filter c cluster).run t).1 where
  cluster_eq s hs := by
    rw [w.status_eq] at hs
    split at hs
    · obtain rfl := Except.ok.inj hs
      rfl
    · cases hs
  running_iff := by
    constructor
    · intro hrunning
      have hfailure :
          ¬ StatusFailure (statusEnding (w.backend t.requests) (Client.ofConfig c) url) := by
        intro h
        obtain ⟨e, he⟩ := (World.status_error_iff hurl).mpr h
        cases hrunning.symm.trans he
      obtain ⟨result, hsuccess, hresult⟩ := Backend.exists_groups_of_not_failure hfailure
      have hstate := hrunning.symm.trans (World.status_of_groups hurl hsuccess hresult)
      obtain ⟨word, hword, hlowered⟩ := Backend.stateOf_eq_running_iff.mp
        (Cluster.Status.mk.inj (Except.ok.inj hstate)).2.symm
      refine ⟨result, word, hsuccess, hresult.resolve_left ?_, hword, hlowered⟩
      rintro rfl
      cases hword
    · rintro ⟨result, word, hsuccess, hgroups, hword, hlowered⟩
      rw [World.status_of_groups hurl hsuccess (.inr hgroups),
        Backend.stateOf_eq_running_iff.mpr ⟨word, hword, hlowered⟩]
  state_eq result hsuccess hresult := World.status_of_groups hurl hsuccess hresult
  unknown result hsuccess hresult hnothing := by
    rw [World.status_of_groups hurl hsuccess hresult, hnothing.reported?_eq]
    rfl
  unknown_of_missing code body envelope hending hstatus henvelope hword hmissing := by
    have hnull := Backend.result_of_missing henvelope hmissing
    have hsuccess : Succeeds (statusEnding (w.backend t.requests) (Client.ofConfig c) url) .null :=
      ⟨code, body, envelope, hending, hstatus, henvelope, hword, hnull⟩
    exact World.status_of_groups hurl hsuccess (.inl rfl)
  error_iff := World.status_error_iff hurl

end Program

open Backend Program

/-- **A status call and its outcome.**  A cluster is running only where a list of groups says so in
the one place that is looked at.  Two answers in which the containers that count are the same, or
report the same up to the case of basic letters, say the same, whatever else stands in them. -/
theorem status_outcome (filter : Notice.Filter) (c : Config) (cluster : String) {url : Url}
    (hurl : (Client.ofConfig c).containersUrl cluster = .ok url) :
    let ending (w : World) (t : Transcript) :=
      statusEnding (w.backend t.requests) (Client.ofConfig c) url
    let answer (w : World) (t : Transcript) := ((Program.status w.system filter c cluster).run t).1
    (∀ w t, StatusAnswer cluster (ending w t) (answer w t)) ∧
      ∀ w t other s first second, Succeeds (ending w t) first → Succeeds (ending other s) second →
        isGroups first = true → isGroups second = true →
          (firstContainer? first = firstContainer? second → answer w t = answer other s) ∧
          ((reported? first).map lowered = (reported? second).map lowered →
            answer w t = answer other s) := by
  intro ending answer
  refine ⟨fun w t => World.statusAnswer_of_url hurl, ?_⟩
  intro w t other s first second hfirst hsecond hgroups hothers
  have hanswer : answer w t = .ok ⟨cluster, stateOf (reported? first)⟩ :=
    World.status_of_groups hurl hfirst (.inr hgroups)
  have hother : answer other s = .ok ⟨cluster, stateOf (reported? second)⟩ :=
    World.status_of_groups hurl hsecond (.inr hothers)
  rw [hanswer, hother]
  constructor
  · intro hsame
    rw [reported?, reported?, hsame]
  · intro hsame
    rw [stateOf_congr hsame]

namespace Program

/-- A world in which every request is answered with a text. -/
def answeringWorld (text : String) : World where
  files _ := .nothing
  backend _ _ := .answered 200 (some (Utf8.encode text.toList))
  allotment _ _ := default
  runId := default
  now := default

/-- A report of a container that is running, in front of one that is not. -/
def crowdedReply : String :=
  "\x7b\"isSuccess\":true,\"result\":[\x7b\"containers\":[\x7b\"state\":\"RUNNING\"\x7d," ++
    "\x7b\"state\":\"dead\"\x7d]\x7d,\x7b\x7d]\x7d"

/-- A report of the same container alone. -/
def lonelyReply : String :=
  "\x7b\"isSuccess\":true,\"result\":[\x7b\"containers\":[\x7b\"state\":\"Running\"\x7d]\x7d]\x7d"

/-- The result of the one reply. -/
def crowdedResult : Json.Value := .array [
  .object [("containers", .array [
    .object [("state", .string "RUNNING")], .object [("state", .string "dead")]])],
  .object []]

/-- The result of the other reply. -/
def lonelyResult : Json.Value :=
  .array [.object [("containers", .array [.object [("state", .string "Running")]])]]

theorem ofText_crowdedReply :
    Envelope.ofText (bodyText (Utf8.encode crowdedReply.toList)) = .ok ⟨true, crowdedResult⟩ := by
  have hbody := bodyText_encode crowdedReply
  have hdocument : Json.Document.ofText crowdedReply =
      ⟨.object [(some "isSuccess", .boolean true), (some "result", .ofValue crowdedResult)] true,
        true⟩ := by
    cbv
  simp only [hbody, Envelope.ofText, Json.decodeText, hdocument]
  rfl

theorem ofText_lonelyReply :
    Envelope.ofText (bodyText (Utf8.encode lonelyReply.toList)) = .ok ⟨true, lonelyResult⟩ := by
  have hbody := bodyText_encode lonelyReply
  have hdocument : Json.Document.ofText lonelyReply =
      ⟨.object [(some "isSuccess", .boolean true), (some "result", .ofValue lonelyResult)] true,
        true⟩ := by
    cbv
  simp only [hbody, Envelope.ofText, Json.decodeText, hdocument]
  rfl

end Program

theorem eq_ok_of_toOption {ε α : Type} {x : Except ε α} {a : α} (h : x.toOption = some a) :
    x = .ok a := by
  cases x with
  | error e => cases h
  | ok b => exact congrArg Except.ok (Option.some.inj h)

/-- A cluster of which one container is running and another one is not. -/
theorem status_outcome_of_crowded_reply :
    let c : Config := { apiUrl := "http://[::1]" }
    let answer (w : World) := ((Program.status w.system (.ofVerbosity 0) c "zk00").run {}).1
    answer (answeringWorld crowdedReply) = .ok ⟨"zk00", .running⟩ ∧
      answer (answeringWorld crowdedReply) = answer (answeringWorld lonelyReply) := by
  intro c answer
  let url : Url := {
    scheme := "http".toList, host := some "[::1]".toList
    path := .segments ["api".toList, "containers".toList, "zk00".toList] }
  have hurl : (Client.ofConfig c).containersUrl "zk00" = .ok url := by
    have hread : ((Client.ofConfig c).containersUrl "zk00").toOption = some url := by decide +kernel
    exact eq_ok_of_toOption hread
  have hsendable : sendableUrl url = .ok url := by
    have hkept : (sendableUrl url).toOption = some url := by decide +kernel
    exact eq_ok_of_toOption hkept
  obtain ⟨hanswer, hpair⟩ := status_outcome (.ofVerbosity 0) c "zk00" hurl
  have hending (reply : String) :
      statusEnding ((answeringWorld reply).backend []) (Client.ofConfig c) url =
        some (.answered 200 (some (Utf8.encode reply.toList))) := by
    rw [statusEnding, hsendable]
    rfl
  have hsucceeds {reply : String} {result : Json.Value}
      (henvelope : Envelope.ofText (bodyText (Utf8.encode reply.toList)) = .ok ⟨true, result⟩) :
      Succeeds (statusEnding ((answeringWorld reply).backend []) (Client.ofConfig c) url) result :=
    ⟨200, _, _, hending reply, by decide, henvelope, (success_of_ofText henvelope).symm, rfl⟩
  have hcrowded := hsucceeds ofText_crowdedReply
  have hlonely := hsucceeds ofText_lonelyReply
  constructor
  · exact (hanswer (answeringWorld crowdedReply) {}).running_iff.mpr
      ⟨crowdedResult, "RUNNING", hcrowded, rfl, rfl, by decide⟩
  · exact (hpair _ {} _ {} crowdedResult lonelyResult hcrowded hlonely rfl rfl).2 (by decide)

end Provisioning
