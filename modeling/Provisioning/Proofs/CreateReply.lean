/-
**What the reply to a create call says.**

A create call can fail in many ways, but once the backend has answered with the status of a success
and an envelope that says that it did what it was asked for, the cluster is there: such a reply
**acknowledges** the call.  Whatever happens from then on is between the reader and the free result
of the envelope, of which only a name is wanted, and not even that, since the name that was ordered
stands in for one that is missing.

The reader takes an object whose member `name` is missing, null or a string, and it takes an array
of at most one such name.  It does not take null, nor any scalar; and an envelope without a result
counts as one whose result is null.

Main definitions:

* `Backend.acknowledged?` — the result of an envelope that acknowledges a call;
* `Backend.namesCluster` — **the results that are taken**.

Main results:

* `Backend.bodyText_encode` — the text of a body;
* `Backend.given_of_ofText` — an envelope has what its text gives;
* `Backend.isOk_createdName` — what the reader of a create call takes;
* `Backend.createConclusion_of_acknowledged` — **what is concluded** from an acknowledged call.
-/

import Provisioning.Backend.Client
import Provisioning.Proofs.SingleField
import Provisioning.Proofs.WrittenText

set_option relaxedAutoImplicit false
set_option autoImplicit false

namespace Provisioning.Backend

open Cluster (Order)
open Json (Value IsGiven decodeValue bind_eq_ok_iff)

/-! ### The text of a body -/

/-- Where nothing is ill-formed there is nothing to mark. -/
theorem markIllFormed_map_some (escaped : Bool) (text : List Char) :
    markIllFormed escaped (text.map some) = text := by
  induction text generalizing escaped with
  | nil => rw [List.map_nil, markIllFormed]
  | cons c rest ih => rw [List.map_cons, markIllFormed, ih]

/-- A body is the text that was written. -/
theorem bodyText_encode (text : String) : bodyText (Utf8.encode text.toList) = text := by
  rw [bodyText, Utf8.scalars_encode, markIllFormed_map_some, String.ofList_toList]

/-! ### Acknowledged calls -/

/-- The result of an envelope that arrived with the status of a success and says that the backend
did what it was asked for. -/
def Response.acknowledged? : Response → Option Value
  | .answered status (some body) =>
    if isSuccess status then
      match Envelope.ofText (bodyText body) with
      | .ok envelope => if envelope.success then some envelope.result else none
      | .error _ => none
    else none
  | _ => none

theorem Response.acknowledged?_eq_some_iff {r : Response} {v : Value} :
    r.acknowledged? = some v ↔
      ∃ status body envelope, r = .answered status (some body) ∧ isSuccess status = true ∧
        Envelope.ofText (bodyText body) = .ok envelope ∧ envelope.success = true ∧
          envelope.result = v := by
  constructor
  · intro h
    rcases r with - | - | ⟨status, - | body⟩ | reason
    · cases h
    · cases h
    · cases h
    · rw [acknowledged?] at h
      split at h
      · rename_i hstatus
        split at h
        · rename_i envelope henvelope
          split at h
          · rename_i hsuccess
            exact ⟨status, body, envelope, rfl, hstatus, henvelope, hsuccess, Option.some.inj h⟩
          · cases h
        · cases h
      · cases h
    · cases h
  · rintro ⟨status, body, envelope, rfl, hstatus, henvelope, hsuccess, rfl⟩
    simp [acknowledged?, hstatus, henvelope, hsuccess]

/-- The result with which a call was acknowledged in the end. -/
def acknowledged? (e : Exchange) : Option Value := e.response.acknowledged?

theorem acknowledged?_eq_some_iff {e : Exchange} {v : Value} : acknowledged? e = some v ↔
    ∃ status body envelope, e.response = .answered status (some body) ∧ isSuccess status = true ∧
      Envelope.ofText (bodyText body) = .ok envelope ∧ envelope.success = true ∧
        envelope.result = v :=
  Response.acknowledged?_eq_some_iff

/-- An acknowledged call has its result as payload, and nothing is noted. -/
theorem payload_of_acknowledged (endpoint : String) (url : Url) {e : Exchange} {v : Value}
    (h : acknowledged? e = some v) : payload endpoint url e = (.ok v, []) := by
  obtain ⟨status, body, envelope, hresponse, hstatus, henvelope, hsuccess, rfl⟩ :=
    acknowledged?_eq_some_iff.mp h
  simp [payload, hresponse, Response.payload, hstatus, henvelope, Envelope.payload, hsuccess]

/-- Any other call has none. -/
theorem payload_of_not_acknowledged (endpoint : String) (url : Url) {e : Exchange}
    (h : acknowledged? e = none) :
    ∃ error notices, payload endpoint url e = (.error error, notices) := by
  obtain ⟨redirects, response⟩ := e
  rw [payload]
  rw [acknowledged?] at h
  cases response with
  | unreachable => exact ⟨_, _, rfl⟩
  | timedOut => exact ⟨_, _, rfl⟩
  | misled reason => exact ⟨_, _, rfl⟩
  | answered status body =>
      cases hstatus : isSuccess status with
      | false => simp [Response.payload, hstatus]
      | true =>
          cases body with
          | none => simp [Response.payload, hstatus]
          | some bytes =>
              cases henvelope : Envelope.ofText (bodyText bytes) with
              | error f => simp [Response.payload, hstatus, henvelope]
              | ok envelope =>
                  cases hsuccess : envelope.success with
                  | true => simp [Response.acknowledged?, hstatus, henvelope, hsuccess] at h
                  | false =>
                      simp [Response.payload, hstatus, henvelope, Envelope.payload, hsuccess]

/-- **The calls with a payload** are those that were acknowledged. -/
theorem payload_eq_ok_iff {endpoint : String} {url : Url} {e : Exchange} {v : Value} :
    (payload endpoint url e).1 = .ok v ↔ acknowledged? e = some v := by
  cases hack : acknowledged? e with
  | none =>
      obtain ⟨error, notices, hpayload⟩ := payload_of_not_acknowledged endpoint url hack
      rw [hpayload]
      exact iff_of_false nofun nofun
  | some w =>
      rw [payload_of_acknowledged endpoint url hack]
      exact ⟨fun h => congrArg some (Except.ok.inj h),
        fun h => congrArg Except.ok (Option.some.inj h)⟩

/-! ### What an envelope is given -/

/-- The result of an envelope does not touch whether there was a success. -/
theorem apart_success :
    Json.Apart "isSuccess" (fun success (e : Envelope) => { e with success }) Envelope.success
      ([] ++ [.of "result" (Json.anyValue 1) fun result e => { e with result }]) where
  get_set _ _ := rfl
  name_ne := List.forall_mem_singleton.mpr (by decide)
  keeps := List.forall_mem_singleton.mpr fun _ => Json.RecordField.keeps_of fun _ _ _ _ h => h

/-- Whether there was a success does not touch the result of an envelope. -/
theorem apart_result :
    Json.Apart "result" (fun result (e : Envelope) => { e with result }) Envelope.result
      ([.of "isSuccess" Json.boolean fun success e => { e with success }] ++ []) where
  get_set _ _ := rfl
  name_ne := List.forall_mem_singleton.mpr (by decide)
  keeps := List.forall_mem_singleton.mpr fun _ => Json.RecordField.keeps_of fun _ _ _ _ h => h

/-- **An envelope has what its text gives**: a word on whether there was a success, and a result;
where the text does not give them there was no success, and the result is null. -/
theorem given_of_ofText {text : String} {envelope : Envelope}
    (h : Envelope.ofText text = .ok envelope) :
    IsGiven Json.boolean ((Json.Document.ofText text).root.given? 0 "isSuccess") false
        envelope.success ∧
      IsGiven (Json.anyValue 1) ((Json.Document.ofText text).root.given? 1 "result") .null
        envelope.result := by
  obtain ⟨e, hrecord, h⟩ := bind_eq_ok_iff.mp h
  split at h
  · obtain rfl := Except.ok.inj h
    exact ⟨Json.record_given apart_success hrecord, Json.record_given apart_result hrecord⟩
  · cases h

/-- A truth value is read of nothing else. -/
theorem boolean_eq_ok {r : Json.Raw} {b : Bool} (h : Json.boolean r = .ok b) : r = .boolean b := by
  cases r with
  | boolean c =>
      obtain rfl := Except.ok.inj h
      rfl
  | broken => cases h
  | null => cases h
  | number n => cases h
  | string s => cases h
  | array items closed => cases h
  | object members closed => cases h

/-- What is taken as any value was read. -/
theorem toValue?_of_anyValue {depth : Nat} {r : Json.Raw} {v : Value}
    (h : Json.anyValue depth r = .ok v) : r.toValue? (Json.nestingLimit - depth) = some v := by
  rw [Json.anyValue] at h
  split at h
  · rename_i value hvalue
    obtain rfl := Except.ok.inj h
    exact hvalue
  · cases h

/-- The result of an envelope was read, whatever the envelope says of it. -/
theorem wasRead_of_ofText {text : String} {envelope : Envelope}
    (h : Envelope.ofText text = .ok envelope) : envelope.result.WasRead := by
  have hresult := (given_of_ofText h).2
  cases hgiven : (Json.Document.ofText text).root.given? 1 "result" with
  | none =>
      rw [hgiven] at hresult
      rw [show envelope.result = .null from hresult]
      exact Value.wasRead_null
  | some r =>
      rw [hgiven] at hresult
      exact ⟨_, r, toValue?_of_anyValue hresult⟩

/-- What an acknowledged call brings was read. -/
theorem wasRead_of_acknowledged {e : Exchange} {v : Value} (h : acknowledged? e = some v) :
    v.WasRead := by
  obtain ⟨_, _, _, _, _, henvelope, _, rfl⟩ := acknowledged?_eq_some_iff.mp h
  exact wasRead_of_ofText henvelope

/-! ### The name in a result -/

/-- Whether a value is a name or stands for none. -/
def isName : Value → Bool
  | .null | .string _ => true
  | _ => false

/-- **The results that are taken**: an object whose name, if there is one, is a name, and an array
with at most one item, which is a name. -/
def namesCluster : Value → Bool
  | .object members => (members.lookup "name").all isName
  | .array items => items.length ≤ 1 && items.all isName
  | _ => false

/-- They are the records of a name. -/
theorem namesCluster_eq (v : Value) : namesCluster v = v.holds "name" isName := by
  cases v <;> rfl

theorem isOk_optional_text (v : Value) :
    (Json.optional Json.text (.ofValue v)).isOk = isName v := by
  cases v <;> rfl

/-- **The results that are taken** are those that name a cluster, or leave it unnamed. -/
theorem isOk_createdName {v : Value} (htidy : v.Tidy) :
    (decodeValue (createdName .value) v).isOk = namesCluster v := by
  rw [namesCluster_eq]
  exact Json.isOk_record htidy fun w _ => isOk_optional_text w

/-- **What is concluded** from an acknowledged call: a name, if the result is one that is taken, and
otherwise that the result cannot be read. -/
theorem createConclusion_of_acknowledged (o : Order) (url : Url) {e : Exchange} {v : Value}
    (h : acknowledged? e = some v) :
    if namesCluster v then ∃ name, (createConclusion o url e).1 = .ok name
    else ∃ message, (createConclusion o url e).1 = .error (.parse message) := by
  have hread := isOk_createdName (wasRead_of_acknowledged h).tidy
  rw [createConclusion, payload_of_acknowledged _ _ h]
  cases hgiven : decodeValue (createdName .value) v with
  | error f =>
      rw [hgiven] at hread
      rw [← hread]
      simp [hgiven, wrongPayload, Except.isOk, Except.toBool]
  | ok given =>
      rw [hgiven] at hread
      rw [← hread]
      simp [hgiven, Except.isOk, Except.toBool]

end Provisioning.Backend
