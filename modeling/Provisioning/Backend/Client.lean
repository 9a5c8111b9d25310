/-
**The client of the backend.**

A call is one request.  Before it is sent its URL is made from the base URL, which may turn out to
be no URL, or none of the web; after it ended the answer is taken apart.  Both are functions: a
planned call is its request and what is concluded from each way in which that can end.  No call is
ever repeated; redirects are followed by the transport, and only their end is seen here.

Main definitions:

* `Backend.Client`, `Backend.Client.endpoint` — the client, and where its requests go;
* `Backend.Planned` — a planned call;
* `Backend.Client.create`, `Backend.Client.status` — **the calls**;
* `Backend.Planned.perform` — carrying out a call;
* `Backend.Client.partner` — the client as partner of a workflow.
-/

import Provisioning.Backend.Envelope
import Provisioning.Backend.Exchange
import Provisioning.Compensation
import Provisioning.Config
import Provisioning.Url.Reader
import Provisioning.Workflow

set_option autoImplicit false
set_option relaxedAutoImplicit false

namespace Provisioning.Backend

open Cluster (Kind Order ContainerState Status)
open Json (Value)

/-- The client of a backend. -/
structure Client where
  /-- The base URL as it was given. -/
  baseUrl : String
  requestLimitSecs : UInt64 := 30
  /-- The time limit for creating a coordination service. -/
  coordinationLimitSecs : UInt64 := 180
  deriving DecidableEq, Repr

/-- The client of a configuration. -/
def Client.ofConfig (c : Config) : Client :=
  ⟨c.apiUrl, c.requestTimeoutSecs, c.coordinationTimeoutSecs⟩

/-! ### Requests -/

/-- A text without the slashes at its end. -/
def dropFinalSlashes (text : List Char) : List Char := (text.reverse.dropWhile (· == '/')).reverse

/-- Where the requests for a path go: the base URL without the slashes at its end, and the path
below `/api/`. -/
def Client.endpoint (c : Client) (path : String) : String :=
  String.ofList (dropFinalSlashes c.baseUrl.toList ++ "/api/".toList ++ path.toList)

/-- The longest URL that can be sent. -/
def longestUrl : Nat := 65534

/-- Whether a URL can be sent: it is not too long, and its host has no character that is not allowed
in requests. -/
def isSendable (u : Url) : Bool :=
  u.chars.length ≤ longestUrl && !(u.host.getD []).any ("\x22\x60\x7b\x7d".toList.contains ·)

/-- The URL of a request: one of the web, that can be sent.  User name and password are not part
of it. -/
def sendableUrl (u : Url) : Except CallError Url :=
  let u := u.anonymous
  if u.hasHost && u.isWeb && isSendable u then .ok u
  else .error (.http s!"builder error for url ({u.text})")

/-- The URL of a create call. -/
def Client.collectionUrl (c : Client) (kind : Kind) : Except CallError Url :=
  match Url.ofText (c.endpoint kind.resource) with
  | .error _ => .error (.http "builder error")
  | .ok u => .ok u

/-- The URL of a status call: the name of the cluster is one segment below the containers. -/
def Client.containersUrl (c : Client) (cluster : String) : Except CallError Url :=
  match Url.ofText (c.endpoint "containers") with
  | .error e => .error (.http e.message)
  | .ok u =>
    match u.push? cluster.toList with
    | none => .error (.http s!"invalid base URL {c.baseUrl}")
    | some u => .ok u

/-! ### Answers -/

/-- What is concluded from the end of a request: a result, and what is to be noted. -/
abbrev Conclusion (α : Type) := Except CallError α × List Notice

/-- A planned call. -/
structure Planned (α : Type) where
  request : HttpRequest
  conclude : Exchange → Conclusion α

/-- What the text of every body says that is no envelope, or did not arrive in full. -/
def unreadableBody : CallError := .parse "error decoding response body"

/-- The payload of an answer.  `endpoint` names the call in errors, and `url` is where its last
request went. -/
def Response.payload (endpoint : String) (url : Url) : Response → Conclusion Value
  | .unreachable => (.error (.http s!"error sending request for url ({url.text})"), [])
  | .timedOut => (.error (.timeout endpoint), [])
  | .misled reason => (.error (.http reason), [])
  | .answered status body =>
    if !isSuccess status then
      let message := match body with
        | some bytes => String.ofList (Utf8.decodeLossy bytes)
        | none => "Unknown error"
      (.error (.api status message), [])
    else
      match body.map fun bytes => Envelope.ofText (bodyText bytes) with
      | none | some (.error _) => (.error unreadableBody, [])
      | some (.ok envelope) =>
        match envelope.payload with
        | .ok v => (.ok v, [])
        | .error message =>
          (.error (.rejected endpoint message), [.failureReported endpoint message])

/-- The payload of a call whose request went to `url`. -/
def payload (endpoint : String) (url : Url) (e : Exchange) : Conclusion Value :=
  e.response.payload endpoint (e.destination url)

/-- The error of a payload of the wrong form. -/
def wrongPayload (f : Json.Fault) : CallError := .parse (f.message?.getD "")

/-- The name of a created cluster: the one that the backend gives it, or else the one that was
ordered.  An empty name counts as none. -/
def resolvedName (kind : Kind) (ordered : String) (given : Option String) : String × List Notice :=
  match given.filter (!·.isEmpty) with
  | none => (ordered, [])
  | some name => (name, if name = ordered then [] else [.renamed kind ordered name])

/-- What the answer to a create call says: the name of the cluster. -/
def createConclusion (o : Order) (url : Url) (e : Exchange) : Conclusion String :=
  match payload o.kind.resource url e with
  | (.error error, notices) => (.error error, notices)
  | (.ok v, notices) =>
    match Json.decodeValue (createdName .value) v with
    | .error f => (.error (wrongPayload f), notices)
    | .ok given =>
      let (name, renamed) := resolvedName o.kind o.name given
      (.ok name, notices ++ renamed)

/-- What the answer to a status call says: the state of the cluster.  Null stands for no
containers. -/
def statusConclusion (endpoint : String) (url : Url) (e : Exchange) : Conclusion ContainerState :=
  match payload endpoint url e with
  | (.error error, notices) => (.error error, notices)
  | (.ok .null, notices) => (.ok (firstState []), notices)
  | (.ok v, notices) =>
    match Json.decodeValue (groups .value) v with
    | .error f => (.error (wrongPayload f), notices)
    | .ok groups => (.ok (firstState groups), notices)

/-! ### Calls -/

/-- The time limit of a create call. -/
def Client.createLimit (c : Client) : Kind → UInt64
  | .coordinationService => c.coordinationLimitSecs
  | _ => c.requestLimitSecs

/-- **A create call**: the order is sent to the collection of its kind. -/
def Client.create (c : Client) (o : Order) : Except CallError (Planned String) := do
  let url ← sendableUrl (← c.collectionUrl o.kind)
  return {
    request := { method := .post, url, limitSecs := c.createLimit o.kind, body := some o.json }
    conclude := createConclusion o url }

/-- **A status call.** -/
def Client.status (c : Client) (cluster : String) : Except CallError (Planned ContainerState) := do
  let url ← c.containersUrl cluster
  let endpoint := url.pathString
  let url ← sendableUrl url
  return {
    request := { method := .get, url, limitSecs := c.requestLimitSecs, body := none }
    conclude := statusConclusion endpoint url }

/-- What is noted before a create call. -/
def Client.createNotice (c : Client) (o : Order) : Notice :=
  .callingCreate o.kind (c.endpoint o.kind.resource)

/-- Carry out a planned call: send its request once and note what is concluded. -/
def Planned.perform {m : Type → Type} [Monad m] {α : Type} (exchange : HttpRequest → m Exchange)
    (note : Notice → m Unit) : Except CallError (Planned α) → m (Except CallError α)
  | .error e => pure (.error e)
  | .ok planned => do
    let (result, notices) := planned.conclude (← exchange planned.request)
    notices.forM note
    return result

/-- The client as partner of a workflow.  What a failed run has created is left running. -/
def Client.partner {m : Type → Type} [Monad m] (c : Client)
    (exchange : HttpRequest → m Exchange) (sleep : UInt64 → m Unit) (note : Notice → m Unit) :
    Workflow.Partner m where
  publish _ := pure ()
  note := note
  answer
    | .create o => do
      note (c.createNotice o)
      Planned.perform exchange note (c.create o)
    | .status cluster => Planned.perform exchange note (c.status cluster)
    | .sleep ms => sleep ms
    | .compensate stage created => (Compensation.leaveRunning stage created).forM note

end Provisioning.Backend
