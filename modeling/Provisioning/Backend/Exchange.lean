/-
**Requests to the backend and how they end.**

A request is sent once and ends in one of three ways: no connection carries it, the time limit
strikes before the head of an answer, or an answer with a status arrives, whose body may still break
off or be cut short by the time limit.

An answer may also send the request elsewhere.  Then it is not handed on: the transport follows it
with a request of its own, and so on, until an answer of another kind arrives, or none, or until it
gives up.  How often it follows, and where it does not, is left to it.  So what comes of a request
is the way that it took, and how it ended there; an answer whose redirect is not one that can be
followed, as one without a place, is an answer like any other.

Main definitions:

* `Backend.HttpRequest` — a request;
* `Backend.Response` — how a request ended;
* `Backend.Redirect` — an answer that sends a request elsewhere;
* `Backend.Exchange` — **what came of a request**, redirects included;
* `Backend.Exchange.requests` — the requests that were made for it;
* `Backend.bodyText` — the text of a body, as far as JSON is concerned.
-/

import Provisioning.Json.Value
import Provisioning.Text.Utf8
import Provisioning.Url.Basic

set_option autoImplicit false
set_option relaxedAutoImplicit false

namespace Provisioning.Backend

/-- The method of a request. -/
inductive Method where
  | get
  | post
  deriving DecidableEq, Repr

/-- A request to the backend. -/
structure HttpRequest where
  method : Method
  url : Url
  /-- The time limit for the whole exchange. -/
  limitSecs : UInt64
  body : Option Json.Value
  deriving Repr

/-- The path and query of a request, as they are sent. -/
def HttpRequest.target (r : HttpRequest) : String :=
  String.ofList (r.url.pathText ++ Url.marked '?' r.url.query)

/-- How a request ended. -/
inductive Response where
  /-- No connection, or one that ended before the head of an answer. -/
  | unreachable
  /-- The time limit struck before the head of an answer. -/
  | timedOut
  /-- An answer; nothing for a body that did not arrive in full. -/
  | answered (status : Nat) (body : Option (List UInt8))
  /-- A redirect that was given up, and what is said of it. -/
  | misled (reason : String)
  deriving DecidableEq, Repr

/-- An answer that sends a request elsewhere. -/
structure Redirect where
  /-- Whether the request is to be repeated there, as it is with the status 307 or 308; otherwise it
  is only asked what is there. -/
  repeats : Bool
  target : Url
  deriving DecidableEq, Repr

/-- The request with which a redirect is followed. -/
def Redirect.follow (d : Redirect) (r : HttpRequest) : HttpRequest :=
  if d.repeats then { r with url := d.target }
  else { r with method := .get, url := d.target, body := none }

/-- **What came of a request**: the redirects that were followed, and how the last request ended. -/
structure Exchange where
  redirects : List Redirect := []
  response : Response
  deriving DecidableEq, Repr

namespace Exchange

/-- No connection. -/
abbrev unreachable : Exchange := { response := .unreachable }

/-- The time limit struck. -/
abbrev timedOut : Exchange := { response := .timedOut }

/-- An answer at once. -/
abbrev answered (status : Nat) (body : Option (List UInt8)) : Exchange :=
  { response := .answered status body }

/-- Where the last request went, if the first one went to `url`. -/
def destination (e : Exchange) (url : Url) : Url := (e.redirects.getLast?.map (·.target)).getD url

/-- **The requests that were made** for a request: itself, and those with which redirects were
followed. -/
def requests (e : Exchange) (r : HttpRequest) : List HttpRequest :=
  e.redirects.scanl (fun sent d => d.follow sent) r

end Exchange

/-- Whether a status stands for success. -/
def isSuccess (status : Nat) : Bool := 200 ≤ status && status < 300

/-- Two escaped second halves of surrogate pairs, which name no character whatever stands around
them. -/
def noCharacter : List Char := "\\udc00\\udc00".toList

/-- Characters with something unreadable in place of ill-formed sequences.  Inside a string such a
sequence names no character and is written as an escape that names none either, so the string can
still be skipped but not kept.  Behind a backslash it is no escape at all. -/
def markIllFormed : (escaped : Bool) → List (Option Char) → List Char
  | _, [] => []
  | true, none :: rest => '\x00' :: markIllFormed false rest
  | false, none :: rest => noCharacter ++ markIllFormed false rest
  | escaped, some c :: rest => c :: markIllFormed (c == '\\' && !escaped) rest

/-- The text of a body, as far as JSON is concerned. -/
def bodyText (body : List UInt8) : String :=
  String.ofList (markIllFormed false (Utf8.scalars body))

end Provisioning.Backend
