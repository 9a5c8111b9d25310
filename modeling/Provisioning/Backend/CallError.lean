/-
**Errors of backend calls.**

A call can fail before an answer arrives, by an answer that is not a success, by a success that
reports a failure inside, or by a content that is not what was asked for.

Main definitions:

* `Backend.CallError`, `Backend.CallError.message` — the errors and their texts.
-/

set_option autoImplicit false
set_option relaxedAutoImplicit false

namespace Provisioning.Backend

/-- Why a call to the backend failed. -/
inductive CallError where
  /-- The request could not be made or sent. -/
  | http (message : String)
  /-- No answer came in time. -/
  | timeout (endpoint : String)
  /-- The answer's status is not a success. -/
  | api (status : Nat) (message : String)
  /-- The backend answered that it did not do what it was asked for. -/
  | rejected (endpoint message : String)
  /-- The answer's content cannot be read. -/
  | parse (message : String)
  deriving DecidableEq, Repr

/-- The text of an error. -/
def CallError.message : CallError → String
  | .http message => s!"HTTP error: {message}"
  | .timeout endpoint => s!"Request to {endpoint} timed out"
  | .api status message => s!"API error: {status} - {message}"
  | .rejected endpoint message => s!"Backend rejected {endpoint}: {message}"
  | .parse message => s!"JSON parse error: {message}"

end Provisioning.Backend
