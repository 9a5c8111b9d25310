/-
**Requests for a workspace.**

A request names the nodes to deploy on, the port that clients connect to, the wished name of the
service and the plugins of its worker.  The port is kept as it was given, missing or far out of
range, so that a bad one is an answer of the validation and not of whatever read the request.

Main definitions:

* `Request` — a request as it was given;
* `ClientPort.check` — the accepted ports;
* `Request.validate` — **the validation**: the port first, then the nodes.
-/

set_option autoImplicit false
set_option relaxedAutoImplicit false

namespace Provisioning

/-- A request for a workspace. -/
structure Request where
  /-- The wished name; its accepted form names the worker. -/
  serviceName : String := ""
  clientPort : Option Int64 := none
  nodes : List String := []
  /-- Plugins installed on the worker. -/
  plugins : List String := []
  deriving DecidableEq, Repr, Inhabited

/-- Why a request is refused before anything is done. -/
inductive Request.Invalid where
  | port (given : Option Int64)
  | noNodes
  deriving DecidableEq, Repr

/-- The words for a refused request. -/
def Request.Invalid.message : Request.Invalid → String
  | .port given =>
    let shown := match given with
      | some p => toString p.toInt
      | none => "(missing)"
    s!"Invalid port {shown}. The port has to be a value from 5000 to 65535"
  | .noNodes => "You should at least supply a node name"

namespace ClientPort

/-- The least port that may be used. -/
def least : Nat := 5000

/-- The greatest port that may be used. -/
def greatest : Nat := 65535

/-- A given port as a port number, if it lies in the accepted range. -/
def check (given : Option Int64) : Except Request.Invalid UInt16 :=
  match given with
  | some p =>
    if least ≤ p.toInt ∧ p.toInt ≤ greatest then .ok (.ofNat p.toInt.toNat)
    else .error (.port given)
  | none => .error (.port none)

/-- A missing port is never accepted. -/
@[simp] theorem check_none : check none = .error (.port none) := rfl

/-- The accepted ports are those of the range. -/
theorem check_some (p : Int64) :
    check (some p) =
      if (least : Int) ≤ p.toInt ∧ p.toInt ≤ greatest then .ok (.ofNat p.toInt.toNat)
      else .error (.port (some p)) := rfl

end ClientPort

/-- **The validation**: the port is looked at before the nodes.  What it accepts, it accepts with
the port number. -/
def Request.validate (r : Request) : Except Request.Invalid UInt16 := do
  let port ← ClientPort.check r.clientPort
  if r.nodes.isEmpty then throw .noNodes
  return port

end Provisioning
