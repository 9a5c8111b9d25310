/-
**Names and ports of a run.**

Everything a run hands out is drawn at random and redrawn until it is free.  An allocator keeps
what it has handed out and the draws that are left; a request to it scans the draws from the front
and leaves the rest, so that each answer is the first acceptable candidate of the stream.  The
draws are a finite list, and a scan that reaches its end has no answer.

No answer of the backend has any influence on names and ports, so a run can draw all of them before
its first call.  The name of the worker comes first: it is the accepted form of the user's wish, and
names drawn later give way to it.

Main definitions:

* `scanName?`, `scanPort?` — the first free candidate of the draws;
* `Allocator`, `Allocator.name?`, `Allocator.claim?`, `Allocator.port?` — **the allocator**;
* `Allotment`, `Allotment.draw?` — what one run hands out.
-/

import Provisioning.ServiceName
import Provisioning.Request
import Provisioning.Random.Draw

set_option autoImplicit false
set_option relaxedAutoImplicit false

namespace Provisioning

/-! ### Candidates -/

/-- The character that a draw gives. -/
def nameChar? (draw : UInt64) : Option Char :=
  (Draw.below? ServiceName.alphabet.length draw).map fun n => ServiceName.alphabet[n]

/-- The port that a draw gives. -/
def portOf? (draw : UInt64) : Option UInt16 :=
  (Draw.below? (ClientPort.greatest - ClientPort.least + 1) draw).map fun n =>
    .ofNat (ClientPort.least + n.val)

/-- The first free name of the draws, and the draws behind it.  `built` holds the characters drawn
for the present candidate, the last one first. -/
def scanName? (free : String → Bool) : List Char → List UInt64 → Option (String × List UInt64)
  | _, [] => none
  | built, draw :: rest =>
    match nameChar? draw with
    | none => scanName? free built rest
    | some c =>
      if built.length + 1 < ServiceName.generatedLength then scanName? free (c :: built) rest
      else
        let name := String.ofList (c :: built).reverse
        if free name then some (name, rest) else scanName? free [] rest

/-- The first free port of the draws, and the draws behind it. -/
def scanPort? (free : UInt16 → Bool) : List UInt64 → Option (UInt16 × List UInt64)
  | [] => none
  | draw :: rest =>
    match portOf? draw with
    | some port => if free port then some (port, rest) else scanPort? free rest
    | none => scanPort? free rest

/-! ### The allocator -/

/-- What was handed out, and the draws that are left. -/
structure Allocator where
  clientPort : UInt16
  names : List String := []
  ports : List UInt16 := []
  draws : List UInt64
  deriving DecidableEq, Repr

namespace Allocator

/-- A fresh name of ten characters. -/
def name? (a : Allocator) : Option (String × Allocator) :=
  (scanName? (fun name => !a.names.contains name) [] a.draws).map fun (name, rest) =>
    (name, { a with names := name :: a.names, draws := rest })

/-- The name asked for, or a fresh one if it is empty or was handed out before. -/
def claim? (wish : String) (a : Allocator) : Option (String × Allocator) :=
  if wish.isEmpty || a.names.contains wish then a.name?
  else some (wish, { a with names := wish :: a.names })

/-- A fresh port, different from the client port. -/
def port? (a : Allocator) : Option (UInt16 × Allocator) :=
  (scanPort? (fun port => port != a.clientPort && !a.ports.contains port) a.draws).map
    fun (port, rest) => (port, { a with ports := port :: a.ports, draws := rest })

/-- A free wish is handed out as it is, and takes no draw. -/
theorem claim?_of_free {wish : String} {a : Allocator} (hwish : wish.isEmpty = false)
    (hfree : a.names.contains wish = false) :
    a.claim? wish = some (wish, { a with names := wish :: a.names }) := by
  rw [claim?, hwish, hfree]
  rfl

end Allocator

/-! ### What one run hands out -/

/-- The names and auxiliary ports of one run. -/
structure Allotment where
  workerName : String
  coordinationServiceName : String
  peerPort : UInt16
  electionPort : UInt16
  brokerName : String
  exporterPort : UInt16
  brokerJmxPort : UInt16
  workerJmxPort : UInt16
  deriving DecidableEq, Repr, Inhabited

namespace Allotment

/-- Draw everything a run hands out, in the order in which it is used, the worker's name first. -/
def ofAllocator? (wish : String) : StateT Allocator Option Allotment := do
  let workerName ← Allocator.claim? (ServiceName.sanitize wish)
  let coordinationServiceName ← Allocator.name?
  let peerPort ← Allocator.port?
  let electionPort ← Allocator.port?
  let brokerName ← Allocator.name?
  let exporterPort ← Allocator.port?
  let brokerJmxPort ← Allocator.port?
  let workerJmxPort ← Allocator.port?
  return {
    workerName, coordinationServiceName, peerPort, electionPort, brokerName, exporterPort,
    brokerJmxPort, workerJmxPort }

/-- **The names and ports** of a run with a client port and a wished service name, or nothing if
the draws end first. -/
def draw? (clientPort : UInt16) (wish : String) (draws : List UInt64) : Option Allotment :=
  ((ofAllocator? wish).run { clientPort, draws }).map (·.1)

end Allotment

end Provisioning
