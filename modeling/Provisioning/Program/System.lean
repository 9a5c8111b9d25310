/-
**The surroundings of the program.**

Everything that the program needs from outside is an operation here: files, the backend, time,
names and ports that nobody has yet, and the two outputs.  What it writes is kept apart by its
meaning, since notices and results go to the same output.

Main definitions:

* `Program.Output`, `Program.Output.text` — what is written;
* `Program.Channel`, `Program.Output.channel` — where it is written to;
* `Program.System` — **the surroundings**.
-/

import Provisioning.Allocation
import Provisioning.Backend.Exchange
import Provisioning.FileStore
import Provisioning.Instant
import Provisioning.Notice
import Provisioning.RunId

set_option autoImplicit false
set_option relaxedAutoImplicit false

namespace Provisioning.Program

/-- What is written. -/
inductive Output where
  /-- A result. -/
  | printed (text : String)
  /-- An error, or a hint how the program is used. -/
  | reported (text : String)
  /-- A notice, given at a time, perhaps in the course of a run. -/
  | noted (time : Instant) (run : Option RunId) (n : Notice)
  deriving Repr

/-- Where something is written to. -/
inductive Channel where
  | standardOutput
  | standardError
  deriving DecidableEq, Repr

/-- Where something is written to; notices go to the same channel as results. -/
def Output.channel : Output → Channel
  | .printed _ | .noted _ _ _ => .standardOutput
  | .reported _ => .standardError

/-- The text that is written.  A notice is a line with its time, its severity, the run, and the part
of the program it comes from; it is the line of a terminal without colours, which are only marked
up in it otherwise. -/
def Output.text : Output → String
  | .printed text | .reported text => text
  | .noted time run n =>
    let severity := "".pushn ' ' (5 - n.severity.name.length) ++ n.severity.name
    let course := match run with
      | some id => s!"{runScope}\x7b{runField}={id.text}\x7d: "
      | none => ""
    s!"{time.text} {severity} {course}{n.origin.path}: {n.text}\n"

/-- **The surroundings** of the program. -/
structure System (m : Type → Type) where
  /-- What is at a path. -/
  find : (path : String) → m Found
  /-- Send a request, follow redirects, and wait until the last request has ended. -/
  exchange : Backend.HttpRequest → m Backend.Exchange
  sleep : (ms : UInt64) → m Unit
  /-- The names and ports of a run with a client port and a wished service name. -/
  allot : (clientPort : UInt16) → (wish : String) → m Allotment
  newRun : m RunId
  now : m Instant
  write : Output → m Unit

end Provisioning.Program
