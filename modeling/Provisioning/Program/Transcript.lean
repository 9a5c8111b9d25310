/-
**Executions of the program.**

Given surroundings in which everything is settled beforehand, whose backend answers as it likes on
the strength of all requests so far, and whose clock goes on as it likes with all that happens, an
execution of the program is a value: what was written, what was sent, and how long the program
slept.

Main definitions:

* `Program.Transcript`, `Program.Transcript.standardOutput` — what happens in an execution;
* `Program.World` — surroundings in which everything is settled;
* `World.system` — the world as surroundings of the program;
* `World.execution` — **an execution** of the program.
-/

import Provisioning.Program.Run

set_option autoImplicit false
set_option relaxedAutoImplicit false

namespace Provisioning.Program

/-- What happens in an execution. -/
structure Transcript where
  outputs : List Output := []
  /-- The requests of the calls.  Where one was redirected, what came of it tells of the requests
  that followed. -/
  requests : List Backend.HttpRequest := []
  slept : List UInt64 := []

/-- Surroundings in which everything is settled. -/
structure World where
  files : (path : String) → Found
  /-- What comes of a request, after the requests before it. -/
  backend : List Backend.HttpRequest → Backend.HttpRequest → Backend.Exchange
  allotment : (clientPort : UInt16) → (wish : String) → Allotment
  runId : RunId
  /-- What the clock shows, after all that has happened before. -/
  now : Transcript → Instant

namespace Transcript

/-- What is written to a channel. -/
def textOf (t : Transcript) (channel : Channel) : String :=
  String.join ((t.outputs.filter (·.channel = channel)).map (·.text))

/-- What is written to standard output. -/
def standardOutput (t : Transcript) : String := t.textOf .standardOutput

/-- What is written to standard error. -/
def standardError (t : Transcript) : String := t.textOf .standardError

end Transcript

namespace World

/-- A world as surroundings of the program. -/
def system (w : World) : System (StateM Transcript) where
  find path := pure (w.files path)
  exchange request := do
    let before := (← get).requests
    modify fun t => { t with requests := before ++ [request] }
    return w.backend before request
  sleep ms := modify fun t => { t with slept := t.slept ++ [ms] }
  allot port wish := pure (w.allotment port wish)
  newRun := pure w.runId
  now := do return w.now (← get)
  write output := modify fun t => { t with outputs := t.outputs ++ [output] }

/-- **An execution** of the program: its exit code and what happens. -/
def execution (w : World) (start : Start) : ExitCode × Transcript :=
  (Program.run w.system start).run {}

end World

end Provisioning.Program
