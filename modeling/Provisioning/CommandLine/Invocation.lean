/-
**What the program is asked to do.**

An invocation is a command with the settings that hold for every command.

Main definitions:

* `CommandLine.RequestArguments`, `CommandLine.RequestArguments.toRequest` — a request as it is
  given on the command line;
* `CommandLine.Command`, `CommandLine.Invocation` — commands, and whole invocations;
* `CommandLine.Halt` — why there is no invocation.
-/

import Provisioning.Request

set_option autoImplicit false
set_option relaxedAutoImplicit false

namespace Provisioning.CommandLine

/-- A request as it is given on the command line. -/
structure RequestArguments where
  name : String := ""
  port : Option Int64 := none
  nodes : List String := []
  plugins : List String := []
  deriving DecidableEq, Repr, Inhabited

/-- The request; nothing is checked. -/
def RequestArguments.toRequest (a : RequestArguments) : Request where
  serviceName := a.name
  clientPort := a.port
  nodes := a.nodes
  plugins := a.plugins

/-- The arguments of a provisioning. -/
structure ProvisionArguments where
  request : RequestArguments
  /-- End the run if a cluster does not get ready, whatever the configuration says. -/
  failOnTimeout : Bool := false
  /-- Show the plan, and create nothing. -/
  dryRun : Bool := false
  /-- Print the result as JSON. -/
  json : Bool := false
  deriving DecidableEq, Repr

/-- The commands of the program. -/
inductive Command where
  | provision (a : ProvisionArguments)
  | validate (a : RequestArguments)
  | status (cluster : String)
  deriving DecidableEq, Repr

/-- An invocation of the program. -/
structure Invocation where
  /-- How many times more notices were asked for. -/
  verbose : Nat := 0
  config : Option String := none
  envFile : Option String := none
  apiUrl : Option String := none
  command : Command
  deriving DecidableEq, Repr

/-- Why there is no invocation: the arguments are wrong, or ask for help or for the version. -/
inductive Halt where
  /-- An option without its value, or with an empty path. -/
  | invalidValue
  /-- A value that is no number of the right size. -/
  | valueValidation
  /-- Something given twice that can be given once. -/
  | argumentConflict
  /-- A value for an option that takes none. -/
  | tooManyValues
  | unknownArgument
  | invalidSubcommand
  | missingRequiredArgument
  | missingSubcommand
  | helpAsked
  | versionAsked
  /-- Nothing was given at all, so help is shown. -/
  | helpNeeded
  deriving DecidableEq, Repr

/-- Whether help or the version was asked for. -/
def Halt.isAnswer : Halt → Bool
  | .helpAsked | .versionAsked => true
  | _ => false

end Provisioning.CommandLine
