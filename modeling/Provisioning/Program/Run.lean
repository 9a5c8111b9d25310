/-
**The program.**

The environment file is loaded before the command line is read, because the command line may take
the base URL from the environment and the notices are filtered by it.  Then the configuration is
loaded and the command carried out.  The program exits with zero if the command succeeds or only
help was asked for, with two if the command line is wrong, and with one otherwise.  It breaks down,
with a code of its own, over a report whose table cannot be laid out.

Main definitions:

* `Program.Start` — what the program is started with;
* `Program.withEnvFile` — the environment after the environment file was loaded;
* `Program.invocation`, `Program.configuration` — the invocation and the configuration;
* `Program.presented` — how a report is given;
* `Program.execute`, `Program.run` — **the program**.
-/

import Provisioning.CommandLine.Help
import Provisioning.CommandLine.Reader
import Provisioning.Config.Loading
import Provisioning.ConfigPath
import Provisioning.Json.Writer
import Provisioning.Program.Commands
import Provisioning.Report.Plan

set_option autoImplicit false
set_option relaxedAutoImplicit false

namespace Provisioning.Program

open CommandLine (Command Halt Invocation)

variable {m : Type → Type} [Monad m]

/-- What the program is started with.  Words and variables are texts; a start with bytes that are no
text is none. -/
structure Start where
  /-- The words of the command line, the name of the program first. -/
  words : List String
  environment : Environment
  /-- The home directory of the user's account. -/
  accountHome : Option String := none
  deriving Repr

/-- How the program ends: with zero, one or two, or with the code of a breakdown. -/
abbrev ExitCode := UInt32

/-- The exit code of a program that breaks down. -/
def breakdown : ExitCode := 101

/-- The environment after the environment file of the command line was loaded. -/
def withEnvFile (s : System m) (start : Start) : m (Except Fault Environment) := do
  match CommandLine.envFileArgument start.words with
  | none => return .ok start.environment
  | some path =>
    match EnvFile.load (← s.find path) start.environment with
    | (environment, .ok _) => return .ok environment
    | (_, .error e) => return .error (.envFile path e)

/-- The invocation of the command line; the environment may give the base URL. -/
def invocation (start : Start) (environment : Environment) : Except Halt Invocation :=
  Invocation.ofArguments (environment.get? "PROVISIONER_API_URL") start.words.tail

/-- Which notices are shown: what the environment says, if that can be read, or else what the
command line asks for. -/
def noticeFilter (environment : Environment) (i : Invocation) : Notice.Filter :=
  ((environment.get? "RUST_LOG").bind Notice.Filter.ofText?).getD (.ofVerbosity i.verbose)

/-- The configuration of an invocation. -/
def configuration (s : System m) (start : Start) (environment : Environment) (i : Invocation) :
    m (Except Fault Config) := do
  let path := ConfigPath.resolve (environment.home? start.accountHome) i.config
  match Config.load (← s.find path) i.apiUrl with
  | .ok c => return .ok c
  | .error e => return .error (.config e)

/-- Show the plan of a request, and `more` behind it. -/
def showPlan (s : System m) (c : Config) (a : CommandLine.RequestArguments) (more : String) :
    m ExitCode := do
  match planned a with
  | .ok request =>
    s.write (.printed (Report.plan request c ++ more))
    return 0
  | .error e =>
    s.write (.reported s!"Validation: FAILED\n{e.message}\n")
    return 1

/-- Report a fault. -/
def reportFault (s : System m) (e : Fault) : m ExitCode := do
  match e with
  | .provisioning f => s.write (.reported (Report.failure f))
  | _ => s.write (.reported s!"Error: {e.message}\n")
  return 1

/-- The report of a finished run, or why there is none. -/
def completedText (c : Report.Completed) (json : Bool) : Except Report.Table.Fault String :=
  if json then .ok (c.json.indented ++ "\n") else c.checkedText

/-- **How a report is given**: it is printed; but over one whose table cannot be laid out the
program breaks down, and says why. -/
def presented : Except Report.Table.Fault String → Output × ExitCode
  | .ok text => (.printed text, 0)
  | .error fault => (.reported (fault.message ++ "\n"), breakdown)

/-- Give a report. -/
def present (s : System m) (report : Except Report.Table.Fault String) : m ExitCode := do
  s.write (presented report).1
  return (presented report).2

/-- **Carry out a command.** -/
def execute (s : System m) (filter : Notice.Filter) (c : Config) : Command → m ExitCode
  | .validate a => showPlan s c a ""
  | .provision a =>
    if a.dryRun then showPlan s c a.request "Ready to provision. Remove --dry-run to execute.\n"
    else do
      s.note filter none (.provisioningAgainst c.apiUrl)
      match ← provision s filter c a with
      | .ok completed => present s (completedText completed a.json)
      | .error e => reportFault s e
  | .status cluster => do
    match ← status s filter c cluster with
    | .ok found => present s (Report.checkedStatus found)
    | .error e => reportFault s e

/-- Say why there is no invocation. -/
def reportHalt (s : System m) (h : Halt) : m ExitCode := do
  if h.isAnswer then
    s.write (.printed h.message)
    return 0
  else
    s.write (.reported h.message)
    return 2

/-- **The program**, with its exit code. -/
def run (s : System m) (start : Start) : m ExitCode := do
  match ← withEnvFile s start with
  | .error e => reportFault s e
  | .ok environment =>
    match invocation start environment with
    | .error h => reportHalt s h
    | .ok i =>
      let filter := noticeFilter environment i
      match ← configuration s start environment i with
      | .error e =>
        s.note filter none (.configRefused e.message)
        return 1
      | .ok c => execute s filter c i.command

end Provisioning.Program
