/-
**Reading a command line.**

The words of a level are read one after the other.  An option with a value takes it from behind an
equals sign, from the rest of a cluster of letters, or from the next word; in the last case the
value stays pending until the reader goes on to something else.  Behind two hyphens every word is a
positional one.  The first word of the program's level that names a command ends the level, and the
level of the command is read, and its requirements are checked, before anything pending is settled.

Main definitions:

* `CommandLine.Reading` — what was read of a level;
* `CommandLine.Level.read` — **reading a level**;
* `CommandLine.Invocation.ofArguments` — the invocation of a command line.
-/

import Provisioning.CommandLine.Option

set_option autoImplicit false
set_option relaxedAutoImplicit false

namespace Provisioning.CommandLine

/-! ### What was read of a level -/

/-- What was read of a level. -/
structure Reading where
  settings : List Setting := []
  positional : Option String := none
  /-- The option that takes the next word, or has taken it. -/
  pending : Option (Key × Option String) := none
  deriving Repr

namespace Reading

/-- Whether the next word is the value of an option. -/
def awaitsValue (r : Reading) : Option Key :=
  match r.pending with
  | some (k, none) => some k
  | _ => none

/-- Add a setting, whose option must not have been given before unless it is repeatable. -/
def add (r : Reading) (option : Switch) (setting : Except Halt Setting) : Except Halt Reading :=
  if !option.isRepeatable && r.settings.any (·.option == option) then .error .argumentConflict
  else setting.map fun s => { r with settings := r.settings ++ [s] }

/-- Settle what is pending. -/
def settle (r : Reading) : Except Halt Reading :=
  match r.pending with
  | none => .ok r
  | some (_, none) => .error .invalidValue
  | some (k, some value) => { r with pending := none }.add (.key k) (k.setting value)

/-- A flag is given. -/
def giveFlag (r : Reading) (f : Flag) : Except Halt Reading := do
  let r ← r.settle
  match f with
  | .help => throw .helpAsked
  | .version => throw .versionAsked
  | _ => r.add (.flag f) (.ok (.flag f))

/-- An option is given, with a value attached or without. -/
def giveKey (r : Reading) (k : Key) (attached : Option String) : Except Halt Reading := do
  let r ← r.settle
  match attached with
  | some value => r.add (.key k) (k.setting value)
  | none => return { r with pending := some (k, none) }

/-- The value of a pending option. -/
def giveValue (r : Reading) (k : Key) (value : String) : Reading :=
  { r with pending := some (k, some value) }

/-- A word that is no option, at a level. -/
def givePositional (r : Reading) (level : Level) (word : String) : Except Halt Reading :=
  match level, r.positional with
  | .status, none => do return { ← r.settle with positional := some word }
  | .program, _ => .error .invalidSubcommand
  | _, _ => .error .unknownArgument

end Reading

/-! ### Words -/

/-- A word behind two hyphens: an option, with a value behind an equals sign or without. -/
def giveLong (level : Level) (r : Reading) (word : List Char) : Except Halt Reading :=
  let (name, rest) := word.span (· != '=')
  let attached := match rest with
    | _ :: value => some (String.ofList value)
    | [] => none
  match level.long? (String.ofList name), attached with
  | none, _ => .error .unknownArgument
  | some (.key k), _ => r.giveKey k attached
  | some (.flag _), some _ => .error .tooManyValues
  | some (.flag f), none => r.giveFlag f

/-- The letters behind one hyphen: flags, up to an option that takes the rest as its value. -/
def giveLetters (level : Level) : List Char → Reading → Except Halt Reading
  | [], r => .ok r
  | letter :: rest, r =>
    match level.short? letter with
    | none => .error .unknownArgument
    | some (.flag f) => do giveLetters level rest (← r.giveFlag f)
    | some (.key k) =>
      match rest with
      | [] => r.giveKey k none
      | '=' :: value => r.giveKey k (some (String.ofList value))
      | value => r.giveKey k (some (String.ofList value))

/-- A word of a level: the reading behind it. -/
def giveWord (level : Level) (r : Reading) (word : String) : Except Halt Reading :=
  match word.toList, r.awaitsValue with
  | '-' :: '-' :: name, _ => giveLong level r name
  | '-' :: letter :: letters, some .port =>
    if looksNumeric (letter :: letters) then .ok (r.giveValue .port word)
    else giveLetters level (letter :: letters) r
  | '-' :: letter :: letters, _ => giveLetters level (letter :: letters) r
  | _, some k => .ok (r.giveValue k word)
  | _, none => r.givePositional level word

/-- The words behind two hyphens: each is a positional one.  Here the name of a command is no
command. -/
def giveTrailing (level : Level) : List String → Reading → Except Halt Reading
  | [], r => .ok r
  | word :: rest, r =>
    if level == .program && (word == "help" || (Level.ofCommand? word).isSome) then
      .error .unknownArgument
    else do giveTrailing level rest (← r.givePositional level word)

/-! ### Levels -/

/-- The words behind the word `help`: the name of a command at most. -/
def help : List String → Halt
  | [] => .helpAsked
  | [word] =>
    if word == "help" || (Level.ofCommand? word).isSome then .helpAsked else .invalidSubcommand
  | _ => .invalidSubcommand

/-- **Reading a level**: what was read, and the command that ended it with the words behind it. -/
def Level.read (level : Level) :
    List String → Reading → Except Halt (Reading × Option (Level × List String))
  | [], r => .ok (r, none)
  | word :: rest, r =>
    if word == "--" then (giveTrailing level rest r).map fun r => (r, none)
    else if level == .program && r.awaitsValue.isNone && word == "help" then .error (help rest)
    else
      match if level == .program && r.awaitsValue.isNone then Level.ofCommand? word else none with
      | some command => .ok (r, some (command, rest))
      | none => do level.read rest (← giveWord level r word)

/-! ### Invocations -/

/-- How often more notices were asked for; nothing if not at all.  The count stays at 255. -/
def verbosity? (settings : List Setting) : Option Nat :=
  let n := (settings.filter (· == .flag .verbose)).length
  if n = 0 then none else some (min n 255)

/-- The value of an option that is given at most once. -/
def value? (k : Key) (settings : List Setting) : Option String :=
  settings.findSome? fun
    | .text key value => if key == k then some value else none
    | _ => none

/-- The values of an option that may be given several times. -/
def values (k : Key) (settings : List Setting) : List String :=
  settings.filterMap fun
    | .text key value => if key == k then some value else none
    | _ => none

/-- The port. -/
def port? (settings : List Setting) : Option Int64 :=
  settings.findSome? fun
    | .port p => some p
    | _ => none

/-- The request that the settings of a level give. -/
def requestArguments (settings : List Setting) : RequestArguments where
  name := (value? .name settings).getD ""
  port := port? settings
  nodes := values .node settings
  plugins := values .plugin settings

/-- The command of a level. -/
def commandOf (level : Level) (r : Reading) : Except Halt Command :=
  let given (f : Flag) : Bool := r.settings.contains (.flag f)
  match level, r.positional with
  | .status, some cluster => .ok (.status cluster)
  | .status, none => .error .missingRequiredArgument
  | .validate, _ => .ok (.validate (requestArguments r.settings))
  | .provision, _ => .ok (.provision {
      request := requestArguments r.settings
      failOnTimeout := given .failOnTimeout
      dryRun := given .dryRun
      json := given .json })
  | .program, _ => .error .missingSubcommand

/-- **The invocation of a command line**, without the name of the program.  `apiUrl` is the base
URL of the environment, which counts where the command line gives none.  An option of the program
that is given on both sides of the command has the value behind it. -/
def Invocation.ofArguments (apiUrl : Option String) (words : List String) :
    Except Halt Invocation := do
  let (outer, behind) ← Level.program.read words {}
  match behind with
  | none =>
    let outer ← outer.settle
    if outer.settings.isEmpty && apiUrl.isNone then throw .helpNeeded
    throw .missingSubcommand
  | some (level, words) =>
    let (inner, _) ← level.read words {}
    let inner ← inner.settle
    let command ← commandOf level inner
    let outer ← outer.settle
    let global (k : Key) : Option String :=
      (value? k inner.settings).or (value? k outer.settings)
    return {
      verbose := ((verbosity? inner.settings).or (verbosity? outer.settings)).getD 0
      config := global .config
      envFile := global .envFile
      apiUrl := (global .apiUrl).or apiUrl
      command }

/-! ### The environment file -/

/-- The environment file that the words of a command line name.  It is looked for before the command
line is read, in all words, the name of the program included. -/
def envFileArgument : List String → Option String
  | [] => none
  | word :: rest =>
    if word == "--" then none
    else if word == "--env-file" then rest.head?
    else if "--env-file=".toList.isPrefixOf word.toList then
      some (String.ofList (word.toList.drop "--env-file=".length))
    else envFileArgument rest

end Provisioning.CommandLine
