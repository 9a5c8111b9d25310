/-
**Options.**

Which options there are, how they are called, and where they may be given.  The options of the
program itself may be given in front of a command or behind it; the others only behind the command
that has them.

Main definitions:

* `CommandLine.Level` — where on the command line a word stands;
* `CommandLine.Flag`, `CommandLine.Key` — options without a value, and options with one;
* `CommandLine.Level.long?`, `CommandLine.Level.short?` — the option of a name;
* `CommandLine.Setting` — an option that was given, with its value.
-/

import Provisioning.CommandLine.Invocation
import Provisioning.Text.Digits

set_option autoImplicit false
set_option relaxedAutoImplicit false

namespace Provisioning.CommandLine

/-- Where on the command line a word stands: in front of the command, or behind it. -/
inductive Level where
  | program
  | provision
  | validate
  | status
  deriving DecidableEq, Repr

/-- The level behind a command. -/
def Level.ofCommand? : String → Option Level
  | "provision" => some .provision
  | "validate" => some .validate
  | "status" => some .status
  | _ => none

/-- Whether the level takes a request. -/
def Level.hasRequest : Level → Bool
  | .provision | .validate => true
  | _ => false

/-- Options without a value. -/
inductive Flag where
  | verbose
  | failOnTimeout
  | dryRun
  | json
  | help
  | version
  deriving DecidableEq, Repr

/-- Options with a value. -/
inductive Key where
  | config
  | envFile
  | apiUrl
  | name
  | port
  | node
  | plugin
  deriving DecidableEq, Repr

/-- An option of either sort. -/
inductive Switch where
  | flag (f : Flag)
  | key (k : Key)
  deriving DecidableEq, Repr

/-- An option's names, and where it may be given. -/
structure Entry where
  option : Switch
  long : String
  short : Option Char := none
  isAt : Level → Bool

/-- All options. -/
def entries : List Entry := [
  ⟨.flag .verbose, "verbose", some 'v', fun _ => true⟩,
  ⟨.key .config, "config", none, fun _ => true⟩,
  ⟨.key .envFile, "env-file", none, fun _ => true⟩,
  ⟨.key .apiUrl, "api-url", none, fun _ => true⟩,
  ⟨.flag .help, "help", some 'h', fun _ => true⟩,
  ⟨.flag .version, "version", some 'V', (· == .program)⟩,
  ⟨.key .name, "name", none, Level.hasRequest⟩,
  ⟨.key .port, "port", some 'p', Level.hasRequest⟩,
  ⟨.key .node, "node", some 'n', Level.hasRequest⟩,
  ⟨.key .plugin, "plugin", none, Level.hasRequest⟩,
  ⟨.flag .failOnTimeout, "fail-on-timeout", none, (· == .provision)⟩,
  ⟨.flag .dryRun, "dry-run", none, (· == .provision)⟩,
  ⟨.flag .json, "json", none, (· == .provision)⟩]

/-- The option of a long name. -/
def Level.long? (level : Level) (name : String) : Option Switch :=
  (entries.find? fun e => e.long == name && e.isAt level).map (·.option)

/-- The option of a letter. -/
def Level.short? (level : Level) (letter : Char) : Option Switch :=
  (entries.find? fun e => e.short == some letter && e.isAt level).map (·.option)

/-! ### Values -/

/-- An option that was given, with its value. -/
inductive Setting where
  | flag (f : Flag)
  | text (k : Key) (value : String)
  | port (p : Int64)
  deriving DecidableEq, Repr

/-- The option of a setting. -/
def Setting.option : Setting → Switch
  | .flag f => .flag f
  | .text k _ => .key k
  | .port _ => .key .port

/-- Whether an option may be given several times. -/
def Switch.isRepeatable : Switch → Bool
  | .flag .verbose | .key .node | .key .plugin => true
  | _ => false

/-- A signed integer of 64 bits: decimal digits, with or without a sign. -/
def integer? (text : String) : Option Int64 :=
  let (negative, digits) := match text.toList with
    | '-' :: rest => (true, rest)
    | '+' :: rest => (false, rest)
    | all => (false, all)
  (Digits.some? 10 digits).bind fun n =>
    let value : Int := if negative then -(n : Int) else n
    if Int64.minValue.toInt ≤ value && value ≤ Int64.maxValue.toInt then some (.ofInt value)
    else none

/-- The setting of an option and a value; a path must not be empty, and a port is a number. -/
def Key.setting (k : Key) (value : String) : Except Halt Setting :=
  match k with
  | .port => match integer? value with
    | some p => .ok (.port p)
    | none => .error .valueValidation
  | .config | .envFile => if value.isEmpty then .error .invalidValue else .ok (.text k value)
  | _ => .ok (.text k value)

/-- Whether the text behind a hyphen looks like a number: digits, a point with more digits, and an
exponent, of which only the first digits are necessary. -/
def looksNumeric (text : List Char) : Bool :=
  let (whole, rest) := text.span Char.isDigit
  let rest := match rest with
    | '.' :: more => more.dropWhile Char.isDigit
    | _ => rest
  !whole.isEmpty && match rest with
    | [] => true
    | e :: digits => (e == 'e' || e == 'E') && !digits.isEmpty && digits.all Char.isDigit

end Provisioning.CommandLine
