/-
**The configuration.**

Six settings, each with a default.  A configuration is checked after everything that can change it
was applied: the base URL must be one of the web, and the two time limits must not be zero.

Main definitions:

* `Config` — the settings, and `Config.Setting` — each of them by its name;
* `Config.Invalid`, `Config.validate` — **the check**;
* `Config.Error` — why there is no configuration;
* `Config.polling` — what the settings say about waiting for a cluster.
-/

import Provisioning.Readiness
import Provisioning.Text.Blank
import Provisioning.Yaml.Fault

set_option autoImplicit false
set_option relaxedAutoImplicit false

namespace Provisioning

/-- The settings. -/
structure Config where
  /-- The base URL of the backend. -/
  apiUrl : String := "http://localhost:12345"
  requestTimeoutSecs : UInt64 := 30
  /-- The time limit for creating a coordination service, which takes long. -/
  coordinationTimeoutSecs : UInt64 := 180
  pollIntervalMs : UInt64 := 2000
  maxRetries : UInt32 := 5
  readinessPolicy : Readiness.Policy := .proceed
  deriving DecidableEq, Repr, Inhabited

namespace Config

/-- The settings one by one. -/
inductive Setting where
  | apiUrl
  | requestTimeout
  | coordinationTimeout
  | pollInterval
  | maxRetries
  | readinessPolicy
  deriving DecidableEq, Repr

/-- The name of a setting. -/
def Setting.name : Setting → String
  | .apiUrl => "api-url"
  | .requestTimeout => "request-timeout-secs"
  | .coordinationTimeout => "coordination-timeout-secs"
  | .pollInterval => "poll-interval-ms"
  | .maxRetries => "max-retries"
  | .readinessPolicy => "readiness-policy"

/-- All settings. -/
def Setting.all : List Setting :=
  [.apiUrl, .requestTimeout, .coordinationTimeout, .pollInterval, .maxRetries, .readinessPolicy]

/-- The setting with a name. -/
def Setting.ofName? (name : String) : Option Setting := all.find? (·.name = name)

theorem Setting.mem_all (s : Setting) : s ∈ all := by cases s <;> simp [all]

/-- What is wrong with a setting. -/
inductive Flaw where
  | empty
  | notWebUrl (url : String)
  | zero
  deriving DecidableEq, Repr

/-- The words for what is wrong. -/
def Flaw.message : Flaw → String
  | .empty => "must not be empty"
  | .notWebUrl url => s!"'{url}' is not an http(s) URL"
  | .zero => "must be greater than zero"

/-- An invalid setting. -/
structure Invalid where
  setting : Setting
  flaw : Flaw
  deriving DecidableEq, Repr

/-- The text of an invalid setting. -/
def Invalid.message (i : Invalid) : String :=
  s!"Invalid config value for {i.setting.name}: {i.flaw.message}"

/-- Whether a text begins like the URL of a web page. -/
def isWebUrl (url : String) : Bool :=
  "http://".toList.isPrefixOf url.toList || "https://".toList.isPrefixOf url.toList

/-- **The check**: the base URL first, then the time limits. -/
def validate (c : Config) : Except Invalid Unit := do
  if (Text.trim c.apiUrl).isEmpty then throw ⟨.apiUrl, .empty⟩
  if !isWebUrl c.apiUrl then throw ⟨.apiUrl, .notWebUrl c.apiUrl⟩
  if c.requestTimeoutSecs = 0 then throw ⟨.requestTimeout, .zero⟩
  if c.coordinationTimeoutSecs = 0 then throw ⟨.coordinationTimeout, .zero⟩

/-- Why there is no configuration. -/
inductive Error where
  /-- The file cannot be read. -/
  | io (message : String)
  /-- The file's text is no configuration. -/
  | parse (fault : Yaml.Fault)
  | invalid (i : Invalid)
  deriving DecidableEq, Repr

/-- The text of an error. -/
def Error.message : Error → String
  | .io message => s!"Failed to read config file: {message}"
  | .parse fault => s!"Failed to parse config: {fault.message}"
  | .invalid i => i.message

/-- A configuration that passes the check. -/
def checked (c : Config) : Except Error Config := do
  match c.validate with
  | .ok _ => return c
  | .error i => throw (.invalid i)

/-- What the settings say about waiting for a cluster. -/
def polling (c : Config) : Readiness.Polling := ⟨c.pollIntervalMs, c.maxRetries⟩

end Config

end Provisioning
