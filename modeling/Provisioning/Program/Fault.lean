/-
**Why a command does not succeed.**

Main definitions:

* `Program.Fault`, `Program.Fault.message` — the reasons and their texts.
-/

import Provisioning.Config
import Provisioning.EnvFile.Load
import Provisioning.Session

set_option autoImplicit false
set_option relaxedAutoImplicit false

namespace Provisioning.Program

/-- Why a command does not succeed. -/
inductive Fault where
  | config (e : Config.Error)
  /-- The request is refused before anything is done. -/
  | request (reason : Request.Invalid)
  | provisioning (f : Failure)
  | call (e : Backend.CallError)
  | envFile (path : String) (e : EnvFile.Error)
  deriving DecidableEq, Repr

/-- The text of a fault. -/
def Fault.message : Fault → String
  | .config e => s!"Config error: {e.message}"
  | .request reason => reason.message
  | .provisioning f => s!"Provisioning failed: {f.message}"
  | .call e => s!"Request failed: {e.message}"
  | .envFile path e => s!"Failed to load env file {path}: {e.message}"

end Provisioning.Program
