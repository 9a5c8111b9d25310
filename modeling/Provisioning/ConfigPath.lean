/-
**Where the configuration is.**

Unless another file is named, the configuration is a file below the user's home directory.  In a
path that the user names, a tilde at the front stands for the home directory.  Where there is no
home directory, a tilde stands for itself and the configuration is looked for in the present
directory.

Main definitions:

* `Environment.home?` — the home directory;
* `ConfigPath.expand` — a path with its tilde expanded;
* `ConfigPath.standard`, `ConfigPath.resolve` — **the path** of the configuration.
-/

import Provisioning.Environment

set_option autoImplicit false
set_option relaxedAutoImplicit false

namespace Provisioning

/-- The home directory: the one of the environment, unless that is empty, or else the one of the
user's account. -/
def Environment.home? (env : Environment) (account : Option String) : Option String :=
  ((env.get? "HOME").filter (!·.isEmpty)).or account

namespace ConfigPath

/-- A path with its tilde expanded: one that stands alone or in front of a slash. -/
def expand (home : Option String) (path : String) : String :=
  match home, path.toList with
  | some home, ['~'] => home
  | some home, '~' :: '/' :: rest => home ++ "/" ++ String.ofList rest
  | _, _ => path

/-- A path below another one. -/
def join (parent child : String) : String :=
  if parent.isEmpty || parent.toList.getLast? = some '/' then parent ++ child
  else parent ++ "/" ++ child

/-- The path of the configuration below a home directory. -/
def standard (home : Option String) : String :=
  join (join (home.getD ".") ".workspace-provisioner") "config.yaml"

/-- **The path** of the configuration: the one that is given, or else the standard one. -/
def resolve (home given : Option String) : String := expand home (given.getD (standard home))

end ConfigPath

end Provisioning
