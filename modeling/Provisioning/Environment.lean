/-
**Environment variables.**

The variables that the program was started with, and those that were added since.  A variable that
is set keeps its value.

Main definitions:

* `Environment`, `Environment.get?` — the variables;
* `Environment.provide` — give a variable a value unless it has one.
-/

set_option autoImplicit false
set_option relaxedAutoImplicit false

namespace Provisioning

/-- The variables and their values; each has its first value in the list. -/
abbrev Environment := List (String × String)

namespace Environment

/-- The value of a variable. -/
def get? (env : Environment) (name : String) : Option String := env.lookup name

/-- Give a variable a value unless it has one. -/
def provide (env : Environment) (name value : String) : Environment :=
  match env.get? name with
  | some _ => env
  | none => env ++ [(name, value)]

/-- A variable that is set keeps its value. -/
theorem get?_provide_of_set {env : Environment} {name old : String}
    (hset : env.get? name = some old) (value : String) : env.provide name value = env := by
  simp [provide, hset]

end Environment

end Provisioning
