/-
**Loading the configuration.**

The configuration comes from a file, or from the defaults where there is none.  A base URL that is
given on the command line or in the environment takes the place of the one in the file, and what
comes out is checked once more; a file has to be right on its own.

Main definitions:

* `Config.ofFile` — the configuration of a file;
* `Config.load` — **the configuration** of a file and a given base URL.
-/

import Provisioning.Config.Reading
import Provisioning.FileStore

set_option autoImplicit false
set_option relaxedAutoImplicit false

namespace Provisioning.Config

/-- The configuration of a file; the defaults where there is none. -/
def ofFile (file : Found) : Except Error Config :=
  if file.isThere then
    match file.readText with
    | .ok source => ofYaml source
    | .error message => .error (.io message)
  else .ok {}

/-- The settings with another base URL, if one is given. -/
def withApiUrl (c : Config) : Option String → Config
  | some url => { c with apiUrl := url }
  | none => c

/-- **The configuration** of a file and a given base URL. -/
def load (file : Found) (apiUrl : Option String) : Except Error Config := do
  let c ← ofFile file
  (c.withApiUrl apiUrl).checked

end Provisioning.Config
