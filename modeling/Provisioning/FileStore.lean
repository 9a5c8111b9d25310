/-
**Files.**

What the program finds at a path: nothing, a directory, a file with its bytes, or something that it
may not read.  A path can also lead through a file, or be one that no file can have, and then
nothing can be there.  A text is read from well-formed bytes only.

Main definitions:

* `Found` — what is found at a path;
* `Found.read`, `Found.readText` — reading, with the system's words where it fails.
-/

import Provisioning.Text.Utf8

set_option autoImplicit false
set_option relaxedAutoImplicit false

namespace Provisioning

/-- What is found at a path. -/
inductive Found where
  | nothing
  /-- A part of the path that should be a directory is a file. -/
  | blocked
  /-- The path, or a name in it, is longer than paths and names can be. -/
  | tooLong
  /-- The path has a character that ends it for the system. -/
  | unnameable
  | directory
  /-- Something that the program may not read. -/
  | denied
  | file (bytes : List UInt8)
  deriving DecidableEq, Repr, Inhabited

/-- Whether there is something at the path. -/
def Found.isThere : Found → Bool
  | .nothing | .blocked | .tooLong | .unnameable => false
  | .directory | .denied | .file _ => true

/-- A file with a text. -/
def Found.ofText (text : String) : Found := .file (Utf8.encode text.toList)

/-- The words for bytes that are no text. -/
def notText : String := "stream did not contain valid UTF-8"

/-- The bytes of a file. -/
def Found.read : Found → Except String (List UInt8)
  | .nothing => .error "No such file or directory (os error 2)"
  | .blocked => .error "Not a directory (os error 20)"
  | .tooLong => .error "File name too long (os error 36)"
  | .unnameable => .error "file name contained an unexpected NUL byte"
  | .directory => .error "Is a directory (os error 21)"
  | .denied => .error "Permission denied (os error 13)"
  | .file bytes => .ok bytes

/-- The text of a file. -/
def Found.readText (f : Found) : Except String String := do
  match Utf8.decode? (← f.read) with
  | some text => return String.ofList text
  | none => throw notText

end Provisioning
