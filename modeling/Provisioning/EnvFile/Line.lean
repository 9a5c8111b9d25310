/-
**The lines of an environment file.**

A definition may run over several lines: as long as a quote is open at the end of a line, the next
line belongs to it.  A sign `#` behind a blank ends the line unless it stands in quotes, and a line
whose first visible character is that sign is skipped.

Main definitions:

* `EnvFile.Error` — why a file cannot be loaded;
* `EnvFile.physicalLines` — the bytes of a file, line by line;
* `EnvFile.nextLine?` — **the next whole line** of a definition.
-/

import Provisioning.FileStore
import Provisioning.Text.Blank

set_option autoImplicit false
set_option relaxedAutoImplicit false

namespace Provisioning.EnvFile

/-- Why a file cannot be loaded. -/
inductive Error where
  /-- The file cannot be read. -/
  | io (message : String)
  /-- A definition is faulty at a place of the shown text. -/
  | line (text : String) (index : Nat)
  deriving DecidableEq, Repr

/-- The text of an error. -/
def Error.message : Error → String
  | .io message => message
  | .line text index => s!"Error parsing line: '{text}', error at line index: {index}"

/-- Split bytes behind each line feed. -/
def physicalLines : List UInt8 → List (List UInt8)
  | [] => []
  | b :: rest =>
    if b = 10 then [b] :: physicalLines rest
    else match physicalLines rest with
      | line :: lines => (b :: line) :: lines
      | [] => [[b]]

/-- Where in a definition the reader is. -/
inductive State where
  | plain
  /-- Behind a single blank. -/
  | blank
  /-- Behind a backslash. -/
  | escape
  | singleQuote
  | singleQuoteEscape
  | doubleQuote
  | doubleQuoteEscape
  deriving DecidableEq, Repr

/-- What a character outside quotes leads to. -/
def State.opened (c : Char) (otherwise : State) : State :=
  if c = '\\' then .escape
  else if c = '\x22' then .doubleQuote
  else if c = '\x27' then .singleQuote
  else otherwise

/-- What a character leads to; nothing for a sign that begins a comment. -/
def State.next? (s : State) (c : Char) : Option State :=
  match s with
  | .plain =>
    some (.opened c (if Text.isSpace c && c != '\n' && c != '\r' then .blank else .plain))
  | .blank => if c = '#' then none else some (.opened c .plain)
  | .escape => some .plain
  | .singleQuote =>
    some (if c = '\\' then .singleQuoteEscape else if c = '\x27' then .plain else .singleQuote)
  | .singleQuoteEscape => some .singleQuote
  | .doubleQuote =>
    some (if c = '\\' then .doubleQuoteEscape else if c = '\x22' then .plain else .doubleQuote)
  | .doubleQuoteEscape => some .doubleQuote

/-- Read a line: the state behind it, or the part in front of a comment. -/
def readLine : State → List Char → Except (List Char) State
  | s, [] => .ok s
  | s, c :: rest =>
    match s.next? c with
    | none => .error []
    | some s =>
      match readLine s rest with
      | .ok s => .ok s
      | .error before => .error (c :: before)

/-- A line without the line break at its end. -/
def dropLineBreak (line : List Char) : List Char :=
  match line.reverse with
  | '\n' :: '\r' :: rest => rest.reverse
  | '\n' :: rest => rest.reverse
  | _ => line

/-- Whether a line is a comment from its first visible character on. -/
def isComment (line : List Char) : Bool := (line.dropWhile Text.isSpace).head? = some '#'

/-- **The next whole line** of a definition and the lines behind it, where `before` and `s` are the
text and the state of the lines read already.  Nothing is left at the end of the file, which must
not come while a definition goes on. -/
def nextLine? : List (List UInt8) → (before : List Char) → (s : State) →
    Except Error (Option (List Char × List (List UInt8)))
  | [], before, s =>
    if s = .plain then .ok none
    else .error (.line (String.ofList before) (Utf8.encode before).length)
  | bytes :: rest, before, s =>
    match Utf8.decode? bytes with
    | none => .error (.io notText)
    | some line =>
      if isComment (before ++ line) then .ok (some ([], rest))
      else match readLine s line with
        | .error shortened => .ok (some (before ++ shortened, rest))
        | .ok .plain => .ok (some (dropLineBreak (before ++ line), rest))
        | .ok s => nextLine? rest (before ++ line) s

/-- A next line is found behind at least one line that is read. -/
theorem length_lt_of_nextLine? {lines rest : List (List UInt8)} {before line : List Char}
    {s : State} (hline : nextLine? lines before s = .ok (some (line, rest))) :
    rest.length < lines.length := by
  induction lines generalizing before s with
  | nil =>
    simp only [nextLine?] at hline
    split at hline <;> simp at hline
  | cons bytes lines ih =>
    simp only [nextLine?] at hline
    split at hline
    · simp at hline
    · split at hline
      · simp only [Except.ok.injEq, Option.some.injEq, Prod.mk.injEq] at hline
        simp [hline.2]
      · split at hline
        · simp only [Except.ok.injEq, Option.some.injEq, Prod.mk.injEq] at hline
          simp [hline.2]
        · simp only [Except.ok.injEq, Option.some.injEq, Prod.mk.injEq] at hline
          simp [hline.2]
        · have := ih hline
          simp only [List.length_cons]
          omega

end Provisioning.EnvFile
