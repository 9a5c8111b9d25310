/-
**Quoted scalars.**

In single quotes every character stands for itself, and two quotes stand for one.  In double quotes
a backslash begins an escape; in front of the end of a line it joins the two lines without a blank.
In both, white space around the end of a line is folded, and no mark of a document may begin a
line.

Main definitions:

* `Yaml.singleQuoted?` — **the scalar** behind a single quote;
* `Yaml.escape?`, `Yaml.doubleQuoted?` — **the scalar** behind a double quote.
-/

import Provisioning.Text.Digits
import Provisioning.Yaml.Character

set_option autoImplicit false
set_option relaxedAutoImplicit false

namespace Provisioning.Yaml

/-! ### Single quotes -/

/-- **The scalar** behind a single quote and the place behind its closing quote; nothing if it is
faulty.  `text` and `run`, the last character first, are what was read of it and the white space
behind that. -/
def singleQuoted? (text run : List Char) (p : Position) : List Char → Option (List Char × Cursor)
  | [] => none
  | c :: rest =>
    if isWhite c then singleQuoted? text (c :: run) (p.after c) rest
    else if p.column = 0 && isDocumentMarker (c :: rest) then none
    else if c = '\x27' then
      match rest with
      | '\x27' :: rest =>
        singleQuoted? ('\x27' :: (fold run ++ text)) [] ((p.after c).after c) rest
      | _ => some ((fold run ++ text).reverse, ⟨rest, p.after c⟩)
    else singleQuoted? (c :: (fold run ++ text)) [] (p.after c) rest

/-! ### Double quotes -/

/-- The character of a code point that is written with `count` hexadecimal digits. -/
def codePoint? (count : Nat) (text : List Char) : Option Char := do
  let digits := text.take count
  guard (digits.length = count)
  let n ← Digits.number? 16 digits
  guard n.isValidChar
  return Char.ofNat n

/-- The character that an escape of one character stands for. -/
def shortEscape? (c : Char) : Option Char :=
  match c with
  | '0' => some '\x00'
  | 'a' => some '\x07'
  | 'b' => some '\x08'
  | 't' | '\t' => some '\t'
  | 'n' => some '\n'
  | 'v' => some '\x0b'
  | 'f' => some '\x0c'
  | 'r' => some '\r'
  | 'e' => some '\x1b'
  | ' ' => some ' '
  | '\x22' => some '\x22'
  | '/' => some '/'
  | '\\' => some '\\'
  | 'N' => some '\u0085'
  | '_' => some '\u00a0'
  | 'L' => some '\u2028'
  | 'P' => some '\u2029'
  | _ => none

/-- The character that the escape at the front of a text stands for, and how many characters the
escape has behind its backslash. -/
def escape? : List Char → Option (Char × Nat)
  | [] => none
  | c :: rest =>
    match c with
    | 'x' => (codePoint? 2 rest).map (·, 3)
    | 'u' => (codePoint? 4 rest).map (·, 5)
    | 'U' => (codePoint? 8 rest).map (·, 9)
    | _ => (shortEscape? c).map (·, 1)

/-- White space that was read but not yet folded: the run of it, the last character first, and
whether it follows the escaped end of a line. -/
structure Gap where
  run : List Char := []
  escaped : Bool := false
  deriving DecidableEq, Repr

/-- The text of the white space.  Behind an escaped end of a line only further breaks count. -/
def Gap.fold (g : Gap) : List Char :=
  if g.escaped then g.run.filter isBreak else Yaml.fold g.run

/-- **The scalar** behind a double quote and the place behind its closing quote; nothing if it is
faulty.  `text`, the last character first, is what was read of it. -/
def doubleQuoted? (text : List Char) (gap : Gap) (p : Position) :
    (source : List Char) → Option (List Char × Cursor)
  | [] => none
  | c :: rest =>
    if isWhite c then doubleQuoted? text { gap with run := c :: gap.run } (p.after c) rest
    else if p.column = 0 && isDocumentMarker (c :: rest) then none
    else if c = '\x22' then some ((gap.fold ++ text).reverse, ⟨rest, p.after c⟩)
    else if c = '\\' then
      match rest with
      | [] => none
      | b :: behind =>
        if isBreak b then doubleQuoted? (gap.fold ++ text) { escaped := true } (p.after b) behind
        else
          match escape? (b :: behind) with
          | none => none
          | some (e, size) =>
            doubleQuoted? (e :: (gap.fold ++ text)) {}
              ((p.after c).behind ((b :: behind).take size)) ((b :: behind).drop size)
    else doubleQuoted? (c :: (gap.fold ++ text)) {} (p.after c) rest
termination_by source => source.length
decreasing_by all_goals simp only [List.length_cons, List.length_drop]; omega

end Provisioning.Yaml
