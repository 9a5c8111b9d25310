/-
**Block scalars.**

A block scalar is the lines behind its header that are indented as far as the first of them, or as
far as the header says.  In the literal style its line ends stay; in the folded style one between
two lines that both begin with a word becomes a blank.  What becomes of the line ends behind the
last line is up to the header.

Main definitions:

* `Yaml.Block.Header`, `Yaml.Block.Header.read?` — the signs behind the bar or the angle;
* `Yaml.Block.content?` — the lines;
* `Yaml.Block.read?` — **the block scalar** behind its first sign.
-/

import Provisioning.Yaml.Character

set_option autoImplicit false
set_option relaxedAutoImplicit false

namespace Provisioning.Yaml.Block

/-! ### The header -/

/-- What becomes of the line ends behind the last line. -/
inductive Chomping where
  /-- None of them stays. -/
  | strip
  /-- The first one stays. -/
  | clip
  /-- All of them stay. -/
  | keep
  deriving DecidableEq, Repr

/-- The signs of a header: what becomes of the last line ends, and how far the lines are
indented. -/
structure Header where
  chomping : Chomping := .clip
  indentation : Option Nat := none
  deriving DecidableEq, Repr

/-- The chomping that a sign stands for. -/
def chomping? (c : Char) : Option Chomping :=
  if c = '+' then some .keep else if c = '-' then some .strip else none

/-- The header at the front of a text and the count of its signs, which come in either order;
nothing if it asks for no indentation at all. -/
def Header.read? (text : List Char) : Option (Header × Nat) :=
  let indentation (text : List Char) : Option (Option Nat) :=
    match text.head? with
    | some d =>
      if d.isDigit then if d = '0' then none else some (some (d.toNat - '0'.toNat)) else some none
    | none => some none
  match text.head?.bind chomping? with
  | some chomping => (indentation text.tail).map fun n => (⟨chomping, n⟩, 1 + n.toList.length)
  | none =>
    (indentation text).map fun n =>
      match n, text.tail.head?.bind chomping? with
      | some _, some chomping => (⟨chomping, n⟩, 2)
      | _, _ => (⟨.clip, n⟩, n.toList.length)

/-! ### The lines -/

/-- How far the first line with a word is indented, or an empty line before it if that is more;
nothing if a tab is among the blanks. -/
def widest? (width column : Nat) : List Char → Option Nat
  | [] => some (max width column)
  | c :: rest =>
    if c = ' ' then widest? width (column + 1) rest
    else if c = '\t' then none
    else if isBreak c then widest? (max width column) 0 rest
    else some (max width column)

/-- What is kept while lines are read; lists have the last character first. -/
structure Body where
  text : List Char := []
  /-- The end of the last line, if that has one. -/
  ending : List Char := []
  /-- The ends of the empty lines behind it. -/
  emptyLines : List Char := []
  /-- Whether the last line begins with a blank. -/
  blank : Bool := false
  /-- Whether reading is inside a line, behind its indentation. -/
  inLine : Bool := false
  deriving DecidableEq, Repr

/-- Begin a line with a character. -/
def Body.begin (b : Body) (folded : Bool) (c : Char) : Body :=
  let joined :=
    if folded && b.ending = ['\n'] && !b.blank && !isBlank c then
      if b.emptyLines.isEmpty then [' '] else b.emptyLines
    else b.emptyLines ++ b.ending
  { text := c :: (joined ++ b.text), blank := isBlank c, inLine := true }

/-- **The lines** that are indented by `indent`, and where the next token begins; nothing if a tab
stands in their indentation. -/
def content? (folded : Bool) (indent : Nat) (b : Body) (p : Position) :
    List Char → Option (Body × Cursor)
  | [] => some (b, ⟨[], p⟩)
  | c :: rest =>
    if b.inLine then
      if isBreak c then
        content? folded indent { b with ending := [c], emptyLines := [], inLine := false }
          (p.after c) rest
      else content? folded indent { b with text := c :: b.text } (p.after c) rest
    else if c = ' ' && p.column < indent then content? folded indent b (p.after c) rest
    else if c = '\t' && p.column < indent then none
    else if isBreak c then
      content? folded indent { b with emptyLines := c :: b.emptyLines } (p.after c) rest
    else if p.column = indent then content? folded indent (b.begin folded c) (p.after c) rest
    else some (b, ⟨c :: rest, p⟩)

/-- The text of the lines, with the line ends that stay. -/
def Body.finish (b : Body) : Chomping → List Char
  | .strip => b.text.reverse
  | .clip => (b.ending ++ b.text).reverse
  | .keep => (b.emptyLines ++ b.ending ++ b.text).reverse

/-- **The block scalar** behind its first sign, inside a collection at column `parent`, and where
the next token begins; nothing if it is faulty. -/
def read? (folded : Bool) (parent : Option Nat) (cursor : Cursor) :
    Option (List Char × Cursor) := do
  let (header, size) ← Header.read? cursor.rest
  let start := cursor.skip size
  let start ← nextLine? false start.position start.rest
  let indent ←
    match header.indentation with
    | some n => some (parent.getD 0 + n)
    | none => (widest? 0 0 start.rest).map fun n => max n ((parent.map (· + 1)).getD 1)
  let (body, next) ← content? folded indent {} start.position start.rest
  return (body.finish header.chomping, next)

end Provisioning.Yaml.Block
