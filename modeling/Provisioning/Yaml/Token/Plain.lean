/-
**Plain scalars.**

A plain scalar goes on until something else begins: a colon at the end of a word, a comment, the
mark of a document, a line that is not indented, and, in a flow collection, one of its signs.
White space between its words is folded, and white space behind it is not part of it.

Main definition:

* `Yaml.plain?` — **the plain scalar** at the front of a text.
-/

import Provisioning.Yaml.Character

set_option autoImplicit false
set_option relaxedAutoImplicit false

namespace Provisioning.Yaml

/-- Where the lines of a plain scalar may stand. -/
structure Margin where
  /-- Whether the scalar is in a flow collection. -/
  flow : Bool
  /-- The least column at which a line of it may begin outside flow collections. -/
  least : Nat
  deriving DecidableEq, Repr

/-- The signs that end a plain scalar in a flow collection. -/
def isFlowSign (c : Char) : Bool := ",[]\x7b\x7d".toList.contains c

/-- Whether a word that begins a line, or follows white space, does not belong to the scalar. -/
def Margin.excludes (m : Margin) (p : Position) (text : List Char) : Bool :=
  (!m.flow && p.column < m.least) || (p.column = 0 && isDocumentMarker text) ||
    text.head? = some '#'

/-- **The plain scalar** at the front of a text, whether a line ended behind its last word, and
where the next token begins; nothing if the scalar is faulty.  `text` and `run`, the last character
first, are what was read of it and the white space behind that. -/
def plain? (m : Margin) (text run : List Char) (p : Position) :
    List Char → Option ((List Char × Bool) × Cursor)
  | [] => some ((text.reverse, run.any isBreak), ⟨[], p⟩)
  | c :: rest =>
    if isWhite c then
      if c = '\t' && run.any isBreak && p.column < m.least then none
      else plain? m text (c :: run) (p.after c) rest
    else if !run.isEmpty && m.excludes p (c :: rest) then
      some ((text.reverse, run.any isBreak), ⟨c :: rest, p⟩)
    else if m.flow && c = ':' && rest.head?.any (fun d => d = '?' || isFlowSign d) then none
    else if (c = ':' && endsWord rest) || (m.flow && isFlowSign c) then
      some ((text.reverse, run.any isBreak), ⟨c :: rest, p⟩)
    else plain? m (c :: (fold run ++ text)) [] (p.after c) rest

end Provisioning.Yaml
