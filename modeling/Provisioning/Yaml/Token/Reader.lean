/-
**Reading tokens.**

Tokens are read one after the other.  Two things make this more than cutting the text into words.
Indentation opens and closes the collections of the block style.  And whether a token is a key is
known only at the colon behind it, so that the mark of a key, and perhaps the beginning of a
mapping, is put in front of a token that was read before.  Until it is known, the token is a
candidate; it stops being one at the end of its line or after 1024 bytes.

When a text is faulty, the tokens in front of the fault are the answer, but not beyond the first
candidate, since it is not known what comes in front of that.  The answer ends with the end of the
stream exactly when there is no fault.  Where the text goes on with a portion that cannot be read,
the last token that it touches is faulty.

Main definitions:

* `Yaml.Candidate` — a token that may be a key;
* `Yaml.Reader` — what is kept while tokens are read;
* `Yaml.Reader.step?` — reading one token;
* `Yaml.tokens` — **the tokens** of a text.
-/

import Provisioning.Yaml.Token.Plain
import Provisioning.Yaml.Token.Quoted
import Provisioning.Yaml.Token.Block
import Provisioning.Yaml.Token.Tag

set_option autoImplicit false
set_option relaxedAutoImplicit false

namespace Provisioning.Yaml

/-- A token that may be a key: how many tokens are in front of it, where it begins, and whether it
has to be a key because nothing else can stand there. -/
structure Candidate where
  before : Nat
  position : Position
  required : Bool
  deriving DecidableEq, Repr

/-- Whether a colon at a place can still make a key of the candidate. -/
def Candidate.isFresh (k : Candidate) (p : Position) : Bool :=
  p.line ≤ k.position.line && p.bytes ≤ k.position.bytes + 1024

/-- What is kept while tokens are read. -/
structure Reader where
  cursor : Cursor
  /-- Whether the text goes on with a portion that cannot be read. -/
  broken : Bool := false
  /-- The tokens so far, the last one first. -/
  tokens : List Token := []
  /-- The columns of the open block collections, the innermost first. -/
  columns : List Nat := []
  /-- The candidate in the innermost collection. -/
  candidate : Option Candidate := none
  /-- The candidates around each open flow collection, the innermost first. -/
  outer : List (Option Candidate) := []
  /-- Whether the next token can be a candidate. -/
  keyAllowed : Bool := true
  deriving DecidableEq, Repr

namespace Reader

/-- The place that was reached. -/
def position (r : Reader) : Position := r.cursor.position

/-- Whether reading is inside a flow collection. -/
def inFlow (r : Reader) : Bool := !r.outer.isEmpty

/-- Add a token. -/
def emit (r : Reader) (t : Token) : Reader := { r with tokens := t :: r.tokens }

/-- Put a token in front of those after the first `before` ones. -/
def insert (r : Reader) (before : Nat) (t : Token) : Reader :=
  let since := r.tokens.length - before
  { r with tokens := r.tokens.take since ++ t :: r.tokens.drop since }

/-- Go on behind some characters of the line. -/
def skip (r : Reader) (count : Nat) : Reader := { r with cursor := r.cursor.skip count }

/-! ### Candidates -/

/-- A candidate at a place: none if it is stale, and a fault if it had to be a key. -/
def refresh? (p : Position) : Option Candidate → Option (Option Candidate)
  | none => some none
  | some k => if k.isFresh p then some (some k) else if k.required then none else some none

/-- Forget the candidates that are stale. -/
def refreshAll? (r : Reader) : Option Reader := do
  let candidate ← refresh? r.position r.candidate
  let outer ← r.outer.mapM (refresh? r.position)
  return { r with candidate, outer }

/-- Forget the candidate because another token begins. -/
def forget? (r : Reader) : Option Reader :=
  if r.candidate.any (·.required) then none else some { r with candidate := none }

/-- Make the next token a candidate, if it can be one. -/
def propose? (r : Reader) : Option Reader :=
  if r.keyAllowed then
    let required := !r.inFlow && r.columns.head? == some r.position.column
    r.forget?.map fun r => { r with candidate := some ⟨r.tokens.length, r.position, required⟩ }
  else some r

/-- The tokens in front of the first candidate. -/
def settled (r : Reader) : List Token :=
  let counts := (r.candidate :: r.outer).filterMap (·.map (·.before))
  r.tokens.reverse.take (counts.foldl min r.tokens.length)

/-! ### Block collections -/

/-- Open a block collection at a column, unless one is open there, with its token behind the first
`before` ones. -/
def openBlock (r : Reader) (column before : Nat) (t : Token) : Reader :=
  if !r.inFlow && r.columns.head?.all (· < column) then
    { r.insert before t with columns := column :: r.columns }
  else r

/-- Close the block collections whose columns satisfy a condition. -/
def closeBlocks (r : Reader) (closing : Nat → Bool) : Reader :=
  if r.inFlow then r
  else
    let count := (r.columns.takeWhile closing).length
    { r with
      tokens := List.replicate count .blockEnd ++ r.tokens
      columns := r.columns.drop count }

/-! ### White space and comments -/

/-- The cursor at the next token, and whether that can be a candidate: outside flow collections a
new line allows it.  A tab is white space only where no candidate can be, and a mark of the byte
order only at the beginning of a line. -/
def nextToken (flow keyAllowed comment : Bool) (p : Position) : List Char → Bool × Cursor
  | [] => (keyAllowed, ⟨[], p⟩)
  | c :: rest =>
    if isBreak c then nextToken flow (keyAllowed || !flow) false (p.after c) rest
    else if comment || c = '#' then nextToken flow keyAllowed true (p.after c) rest
    else if c = '\ufeff' && p.column = 0 then nextToken flow keyAllowed false (p.after c) rest
    else if c = ' ' || (c = '\t' && (flow || !keyAllowed)) then
      nextToken flow keyAllowed false (p.after c) rest
    else (keyAllowed, ⟨c :: rest, p⟩)

/-- Go on to the next token. -/
def advance (r : Reader) : Reader :=
  let (keyAllowed, cursor) := nextToken r.inFlow r.keyAllowed false r.position r.cursor.rest
  { r with keyAllowed, cursor }

/-! ### The tokens -/

/-- The end of the text, which ends its line and all block collections. -/
def finish? (r : Reader) : Option Reader :=
  let p := r.position
  let r := { r with cursor.position := if p.column = 0 then p else { line := p.line + 1 } }
  (r.closeBlocks fun _ => true).forget?.map fun r =>
    { r with keyAllowed := false }.emit .streamEnd

/-- A directive. -/
def directive? (r : Reader) : Option Reader := do
  let r ← (r.closeBlocks fun _ => true).forget?
  let (d, size) ← Directive.read? r.cursor.rest.tail
  let behind := r.cursor.skip (size + 1)
  let cursor ← nextLine? false behind.position behind.rest
  return { r with cursor, keyAllowed := false }.emit (.directive d)

/-- The mark of a document. -/
def marker? (r : Reader) (t : Token) : Option Reader :=
  (r.closeBlocks fun _ => true).forget?.map fun r =>
    ({ r with keyAllowed := false }.skip 3).emit t

/-- The beginning of a flow collection. -/
def openFlow? (r : Reader) (t : Token) : Option Reader :=
  r.propose?.map fun r =>
    let inside := { r with candidate := none, outer := r.candidate :: r.outer, keyAllowed := true }
    (inside.skip 1).emit t

/-- The end of a flow collection. -/
def closeFlow? (r : Reader) (t : Token) : Option Reader :=
  r.forget?.map fun r =>
    let (candidate, outer) :=
      match r.outer with
      | [] => (none, [])
      | candidate :: outer => (candidate, outer)
    ({ r with candidate, outer, keyAllowed := false }.skip 1).emit t

/-- A comma. -/
def separator? (r : Reader) : Option Reader :=
  r.forget?.map fun r => ({ r with keyAllowed := true }.skip 1).emit .separator

/-- A dash in front of an item. -/
def item? (r : Reader) : Option Reader :=
  if !r.inFlow && !r.keyAllowed then none
  else
    let r := r.openBlock r.position.column r.tokens.length .blockSequenceStart
    r.forget?.map fun r => ({ r with keyAllowed := true }.skip 1).emit .item

/-- A question mark in front of a key. -/
def key? (r : Reader) : Option Reader :=
  if !r.inFlow && !r.keyAllowed then none
  else
    let r := r.openBlock r.position.column r.tokens.length .blockMappingStart
    r.forget?.map fun r => ({ r with keyAllowed := !r.inFlow }.skip 1).emit .key

/-- A colon in front of a value.  It makes a key of the candidate, if there is one. -/
def value? (r : Reader) : Option Reader :=
  match r.candidate with
  | some k =>
    let r := (r.insert k.before .key).openBlock k.position.column k.before .blockMappingStart
    some (({ r with candidate := none, keyAllowed := false }.skip 1).emit .value)
  | none =>
    if !r.inFlow && !r.keyAllowed then none
    else
      let r := r.openBlock r.position.column r.tokens.length .blockMappingStart
      some (({ r with keyAllowed := !r.inFlow }.skip 1).emit .value)

/-- Whether a character may follow the name of an anchor. -/
def endsAnchor (text : List Char) : Bool :=
  endsWord text || text.head?.any "?:,]\x7d%@\x60".toList.contains

/-- An anchor or an alias. -/
def anchor? (r : Reader) (token : List Char → Token) : Option Reader := do
  let r ← r.propose?
  let name := r.cursor.rest.tail.takeWhile isNameCharacter
  guard (!name.isEmpty && endsAnchor (r.cursor.rest.drop (name.length + 1)))
  return ({ r with keyAllowed := false }.skip (name.length + 1)).emit (token name)

/-- A tag. -/
def tag? (r : Reader) : Option Reader := do
  let r ← r.propose?
  let (name, size) ← TagName.read? r.cursor.rest.tail
  let r := { r with keyAllowed := false }.skip (size + 1)
  guard (endsWord r.cursor.rest || (r.inFlow && r.cursor.rest.head? = some ','))
  return r.emit (.tag name)

/-- A scalar in quotes. -/
def quoted? (r : Reader) (style : Style) : Option Reader := do
  let r ← r.propose?
  let inside := r.cursor.skip 1
  let (text, cursor) ←
    match style with
    | .singleQuoted => singleQuoted? [] [] inside.position inside.rest
    | _ => doubleQuoted? [] {} inside.position inside.rest
  return { r with cursor, keyAllowed := false }.emit (.scalar style text)

/-- A block scalar. -/
def block? (r : Reader) (style : Style) : Option Reader := do
  let r ← r.forget?
  let (text, cursor) ← Block.read? (style == .folded) r.columns.head? (r.cursor.skip 1)
  return { r with cursor, keyAllowed := true }.emit (.scalar style text)

/-- A plain scalar; a new line behind it allows a candidate. -/
def plainScalar? (r : Reader) : Option Reader := do
  let r ← r.propose?
  let margin : Margin := ⟨r.inFlow, (r.columns.head?.map (· + 1)).getD 0⟩
  let ((text, ended), cursor) ← plain? margin [] [] r.position r.cursor.rest
  return { r with cursor, keyAllowed := ended }.emit (.scalar .plain text)

/-- Whether a plain scalar can begin with a character in front of `rest`. -/
def beginsPlain (flow : Bool) (c : Char) (rest : List Char) : Bool :=
  (!isWhite c && !"-?:,[]\x7b\x7d#&*!|>\x27\x22%@\x60".toList.contains c) ||
    (c = '-' && !rest.head?.any isBlank) || (!flow && (c = '?' || c = ':') && !endsWord rest)

/-- The token that begins with a character in front of `rest`. -/
def token? (r : Reader) (c : Char) (rest : List Char) : Option Reader :=
  if r.position.column = 0 && c = '%' then r.directive?
  else if r.position.column = 0 && isMarker '-' (c :: rest) then r.marker? .documentStart
  else if r.position.column = 0 && isMarker '.' (c :: rest) then r.marker? .documentEnd
  else if c = '[' then r.openFlow? .flowSequenceStart
  else if c = '\x7b' then r.openFlow? .flowMappingStart
  else if c = ']' then r.closeFlow? .flowSequenceEnd
  else if c = '\x7d' then r.closeFlow? .flowMappingEnd
  else if c = ',' then r.separator?
  else if c = '-' && endsWord rest then r.item?
  else if c = '?' && (r.inFlow || endsWord rest) then r.key?
  else if c = ':' && (r.inFlow || endsWord rest) then r.value?
  else if c = '*' then r.anchor? .alias
  else if c = '&' then r.anchor? .anchor
  else if c = '!' then r.tag?
  else if c = '|' && !r.inFlow then r.block? .literal
  else if c = '>' && !r.inFlow then r.block? .folded
  else if c = '\x27' then r.quoted? .singleQuoted
  else if c = '\x22' then r.quoted? .doubleQuoted
  else if beginsPlain r.inFlow c rest then r.plainScalar?
  else none

/-- The longest sign that has to be seen in full at the beginning of a token: the mark of a document
and what is behind it. -/
def foresight : Nat := 4

/-- Read one token, and the ends of the block collections in front of it; nothing if it is
faulty. -/
def step? (r : Reader) : Option Reader := do
  let r ← r.advance.refreshAll?
  let r := r.closeBlocks (r.position.column < ·)
  guard (!r.broken || foresight ≤ r.cursor.rest.length)
  let next ←
    match r.cursor.rest with
    | [] => r.finish?
    | c :: rest => r.token? c rest
  guard (!r.broken || !next.cursor.rest.isEmpty)
  return next

/-- Read tokens up to the end or a fault, at most as many as `fuel`.  When the candidates are looked
at before a token is read, the tokens in front of them become known; `known` are those before. -/
def run : (fuel : Nat) → (known : List Token) → Reader → List Token
  | 0, known, _ => known
  | fuel + 1, known, r =>
    match r.refreshAll? with
    | none => known
    | some r =>
      if r.tokens.head? = some .streamEnd then r.tokens.reverse
      else
        match r.step? with
        | none => r.settled
        | some next => run fuel r.settled next

end Reader

/-- **The tokens** of a text.  Every one but the last takes at least one character. -/
def tokens (text : List Char) : List Token :=
  let source := readable text
  Reader.run (text.length + 2) []
    { cursor := ⟨unifyBreaks source.text, {}⟩, broken := source.broken }

end Provisioning.Yaml
