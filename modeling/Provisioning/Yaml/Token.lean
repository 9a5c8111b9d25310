/-
**The tokens of YAML.**

A text is a row of tokens.  The beginning and the end of a collection in the block style are tokens
too, although nothing but indentation stands for them in the text, and so is the mark of a key,
which only the colon behind it gives away.

Main definitions:

* `Yaml.Style` — how a scalar is written;
* `Yaml.TagName`, `Yaml.Directive` — what the tokens of a tag and of a directive hold;
* `Yaml.Token` — the tokens.
-/

import Provisioning.Yaml.Character

set_option autoImplicit false
set_option relaxedAutoImplicit false

namespace Provisioning.Yaml

/-- How a scalar is written. -/
inductive Style where
  | plain
  | singleQuoted
  | doubleQuoted
  | literal
  | folded
  deriving DecidableEq, Repr, Inhabited

/-- A tag as it is written: a handle, which stands for the beginning of the tag, and what follows
it, in bytes.  An empty handle stands for nothing. -/
structure TagName where
  handle : List Char
  suffix : List UInt8
  deriving DecidableEq, Repr

/-- A directive in front of a document. -/
inductive Directive where
  | version (major minor : Nat)
  /-- What a handle stands for. -/
  | handle (name : List Char) (stands : List UInt8)
  deriving DecidableEq, Repr

/-- The tokens. -/
inductive Token where
  | directive (d : Directive)
  | documentStart
  | documentEnd
  | streamEnd
  | blockSequenceStart
  | blockMappingStart
  | blockEnd
  | flowSequenceStart
  | flowSequenceEnd
  | flowMappingStart
  | flowMappingEnd
  /-- The dash in front of an item. -/
  | item
  /-- The comma between two entries. -/
  | separator
  | key
  | value
  | alias (name : List Char)
  | anchor (name : List Char)
  | tag (t : TagName)
  | scalar (style : Style) (text : List Char)
  deriving DecidableEq, Repr

end Provisioning.Yaml
