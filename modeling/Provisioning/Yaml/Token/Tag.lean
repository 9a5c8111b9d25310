/-
**Tags and directives.**

A tag is written in full between angles, or as a handle and a suffix, or as an exclamation mark and
a suffix.  Its characters are those of a web address; others are written as bytes in hexadecimal.
A directive gives the version of the language or says what a handle stands for.

Main definitions:

* `Yaml.uri?` — the characters of a web address;
* `Yaml.TagName.read?` — **the tag** behind its exclamation mark;
* `Yaml.Directive.read?` — **the directive** behind its percent sign.
-/

import Provisioning.Yaml.Token
import Provisioning.Yaml.Token.Quoted

set_option autoImplicit false
set_option relaxedAutoImplicit false

namespace Provisioning.Yaml

/-! ### Web addresses -/

/-- Whether a character may be in a web address, apart from a percent sign; a full one may hold
commas and square brackets. -/
def isUriCharacter (full : Bool) (c : Char) : Bool :=
  isNameCharacter c || ";/?:@&=+$.!~*\x27()".toList.contains c ||
    (full && ",[]".toList.contains c)

/-- How many bytes follow a first byte. -/
def followers? (octet : Nat) : Option Nat :=
  if octet < 0x80 then some 0
  else if 0xc0 ≤ octet && octet < 0xe0 then some 1
  else if 0xe0 ≤ octet && octet < 0xf0 then some 2
  else if 0xf0 ≤ octet && octet < 0xf8 then some 3
  else none

/-- The bytes of the web address at the front of a text and the count of its characters; nothing if
an escape is faulty.  `missing` bytes have to follow as escapes, and `bytes`, the last one first,
and `size` are what was read. -/
def uri? (full : Bool) (missing size : Nat) (bytes : List UInt8) :
    List Char → Option (List UInt8 × Nat)
  | '%' :: a :: b :: rest => do
    let octet ← Digits.number? 16 [a, b]
    let missing ←
      if missing = 0 then followers? octet
      else if 0x80 ≤ octet && octet < 0xc0 then some (missing - 1)
      else none
    uri? full missing (size + 3) (octet.toUInt8 :: bytes) rest
  | c :: rest =>
    if missing ≠ 0 || c = '%' then none
    else if isUriCharacter full c then uri? full 0 (size + 1) (c.toNat.toUInt8 :: bytes) rest
    else some (bytes.reverse, size)
  | [] => if missing = 0 then some (bytes.reverse, size) else none

/-- The bytes in front of the first zero, which ends a tag. -/
def untilZero (bytes : List UInt8) : List UInt8 := bytes.takeWhile (· ≠ 0)

/-! ### Tags -/

/-- **The tag** behind its exclamation mark and the count of its characters; nothing if it is
faulty. -/
def TagName.read? (text : List Char) : Option (TagName × Nat) :=
  match text with
  | '<' :: rest => do
    let (bytes, size) ← uri? true 0 0 [] rest
    guard (size ≠ 0 && (rest.drop size).head? = some '>')
    return (⟨[], untilZero bytes⟩, size + 2)
  | _ =>
    let word := text.takeWhile isNameCharacter
    match text.drop word.length with
    | '!' :: rest => do
      let (bytes, size) ← uri? false 0 0 [] rest
      guard (size ≠ 0)
      return (⟨'!' :: word ++ ['!'], untilZero bytes⟩, word.length + 1 + size)
    | rest => do
      let (bytes, size) ← uri? false 0 0 [] rest
      let suffix := untilZero (word.map (·.toNat.toUInt8) ++ bytes)
      let name : TagName := if suffix.isEmpty then ⟨[], [0x21]⟩ else ⟨['!'], suffix⟩
      return (name, word.length + size)

/-! ### Directives -/

/-- The number at the front of a text, of one to nine digits, and the count of its digits. -/
def versionNumber? (text : List Char) : Option (Nat × Nat) := do
  let digits := text.takeWhile Char.isDigit
  guard (0 < digits.length && digits.length ≤ 9)
  return (Digits.decimal digits, digits.length)

/-- How many blanks a text begins with. -/
def leadingBlanks (text : List Char) : Nat := (text.takeWhile isBlank).length

/-- The version at the front of a text and the count of its characters. -/
def version? (text : List Char) : Option (Directive × Nat) := do
  let (major, size) ← versionNumber? text
  guard ((text.drop size).head? = some '.')
  let (minor, more) ← versionNumber? (text.drop (size + 1))
  return (.version major minor, size + 1 + more)

/-- A handle and what it stands for at the front of a text, and the count of their characters. -/
def handle? (text : List Char) : Option (Directive × Nat) := do
  guard (text.head? = some '!')
  let word := text.tail.takeWhile isNameCharacter
  let closed := (text.drop (word.length + 1)).head? = some '!'
  guard (closed || word.isEmpty)
  let name := '!' :: word ++ if closed then ['!'] else []
  let behind := text.drop name.length
  let blanks := leadingBlanks behind
  guard (0 < blanks)
  let (bytes, size) ← uri? true 0 0 [] (behind.drop blanks)
  guard (size ≠ 0 && endsWord (behind.drop (blanks + size)))
  return (.handle name (untilZero bytes), name.length + blanks + size)

/-- **The directive** behind its percent sign and the count of its characters; nothing if it is
faulty or unknown. -/
def Directive.read? (text : List Char) : Option (Directive × Nat) := do
  let name := text.takeWhile isNameCharacter
  let behind := text.drop name.length
  guard (endsWord behind)
  let blanks := leadingBlanks behind
  let arguments := behind.drop blanks
  let (d, size) ←
    if name = "YAML".toList then version? arguments
    else if name = "TAG".toList then handle? arguments
    else none
  return (d, name.length + blanks + size)

end Provisioning.Yaml
