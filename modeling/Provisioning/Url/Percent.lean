/-
**Percent-encoding.**

Inside a URL a byte can be written as a percent sign and two hexadecimal digits.  Which characters
are written that way depends on the part of the URL: each part has its set of characters, and in
every part the control characters and those beyond the basic alphabet are encoded.

Main definitions:

* `Url.Percent.encode` — a text with the characters of a set encoded;
* `Url.Percent.decode` — the bytes of an encoded text;
* `Url.inFragment`, `Url.inQuery`, `Url.inPath`, … — **the sets** of the parts.
-/

import Provisioning.Text.Digits
import Provisioning.Text.Utf8

set_option autoImplicit false
set_option relaxedAutoImplicit false

namespace Provisioning.Url

/-! ### The sets -/

/-- The characters encoded in every part. -/
def inAnyPart (c : Char) : Bool := c.toNat < 0x20 || 0x7e < c.toNat

/-- The characters encoded in a fragment. -/
def inFragment (c : Char) : Bool := inAnyPart c || " \x22<>\x60".toList.contains c

/-- The characters encoded in a query. -/
def inQuery (c : Char) : Bool := inAnyPart c || " \x22#<>".toList.contains c

/-- The characters encoded in the query of a web URL. -/
def inSpecialQuery (c : Char) : Bool := inQuery c || c == '\x27'

/-- The characters encoded in a path. -/
def inPath (c : Char) : Bool := inFragment c || "#?\x7b\x7d".toList.contains c

/-- The characters encoded in user names and passwords. -/
def inUserinfo (c : Char) : Bool := inPath c || "/:;=@[\\]^|".toList.contains c

/-- The characters encoded in a single segment of a path. -/
def inSegment (c : Char) : Bool := inPath c || "/%".toList.contains c

/-- The characters encoded in a single segment of the path of a web URL. -/
def inSpecialSegment (c : Char) : Bool := inSegment c || c == '\\'

namespace Percent

/-! ### Encoding -/

/-- The upper-case hexadecimal digit of a number below sixteen. -/
def hexDigit (n : Nat) : Char := (Nat.digitChar n).toUpper

/-- The encoded form of a byte. -/
def byte (b : UInt8) : List Char := ['%', hexDigit (b.toNat / 16), hexDigit (b.toNat % 16)]

/-- A character, encoded if it is in the set. -/
def char (set : Char → Bool) (c : Char) : List Char :=
  if set c then (String.utf8EncodeChar c).flatMap byte else [c]

/-- A text with the characters of a set encoded. -/
def encode (set : Char → Bool) (text : List Char) : List Char := text.flatMap (char set)

/-! ### Decoding -/

/-- The bytes of an encoded text.  A percent sign without two digits behind it stands for itself. -/
def decode : List Char → List UInt8
  | '%' :: a :: b :: rest =>
    match Digits.number? 16 [a, b] with
    | some n => .ofNat n :: decode rest
    | none => String.utf8EncodeChar '%' ++ decode (a :: b :: rest)
  | c :: rest => String.utf8EncodeChar c ++ decode rest
  | [] => []

@[simp] theorem encode_nil (set : Char → Bool) : encode set [] = [] := rfl

@[simp] theorem encode_cons (set : Char → Bool) (c : Char) (rest : List Char) :
    encode set (c :: rest) = char set c ++ encode set rest := by simp [encode]

end Percent

end Provisioning.Url
