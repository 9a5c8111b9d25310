/-
**UTF-8.**

Bytes become characters one after the other.  Where they are not well formed, the longest run that
could still have begun a character counts as one ill-formed sequence, and reading goes on behind it.

Main definitions:

* `Utf8.encode` — the bytes of a text;
* `Utf8.scalars` — **the characters of bytes**, with nothing in place of an ill-formed sequence;
* `Utf8.decode?` — the text of well-formed bytes;
* `Utf8.decodeLossy` — a text of any bytes.
-/

set_option autoImplicit false
set_option relaxedAutoImplicit false

namespace Provisioning.Utf8

/-- The bytes of a text. -/
def encode (text : List Char) : List UInt8 := text.flatMap String.utf8EncodeChar

@[simp] theorem encode_nil : encode [] = [] := rfl

@[simp] theorem encode_cons (c : Char) (rest : List Char) :
    encode (c :: rest) = String.utf8EncodeChar c ++ encode rest := by simp [encode]

/-- A character of which some bytes are still to come: the bits read so far, how many bytes are
missing, and the range of the next one. -/
structure Pending where
  bits : Nat
  missing : Nat
  low : UInt8 := 0x80
  high : UInt8 := 0xbf
  deriving Repr

/-- What a first byte begins: a character that is complete, one with more bytes to come, or an
ill-formed sequence. -/
inductive Start where
  | complete (c : Char)
  | pending (p : Pending)
  | illFormed
  deriving Repr

/-- What a first byte begins.  The range of the second byte keeps out overlong forms, surrogates and
numbers beyond the last character. -/
def start (b : UInt8) : Start :=
  let n := b.toNat
  if n < 0x80 then .complete (Char.ofNat n)
  else if n < 0xc2 then .illFormed
  else if n < 0xe0 then .pending { bits := n - 0xc0, missing := 1 }
  else if n = 0xe0 then .pending { bits := 0, missing := 2, low := 0xa0 }
  else if n = 0xed then .pending { bits := 0xd, missing := 2, high := 0x9f }
  else if n < 0xf0 then .pending { bits := n - 0xe0, missing := 2 }
  else if n = 0xf0 then .pending { bits := 0, missing := 3, low := 0x90 }
  else if n = 0xf4 then .pending { bits := 4, missing := 3, high := 0x8f }
  else if n < 0xf4 then .pending { bits := n - 0xf0, missing := 3 }
  else .illFormed

/-- The characters of bytes that continue a pending character, if there is one. -/
def scalarsFrom : Option Pending → List UInt8 → List (Option Char)
  | none, [] => []
  | some _, [] => [none]
  | none, b :: rest => begin b rest
  | some p, b :: rest =>
    if p.low ≤ b && b ≤ p.high then
      let bits := p.bits * 64 + (b.toNat - 0x80)
      if p.missing = 1 then some (Char.ofNat bits) :: scalarsFrom none rest
      else scalarsFrom (some { bits, missing := p.missing - 1 }) rest
    else none :: begin b rest
where
  /-- The characters of a byte that begins one, and of the bytes behind it. -/
  begin (b : UInt8) (rest : List UInt8) : List (Option Char) :=
    match start b with
    | .complete c => some c :: scalarsFrom none rest
    | .pending p => scalarsFrom (some p) rest
    | .illFormed => none :: scalarsFrom none rest

/-- **The characters of bytes**, with nothing in place of an ill-formed sequence. -/
def scalars (bytes : List UInt8) : List (Option Char) := scalarsFrom none bytes

/-- The text of well-formed bytes. -/
def decode? (bytes : List UInt8) : Option (List Char) := (scalars bytes).mapM id

/-- A text of any bytes: an ill-formed sequence becomes the replacement character. -/
def decodeLossy (bytes : List UInt8) : List Char :=
  (scalars bytes).map fun c => c.getD (Char.ofNat 0xfffd)

end Provisioning.Utf8
