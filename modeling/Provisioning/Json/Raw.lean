/-
**What can be read of a JSON text.**

A text is read before anybody knows which type it is meant for, so a fault in it must not be
reported at once: a reader that wants a string and meets an array complains about the array,
whatever is wrong further on.  Reading therefore always gives a tree, and the tree keeps its faults
where they stood in the text: a **broken** value, a container that is never **closed**, a string
whose escapes name no text, a number beyond the binary64 range.  Reading stops at the first fault
that makes the rest unreadable, so the order of the tree is the order of the text.

Values that are skipped only have to be readable: a skipped string may hold any escapes and a
skipped number may have any size.  `Raw.sound` is that condition.

Main definitions:

* `Json.Raw` — the tree;
* `Json.Raw.sound` — nothing broken or unclosed inside;
* `Json.Raw.ofValue` — the tree of a value;
* `Json.Document.ofText` — **reading** a text: its tree, and whether nothing but blanks follows it.
-/

import Provisioning.Json.Value
import Provisioning.Text.Digits

set_option autoImplicit false
set_option relaxedAutoImplicit false

namespace Provisioning.Json

/-- A value as it stands in a text. -/
inductive Raw where
  /-- No value can be read here. -/
  | broken
  | null
  | boolean (b : Bool)
  /-- A number; nothing for one whose magnitude lies beyond the binary64 range. -/
  | number (n : Option Number)
  /-- A string; nothing for one with an escaped half of a surrogate pair. -/
  | string (text : Option String)
  /-- The items up to the first fault, and whether the closing bracket was found. -/
  | array (items : List Raw) (closed : Bool)
  /-- The members up to the first fault, and whether the closing brace was found. -/
  | object (members : List (Option String × Raw)) (closed : Bool)
  deriving Repr, Inhabited

mutual

/-- Nothing inside is broken or unclosed. -/
def Raw.sound : Raw → Bool
  | .broken => false
  | .array items closed => closed && soundItems items
  | .object members closed => closed && soundMembers members
  | _ => true

/-- Every item is sound. -/
def soundItems : List Raw → Bool
  | [] => true
  | v :: rest => v.sound && soundItems rest

/-- The value of every member is sound. -/
def soundMembers : List (Option String × Raw) → Bool
  | [] => true
  | (_, v) :: rest => v.sound && soundMembers rest

end

mutual

/-- The tree of a value, which has no fault. -/
def Raw.ofValue : Value → Raw
  | .null => .null
  | .boolean b => .boolean b
  | .number n => .number (some n)
  | .string s => .string (some s)
  | .array items => .array (rawItems items) true
  | .object members => .object (rawMembers members) true

/-- The trees of the items. -/
def rawItems : List Value → List Raw
  | [] => []
  | v :: rest => .ofValue v :: rawItems rest

/-- The trees of the members. -/
def rawMembers : List (String × Value) → List (Option String × Raw)
  | [] => []
  | (name, v) :: rest => (some name, .ofValue v) :: rawMembers rest

end

/-! ### Blanks and literals -/

/-- The four blanks of the format. -/
def isBlank (c : Char) : Bool := c == ' ' || c == '\n' || c == '\t' || c == '\r'

/-- A text without its leading blanks. -/
def skipBlanks (text : List Char) : List Char := text.dropWhile isBlank

/-- The rest of a text behind a literal. -/
def literal? : List Char → List Char → Option (List Char)
  | [], text => some text
  | c :: word, d :: text => if c = d then literal? word text else none
  | _ :: _, [] => none

/-! ### Numbers -/

/-- The significand of a number is kept in 64 bits: a digit that would not fit is dropped. -/
def significandLimit : Nat := UInt64.size

/-- The greatest size of a power of ten that is kept apart. -/
def powerLimit : Nat := Nat.pow 2 31

/-- Take the decimal digits off the front of a text. -/
def digitRun (text : List Char) : List Char × List Char := text.span Char.isDigit

/-- Read digits into a significand until the next one would not fit: the significand, how many
digits it took, and the digits left out. -/
def fitting (significand : Nat) : List Char → Nat × Nat × List Char
  | [] => (significand, 0, [])
  | d :: rest =>
    let next := significand * 10 + Digits.decimalValue d
    if significandLimit ≤ next then (significand, 0, d :: rest)
    else
      let (s, taken, left) := fitting next rest
      (s, taken + 1, left)

/-- Divide by ten `power` times: at most 308 in one division, so that every divisor is a number of
the format. -/
def shrink (x : Binary64) (power : Nat) : Option Binary64 :=
  if power ≤ 308 then do x.div? (← Binary64.powerOfTen? power)
  else if x.isZero then some x
  else do
    let divided ← x.div? (← Binary64.powerOfTen? 308)
    shrink divided (power - 308)
termination_by power

/-- The number `significand * 10 ^ power`, by one rounded multiplication or by rounded divisions;
nothing beyond the range. -/
def scale (significand : Nat) (power : Int) : Option Binary64 := do
  let x ← Binary64.ofNat? significand
  if power < 0 then shrink x (-power).toNat
  else if power ≤ 308 then x.mul? (← Binary64.powerOfTen? power.toNat)
  else if x.isZero then some x
  else none

/-- A float of a sign. -/
def floatOf (negative : Bool) (significand : Nat) (power : Int) : Option Number :=
  (scale significand power).map fun x => .float (if negative then x.neg else x)

/-- The power of ten written behind an `e`, with the rest of the text. -/
def exponentPart? (text : List Char) : Option (Bool × Nat × List Char) :=
  let (negative, text) :=
    match text with
    | '+' :: rest => (false, rest)
    | '-' :: rest => (true, rest)
    | _ => (false, text)
  match digitRun text with
  | ([], _) => none
  | (digits, rest) => some (negative, Digits.decimal digits, rest)

/-- Finish a float: an optional exponent behind the digits. -/
def withExponent (negative : Bool) (significand : Nat) (power : Int) (text : List Char) :
    Option (Option Number × List Char) :=
  match text with
  | 'e' :: rest | 'E' :: rest => do
    let (down, shift, rest) ← exponentPart? rest
    if powerLimit ≤ shift then
      -- such a shift leaves nothing of the number, or nothing of the range
      let zero := some (Number.float (.zero negative))
      some (if down || significand = 0 then zero else none, rest)
    else
      some (floatOf negative significand (if down then power - shift else power + shift), rest)
  | _ => some (floatOf negative significand power, text)

/-- A number behind its sign, if one stands here: its whole part has no superfluous zero in front,
a point is followed by a digit, and so is an `e`.  A whole number that fits 64 bits is an integer,
except a negative zero; any other is a float. -/
def number? (negative : Bool) (text : List Char) : Option (Option Number × List Char) :=
  let (whole, rest) := digitRun text
  match whole with
  | [] => none
  | '0' :: _ :: _ => none
  | _ =>
    let (significand, _, left) := fitting 0 whole
    let power : Int := left.length
    match rest with
    | '.' :: rest =>
      match digitRun rest with
      | ([], _) => none
      | (fraction, rest) =>
        let (significand, taken, _) := fitting significand fraction
        withExponent negative significand (power - taken) rest
    | 'e' :: _ | 'E' :: _ => withExponent negative significand power rest
    | _ =>
      if !left.isEmpty then some (floatOf negative significand power, rest)
      else if !negative then some (some (.integer significand), rest)
      else if significand = 0 || Nat.pow 2 63 < significand then
        some (floatOf true significand 0, rest)
      else some (some (.integer (-(significand : Int))), rest)

/-! ### Strings -/

/-- One piece of a string: a character that stands for itself, or the unit of a `\u` escape. -/
inductive Piece where
  | char (c : Char)
  | unit (n : Nat)
  deriving DecidableEq, Repr

/-- The unit of four hexadecimal digits. -/
def hexUnit? (a b c d : Char) : Option Nat := Digits.number? 16 [a, b, c, d]

/-- The character that a one-letter escape stands for. -/
def escaped? (c : Char) : Option Char :=
  if c = '\x22' || c = '\\' || c = '/' then some c
  else if c = 'b' then some '\x08'
  else if c = 'f' then some '\x0c'
  else if c = 'n' then some '\n'
  else if c = 'r' then some '\r'
  else if c = 't' then some '\t'
  else none

/-- The pieces of a string behind its opening quote, and the text behind the closing one; nothing
if it is not closed, holds a control character or an unknown escape. -/
def pieces? : List Char → Option (List Piece × List Char)
  | [] => none
  | '\x22' :: rest => some ([], rest)
  | '\\' :: 'u' :: a :: b :: c :: d :: rest =>
    match hexUnit? a b c d with
    | none => none
    | some n => (pieces? rest).map fun (ps, after) => (.unit n :: ps, after)
  | '\\' :: c :: rest =>
    match escaped? c with
    | none => none
    | some e => (pieces? rest).map fun (ps, after) => (.char e :: ps, after)
  | c :: rest =>
    if c.toNat < 32 || c = '\\' then none
    else (pieces? rest).map fun (ps, after) => (.char c :: ps, after)

/-- The first half of a surrogate pair. -/
def isHighSurrogate (n : Nat) : Bool := 0xD800 ≤ n && n < 0xDC00

/-- The second half of a surrogate pair. -/
def isLowSurrogate (n : Nat) : Bool := 0xDC00 ≤ n && n < 0xE000

/-- The text of the pieces: a high half followed by a low one is one character, and a half on its
own is none. -/
def joinPieces? : List Piece → Option (List Char)
  | [] => some []
  | .char c :: rest => (joinPieces? rest).map (c :: ·)
  | .unit high :: .unit low :: rest =>
    if isHighSurrogate high then
      if isLowSurrogate low then
        (joinPieces? rest).map
          (Char.ofNat (0x10000 + (high - 0xD800) * 0x400 + (low - 0xDC00)) :: ·)
      else none
    else if isLowSurrogate high then none
    else (joinPieces? (.unit low :: rest)).map (Char.ofNat high :: ·)
  | .unit n :: rest =>
    if isHighSurrogate n || isLowSurrogate n then none
    else (joinPieces? rest).map (Char.ofNat n :: ·)

/-- A string behind its opening quote. -/
def string? (text : List Char) : Option (Option String × List Char) :=
  (pieces? text).map fun (ps, rest) => ((joinPieces? ps).map String.ofList, rest)

/-! ### Values -/

/-- A scalar, or nothing if none stands here. -/
def scalar? : List Char → Option (Raw × List Char)
  | 'n' :: rest => (literal? "ull".toList rest).map fun r => (.null, r)
  | 't' :: rest => (literal? "rue".toList rest).map fun r => (.boolean true, r)
  | 'f' :: rest => (literal? "alse".toList rest).map fun r => (.boolean false, r)
  | '\x22' :: rest => (string? rest).map fun (s, r) => (.string s, r)
  | '-' :: rest => (number? true rest).map fun (n, r) => (.number n, r)
  | text => (number? false text).map fun (n, r) => (.number n, r)

mutual

/-- A value and the text behind it, or no text if reading stopped inside the value.  `fuel` bounds
the brackets and commas met. -/
def readValue (fuel : Nat) (text : List Char) : Raw × Option (List Char) :=
  match fuel with
  | 0 => (.broken, none)
  | fuel + 1 =>
    match skipBlanks text with
    | '[' :: rest =>
      match skipBlanks rest with
      | ']' :: rest => (.array [] true, some rest)
      | rest =>
        let (items, after) := readItems fuel rest
        (.array items after.isSome, after)
    | '\x7b' :: rest =>
      match skipBlanks rest with
      | '\x7d' :: rest => (.object [] true, some rest)
      | rest =>
        let (members, after) := readMembers fuel rest
        (.object members after.isSome, after)
    | text =>
      match scalar? text with
      | some (v, rest) => (v, some rest)
      | none => (.broken, none)

/-- The items of an array from one that has to stand here to the closing bracket. -/
def readItems (fuel : Nat) (text : List Char) : List Raw × Option (List Char) :=
  match fuel with
  | 0 => ([], none)
  | fuel + 1 =>
    match readValue fuel text with
    | (v, none) => ([v], none)
    | (v, some rest) =>
      match skipBlanks rest with
      | ']' :: rest => ([v], some rest)
      | ',' :: rest =>
        let (items, after) := readItems fuel rest
        (v :: items, after)
      | _ => ([v], none)

/-- The members of an object from one that has to stand here to the closing brace. -/
def readMembers (fuel : Nat) (text : List Char) :
    List (Option String × Raw) × Option (List Char) :=
  match fuel with
  | 0 => ([], none)
  | fuel + 1 =>
    match skipBlanks text with
    | '\x22' :: rest =>
      match string? rest with
      | none => ([], none)
      | some (name, rest) =>
        match skipBlanks rest with
        | ':' :: rest =>
          match readValue fuel rest with
          | (v, none) => ([(name, v)], none)
          | (v, some rest) =>
            match skipBlanks rest with
            | '\x7d' :: rest => ([(name, v)], some rest)
            | ',' :: rest =>
              let (members, after) := readMembers fuel rest
              ((name, v) :: members, after)
            | _ => ([(name, v)], none)
        | _ => ([(name, .broken)], none)
    | _ => ([], none)

end

/-- What can be read of a text: the tree of its value, and whether nothing but blanks follows. -/
structure Document where
  root : Raw
  complete : Bool
  deriving Repr

/-- **Reading** a text. -/
def Document.ofText (text : String) : Document :=
  let chars := text.toList
  match readValue (2 * chars.length + 2) chars with
  | (root, some rest) => ⟨root, (skipBlanks rest).isEmpty⟩
  | (root, none) => ⟨root, false⟩

end Provisioning.Json
