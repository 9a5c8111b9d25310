/-
**Network addresses as hosts.**

A host whose last part is a number is an address of four bytes; its parts may be decimal, octal or
hexadecimal, and the last part may stand for several bytes.  A host in square brackets is an address
of eight groups of sixteen bits; one run of zero groups may be left out, and the last two groups may
be written as four decimal bytes.

Main definitions:

* `Url.Address.v4?`, `Url.Address.v4Text` — addresses of four bytes, read and written;
* `Url.Address.endsInNumber` — whether a host has to be such an address;
* `Url.Address.v6?`, `Url.Address.v6Text` — addresses of eight groups, read and written.
-/

import Provisioning.Url.Percent

set_option autoImplicit false
set_option relaxedAutoImplicit false

namespace Provisioning.Url.Address

/-! ### Four bytes -/

/-- A part of an address: hexadecimal behind `0x`, octal behind `0`, else decimal. -/
def part? : List Char → Option Nat
  | [] => none
  | '0' :: 'x' :: rest | '0' :: 'X' :: rest => Digits.number? 16 rest
  | '0' :: c :: rest => Digits.number? 8 (c :: rest)
  | text => Digits.number? 10 text

/-- The parts of a host, without an empty last one. -/
def parts (host : List Char) : List (List Char) :=
  let all := host.splitOn '.'
  if all.getLast? = some [] then all.dropLast else all

/-- Whether the last part of a host is a number. -/
def endsInNumber (host : List Char) : Bool :=
  match (parts host).getLast? with
  | none => false
  | some last => (!last.isEmpty && last.all Char.isDigit) || (part? last).isSome

/-- The address of four bytes that a host names: every part but the last is one byte, and the last
fills the bytes that are left. -/
def v4? (host : List Char) : Option UInt32 := do
  let numbers ← (parts host).mapM part?
  let last ← numbers.getLast?
  let before := numbers.dropLast
  if 3 < before.length || before.any (255 < ·) || Nat.pow 256 (4 - before.length) ≤ last then none
  else
    let high := before.zipIdx.foldl (fun n (b, i) => n + b * Nat.pow 256 (3 - i)) 0
    return .ofNat (high + last)

/-- The decimal digits of a number. -/
def decimal (n : Nat) : List Char := Nat.toDigits 10 n

/-- The written form of an address of four bytes. -/
def v4Text (address : UInt32) : List Char :=
  let n := address.toNat
  let byte (place : Nat) : List Char := decimal ((n >>> (8 * place)) % 256)
  byte 3 ++ '.' :: byte 2 ++ '.' :: byte 1 ++ '.' :: byte 0

/-! ### Eight groups -/

/-- A group of one to four hexadecimal digits. -/
def group? (text : List Char) : Option Nat :=
  if text.isEmpty || 4 < text.length then none else Digits.number? 16 text

/-- A decimal byte without a superfluous zero. -/
def byte? (text : List Char) : Option Nat :=
  match text with
  | '0' :: _ :: _ => none
  | _ =>
    if text.isEmpty || 3 < text.length then none
    else (Digits.number? 10 text).filter (· < 256)

/-- Two groups written as four decimal bytes. -/
def embedded? (text : List Char) : Option (List Nat) := do
  match ← (text.splitOn '.').mapM byte? with
  | [a, b, c, d] => some [a * 256 + b, c * 256 + d]
  | _ => none

/-- The groups of one side of the run that is left out.  Only the last group of an address may be
written as bytes. -/
def side? (atEnd : Bool) (text : List Char) : Option (List Nat) :=
  if text.isEmpty then some []
  else
    let groups := text.splitOn ':'
    match groups.getLast? with
    | none => none
    | some last =>
      if atEnd && last.contains '.' then do
        let front ← groups.dropLast.mapM group?
        return front ++ (← embedded? last)
      else groups.mapM group?

/-- The text before and behind the first pair of colons, if there is one. -/
def splitRun : List Char → List Char × Option (List Char)
  | ':' :: ':' :: rest => ([], some rest)
  | c :: rest =>
    let (before, behind) := splitRun rest
    (c :: before, behind)
  | [] => ([], none)

/-- The eight groups of an address. -/
def v6? (text : List Char) : Option (List Nat) :=
  match splitRun text with
  | (all, none) => (side? true all).filter (·.length = 8)
  | (before, some behind) => do
    let front ← side? false before
    let back ← side? true behind
    let missing := 8 - (front.length + back.length)
    if missing = 0 then none else some (front ++ List.replicate missing 0 ++ back)

/-- The length of the run of zeros at the front. -/
def zeros (groups : List Nat) : Nat := (groups.takeWhile (· = 0)).length

/-- The place and the length of the first longest run of zeros. -/
def longestRun (groups : List Nat) : Nat × Nat :=
  (List.range groups.length).foldl (fun (place, length) n =>
    let here := zeros (groups.drop n)
    if length < here then (n, here) else (place, length)) (0, 0)

/-- Groups with colons between them. -/
def joined (groups : List Nat) : List Char := [':'].intercalate (groups.map (Nat.toDigits 16))

/-- The written form of an address of eight groups: the first longest run of at least two zeros is
left out. -/
def v6Text (groups : List Nat) : List Char :=
  let (place, length) := longestRun groups
  if length < 2 then joined groups
  else joined (groups.take place) ++ ':' :: ':' :: joined (groups.drop (place + length))

end Provisioning.Url.Address
