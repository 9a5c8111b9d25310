/-
**Reading URLs.**

Blanks around the text and line breaks inside it are dropped.  The scheme decides how the rest is
read: a web-like URL has an authority whatever the number of its slashes, a file URL may have a
host, and any other URL has an authority behind two slashes, a path behind one, or else just a
text.

Main definition:

* `Url.ofText` — **the URL of a text**.
-/

import Provisioning.Url.Basic
import Provisioning.Url.Host

set_option autoImplicit false
set_option relaxedAutoImplicit false

namespace Provisioning.Url

/-! ### The parts of a text -/

/-- A text without the blanks and control characters around it, and without line breaks and tabs. -/
def cleaned (text : List Char) : List Char :=
  let isOuter (c : Char) : Bool := c.toNat ≤ 0x20
  let front := text.dropWhile isOuter
  (front.reverse.dropWhile isOuter).reverse.filter (!isDropped ·)

/-- The scheme at the front of a text in lower case, and the text behind its colon. -/
def scheme? (text : List Char) : Option (List Char × List Char) :=
  let isPart (c : Char) : Bool := c.isAlphanum || c == '+' || c == '-' || c == '.'
  match text.span isPart with
  | (c :: name, ':' :: rest) =>
    if c.isAlpha then some ((c :: name).map Char.toLower, rest) else none
  | _ => none

/-- Whether the character begins what follows an authority. -/
def endsAuthority (special : Bool) (c : Char) : Bool :=
  c == '/' || c == '?' || c == '#' || (special && c == '\\')

/-- Whether the character is a slash. -/
def isSlash (special : Bool) (c : Char) : Bool := c == '/' || (special && c == '\\')

/-- Split a text behind the last occurrence of a character, if it occurs. -/
def splitLast (mark : Char) (text : List Char) : Option (List Char × List Char) :=
  match text.reverse.span (· != mark) with
  | (back, _ :: front) => some (front.reverse, back.reverse)
  | (_, []) => none

/-- Split a text at the first occurrence of a character, if it occurs. -/
def splitFirst (mark : Char) (text : List Char) : List Char × List Char :=
  let (front, back) := text.span (· != mark)
  (front, back.drop 1)

/-- The end of a host: the first colon outside square brackets. -/
def hostLength : (inBrackets : Bool) → List Char → Nat
  | _, [] => 0
  | inBrackets, c :: rest =>
    if c = ':' && !inBrackets then 0
    else hostLength (if c = '[' then true else if c = ']' then false else inBrackets) rest + 1

/-- A port: digits up to the greatest port, or nothing. -/
def port? (text : List Char) : Except ReadError (Option Nat) :=
  match Digits.number? 10 text with
  | none => .error .invalidPort
  | some n =>
    if 65535 < n then .error .invalidPort else if text.isEmpty then .ok none else .ok (some n)

/-! ### Paths, queries and fragments -/

/-- The segments of a path, at the slashes of the scheme. -/
def segmentsOf (special : Bool) (text : List Char) : List (List Char) :=
  let slashes := if special then text.map fun c => if c = '\\' then '/' else c else text
  resolve ((slashes.splitOn '/').map (Percent.encode inPath)) []

/-- The fragment and the query of what follows a path. -/
def tail (special : Bool) (text : List Char) : Option (List Char) × Option (List Char) :=
  let (before, behind) := text.span (· != '#')
  let fragment := match behind with
    | _ :: rest => some (Percent.encode inFragment rest)
    | [] => none
  let query := match before with
    | '?' :: rest => some (Percent.encode (if special then inSpecialQuery else inQuery) rest)
    | _ => none
  (query, fragment)

/-- Split a text where the query or the fragment begins. -/
def splitPath (text : List Char) : List Char × List Char := text.span fun c => c != '?' && c != '#'

/-- Complete a URL by the text behind its authority. -/
def withPath (u : Url) (special : Bool) (text : List Char) : Url :=
  let (pathText, rest) := splitPath text
  let (query, fragment) := tail special rest
  let path := match pathText with
    | [] => if special then [[]] else []
    | c :: more =>
      if isSlash special c then segmentsOf special more else segmentsOf special (c :: more)
  { u with path := .segments path, query, fragment }

/-! ### Kinds of URLs -/

/-- A URL with an authority, behind its slashes. -/
def withAuthority (scheme text : List Char) : Except ReadError Url := do
  let special := isSpecial scheme
  let (authority, rest) := text.span (!endsAuthority special ·)
  let (userinfo, hostport, marked) := match splitLast '@' authority with
    | some (userinfo, hostport) => (userinfo, hostport, true)
    | none => ([], authority, false)
  let (host, port) := hostport.splitAt (hostLength false hostport)
  -- the sign of a user in front of a path asks for a host
  if marked && userinfo.isEmpty && hostport.isEmpty && !rest.isEmpty then throw .emptyHost
  if host.isEmpty && (special || !port.isEmpty) then throw .emptyHost
  let host ← if special then Host.ofWeb host else Host.ofOther host
  -- a port ends at a backslash, whatever the scheme
  let (digits, behind) := port.span (· != '\\')
  let port ← port? (digits.drop 1)
  let port := if port = usualPorts.lookup scheme then none else port
  let (username, password) := splitFirst ':' userinfo
  let username := Percent.encode inUserinfo username
  let password := Percent.encode inUserinfo password
  if host.isEmpty && !(username.isEmpty && password.isEmpty) then throw .emptyHost
  let start : Url := { scheme, username, password, host := some host, port, path := .plain [] }
  return withPath start special (behind ++ rest)

/-- Take empty segments away from the front of a path, up to the last one. -/
def dropEmptySegments : List (List Char) → List (List Char)
  | [] :: s :: rest => dropEmptySegments (s :: rest)
  | list => list

/-- The host of a file URL and the text of its path, behind the colon.  The name of a drive is no
host, and neither is that of the computer itself; where no host is named behind two slashes, the
path has one more slash in front. -/
def fileParts (text : List Char) : Except ReadError (List Char × List Char) :=
  match text with
  | a :: b :: rest =>
    if isSlash true a && isSlash true b then
      let (host, path) := rest.span (!endsAuthority true ·)
      if isDrive host then .ok ([], '/' :: rest)
      else if host.isEmpty then .ok ([], '/' :: path)
      else do
        let host ← Host.ofWeb host
        return if host == "localhost".toList then ([], '/' :: path) else (host, path)
    else .ok ([], text)
  | _ => .ok ([], text)

/-- A file URL, behind its colon.  A drive at the front of its path has a colon and leaves no
host. -/
def ofFile (scheme text : List Char) : Except ReadError Url := do
  let (host, rest) ← fileParts text
  let u := withPath { scheme, host := some host, path := .plain [] } true rest
  match u.path with
  | .segments (first :: more) =>
    if isDrive first then
      return { u with host := some [], path := .segments ((first.take 1 ++ [':']) :: more) }
    else return { u with path := .segments (dropEmptySegments (first :: more)) }
  | _ => return u

/-- Any other URL, behind its colon. -/
def ofOther (scheme text : List Char) : Except ReadError Url :=
  match text with
  | '/' :: '/' :: rest => withAuthority scheme rest
  | '/' :: _ => .ok (withPath { scheme, path := .plain [] } false text)
  | _ =>
    let (plain, rest) := splitPath text
    let (query, fragment) := tail false rest
    .ok { scheme, path := .plain (Percent.encode inAnyPart plain), query, fragment }

/-- **The URL of a text.** -/
def ofText (s : String) : Except ReadError Url :=
  match scheme? (cleaned s.toList) with
  | none => .error .relativeWithoutBase
  | some (scheme, rest) =>
    if isFile scheme then ofFile scheme rest
    else if isSpecial scheme then withAuthority scheme (rest.dropWhile (isSlash true))
    else ofOther scheme rest

end Provisioning.Url
