/-
**URLs.**

A URL in its parts.  Each part is kept in its written form, percent-encoded where it has to be, so
writing a URL only puts the parts together.  The path of a web URL is a list of segments, none of
which is a dot segment; a URL without an authority may have any text in place of a path, and then
has no segments.

Main definitions:

* `Url` — a URL;
* `Url.text` — **the written form**;
* `Url.resolve` — a path from its segments, dot segments taken away;
* `Url.push?` — a URL with one more segment.
-/

import Provisioning.Url.Percent

set_option autoImplicit false
set_option relaxedAutoImplicit false

namespace Provisioning

namespace Url

/-- What follows the authority of a URL. -/
inductive Path where
  /-- Segments, each with a slash in front. -/
  | segments (list : List (List Char))
  /-- Any text. -/
  | plain (text : List Char)
  deriving DecidableEq, Repr

end Url

/-- A URL in its parts. -/
structure Url where
  scheme : List Char
  username : List Char := []
  password : List Char := []
  /-- The host; it may be empty, and there may be no authority at all. -/
  host : Option (List Char) := none
  port : Option Nat := none
  path : Url.Path
  query : Option (List Char) := none
  fragment : Option (List Char) := none
  deriving DecidableEq, Repr

namespace Url

/-! ### Schemes -/

/-- The schemes of web-like URLs, which always have a host, and their usual ports. -/
def usualPorts : List (List Char × Nat) :=
  [("http".toList, 80), ("https".toList, 443), ("ws".toList, 80), ("wss".toList, 443),
    ("ftp".toList, 21)]

/-- Whether the scheme is that of files. -/
def isFile (scheme : List Char) : Bool := scheme == "file".toList

/-- Whether the scheme has a backslash for a slash. -/
def isSpecial (scheme : List Char) : Bool := (usualPorts.lookup scheme).isSome || isFile scheme

/-- Whether the URL is one of the web. -/
def isWeb (u : Url) : Bool := u.scheme == "http".toList || u.scheme == "https".toList

/-- Whether the URL has a host. -/
def hasHost (u : Url) : Bool :=
  match u.host with
  | none | some [] => false
  | some _ => true

/-! ### Writing -/

/-- The user name and password, with the sign behind them. -/
def userinfo (u : Url) : List Char :=
  let password := if u.password.isEmpty then [] else ':' :: u.password
  if u.username.isEmpty && u.password.isEmpty then [] else u.username ++ password ++ ['@']

/-- The authority with its slashes. -/
def authority (u : Url) : List Char :=
  match u.host with
  | none => []
  | some host =>
    let port := match u.port with
      | none => []
      | some n => ':' :: Nat.toDigits 10 n
    '/' :: '/' :: u.userinfo ++ host ++ port

/-- The written form of segments. -/
def segmentsText (list : List (List Char)) : List Char := list.flatMap ('/' :: ·)

/-- The path. -/
def pathText (u : Url) : List Char :=
  match u.path with
  | .segments list => segmentsText list
  | .plain text => text

/-- The mark that keeps a path from being read as an authority. -/
def pathGuard (u : Url) : List Char :=
  match u.host, u.path with
  | none, .segments ([] :: _ :: _) => ['/', '.']
  | _, _ => []

/-- A part with a mark in front, if there is one. -/
def marked (mark : Char) : Option (List Char) → List Char
  | none => []
  | some part => mark :: part

/-- The characters of the written form. -/
def chars (u : Url) : List Char :=
  u.scheme ++ ':' :: u.authority ++ u.pathGuard ++ u.pathText ++ marked '?' u.query
    ++ marked '#' u.fragment

/-- **The written form** of a URL. -/
def text (u : Url) : String := String.ofList u.chars

/-- The path as a text. -/
def pathString (u : Url) : String := String.ofList u.pathText

/-- The URL without user name and password. -/
def anonymous (u : Url) : Url := { u with username := [], password := [] }

/-! ### Paths -/

/-- A segment that stands for its own level. -/
def isSingleDot (segment : List Char) : Bool :=
  segment == ['.'] || segment.map Char.toLower == "%2e".toList

/-- A segment that stands for the level above. -/
def isDoubleDot (segment : List Char) : Bool :=
  [".."  , "%2e.", ".%2e", "%2e%2e"].any fun form => segment.map Char.toLower == form.toList

/-- A segment that names a drive, by a letter and one of two signs. -/
def isDrive : List Char → Bool
  | [letter, sign] => letter.isAlpha && (sign == ':' || sign == '|')
  | _ => false

/-- Segments without the last one, unless it names a drive. -/
def shortened (before : List (List Char)) : List (List Char) :=
  if before.getLast?.any isDrive then before else before.dropLast

/-- A path from its segments, behind those in `before`: a single dot stands for nothing, a double
one takes away the segment in front of it, and either leaves an empty segment at the end.  The name
of a drive is never taken away. -/
def resolve : List (List Char) → (before : List (List Char)) → List (List Char)
  | [], before => before
  | [segment], before =>
    if isDoubleDot segment then shortened before ++ [[]]
    else if isSingleDot segment then before ++ [[]]
    else before ++ [segment]
  | segment :: rest, before =>
    if isDoubleDot segment then resolve rest (shortened before)
    else if isSingleDot segment then resolve rest before
    else resolve rest (before ++ [segment])

/-- The blanks that no URL holds. -/
def isDropped (c : Char) : Bool := c == '\t' || c == '\n' || c == '\r'

/-- The written form of a name as a single segment. -/
def segmentOf (special : Bool) (name : List Char) : List Char :=
  Percent.encode (if special then inSpecialSegment else inSegment) (name.filter (!isDropped ·))

/-- A URL with `name` as one more segment, unless it has no segments.  A dot segment adds nothing,
and the root path is replaced. -/
def push? (u : Url) (name : List Char) : Option Url :=
  match u.path with
  | .plain _ => none
  | .segments list =>
    if name == ['.'] || name == ['.', '.'] then some u
    else
      let before := if list == [[]] then [] else list
      some { u with path := .segments (resolve [segmentOf (isSpecial u.scheme) name] before) }

/-- A name that is no dot segment once its blanks are dropped is added as it is. -/
theorem resolve_singleton {segment : List Char} (hsingle : isSingleDot segment = false)
    (hdouble : isDoubleDot segment = false) (before : List (List Char)) :
    resolve [segment] before = before ++ [segment] := by
  simp [resolve, hsingle, hdouble]

end Url

end Provisioning
