/-
**Directives of a filter.**

A directive says up to which severity notices are shown: all notices, those of the parts of the
program whose path begins in a certain way, those that name something apart, or those of a stretch
of work, which has a name and may have to name something apart that fits a pattern.  It is written
as a path, then the stretch in square brackets with what it names in braces, and then a severity
behind an equals sign; each of the three may be missing.  A severity may also stand alone.

White space around a directive is not looked at when it is divided into its parts; but the parts are
then taken at the same places of the text with that white space.

Main definitions:

* `Notice.FieldTest`, `Notice.Directive` — a directive, and what it asks of what is named apart;
* `Notice.levelOf?` — the severity of a word;
* `Notice.Directive.ofText?` — **the directive** of a text.
-/

import Provisioning.Notice
import Provisioning.Notice.Pattern
import Provisioning.Text.Alphanumeric
import Provisioning.Text.Blank

set_option autoImplicit false
set_option relaxedAutoImplicit false

namespace Provisioning.Notice

/-- What a directive asks for: that something of a name is named apart, and perhaps that its value
fits a pattern. -/
structure FieldTest where
  name : List Char
  pattern : Option (List Char)
  deriving DecidableEq, Repr

/-- A directive; nothing is shown by it if it has no severity. -/
structure Directive where
  /-- How the path of a part of the program begins. -/
  target : Option (List Char) := none
  /-- The name of a stretch of work. -/
  scope : Option (List Char) := none
  field : Option FieldTest := none
  level : Option Severity := some .trace
  deriving DecidableEq, Repr

/-! ### Severities -/

/-- The severity with a rank; zero is the rank of none. -/
def levelOfRank? (rank : Nat) : Option (Option Severity) :=
  if rank = 0 then some none else (Severity.all.find? (·.rank = rank)).map some

/-- The severity that a word stands for: its name in letters of either case, or its rank. -/
def levelOf? (word : List Char) : Option (Option Severity) :=
  let digits := match word with
    | '+' :: rest => rest
    | _ => word
  match (Digits.some? 10 digits).bind levelOfRank? with
  | some level => some level
  | none =>
    let upper := word.map Char.toUpper
    if upper = "OFF".toList then some none
    else (Severity.all.find? fun s => s.name.toList = upper).map some

/-! ### Values -/

/-- Whether a text is a decimal number without its sign. -/
def isMagnitude (text : List Char) : Bool :=
  let whole := text.takeWhile Char.isDigit
  let behind := text.drop whole.length
  let (fraction, behind) := match behind with
    | '.' :: rest => (rest.takeWhile Char.isDigit, rest.dropWhile Char.isDigit)
    | _ => ([], behind)
  !(whole ++ fraction).isEmpty &&
    match behind with
    | [] => true
    | e :: exponent =>
      let digits := match exponent with
        | '+' :: rest | '-' :: rest => rest
        | _ => exponent
      (e == 'e' || e == 'E') && !digits.isEmpty && digits.all Char.isDigit

/-- Whether a text is a number. -/
def isNumber (text : List Char) : Bool :=
  let magnitude := match text with
    | '+' :: rest | '-' :: rest => rest
    | _ => text
  ["inf", "infinity", "nan"].contains (String.ofList (magnitude.map Char.toLower)) ||
    isMagnitude magnitude

/-- Whether a value is no pattern but a truth value or a number, which no text is. -/
def isPlainValue (value : List Char) : Bool :=
  value = "true".toList || value = "false".toList || isNumber value

/-- What is asked for between braces: a name, and behind an equals sign a pattern, up to another
one. -/
def FieldTest.ofText? (text : List Char) : Option FieldTest :=
  match text.splitOn '=' with
  | [] => none
  | [name] => if name.isEmpty then none else some ⟨name, none⟩
  | name :: value :: _ =>
    if isPlainValue value || (Pattern.ofText? value).isSome then some ⟨name, some value⟩ else none

/-- Whether a value is as it is asked for. -/
def FieldTest.admits (f : FieldTest) (value : String) : Bool :=
  f.pattern.all fun pattern =>
    !isPlainValue pattern && (Pattern.ofText? pattern).any (·.fits value.toList)

/-! ### Directives -/

/-- A character that a directive is divided by, and the one that is taken in its place. -/
abbrev Place := Char × Char

/-- The characters that are taken at some places. -/
def taken (places : List Place) : List Char := places.map (·.2)

/-- A directive that is completed by what is behind its stretch of work: nothing, or a severity
behind an equals sign; `after` is what is taken behind all places.  Without a severity everything is
shown. -/
def Directive.withLevel? (d : Directive) (after : List Char) : List Place → Option Directive
  | [] => some d
  | (c, _) :: rest =>
    if c = '=' then
      let word := taken rest ++ after
      if word.isEmpty then some d else (levelOf? word).map fun level => { d with level }
    else none

/-- A directive that is completed by what is behind an opening bracket. -/
def Directive.withScope? (d : Directive) (after : List Char) (places : List Place) :
    Option Directive :=
  let (name, rest) := places.span fun (c, _) => c ≠ ']' && c ≠ '\x7b'
  match rest with
  | [] => none
  | (c, _) :: rest =>
    if c = ']' then { d with scope := some (taken name) }.withLevel? after rest
    else
      let (field, rest) := rest.span fun (c, _) => c ≠ '\x7d'
      match rest with
      | (_, _) :: (']', _) :: rest => do
        let field ← FieldTest.ofText? (taken field)
        let scope := if name.isEmpty then none else some (taken name)
        { d with scope, field := some field }.withLevel? after rest
      | _ => none

/-- Whether a directive may begin with a character, if not with a bracket. -/
def beginsDirective (c : Char) : Bool := Text.isAlphanumeric c || c = '_' || c = ':' || c = '-'

/-- **The directive** of a text. -/
def Directive.ofText? (text : List Char) : Option Directive :=
  let trimmed := Text.dropFinalSpace (text.dropWhile Text.isSpace)
  let places : List Place := trimmed.zip text
  let after := text.drop trimmed.length
  match places with
  | [] => none
  | (c, _) :: rest =>
    if c = '[' then ({} : Directive).withScope? after rest
    else if !beginsDirective c then none
    else
      let (name, rest) := places.span fun (c, _) => c ≠ '=' && c ≠ '['
      match rest with
      | [] =>
        let word := taken name ++ after
        match levelOf? word with
        | some level => some { level }
        | none => some { target := some word }
      | ('[', _) :: rest => { target := some (taken name) : Directive }.withScope? after rest
      | rest => { target := some (taken name) : Directive }.withLevel? after rest

end Provisioning.Notice
