/-
**What a scalar means.**

A plain scalar can be nothing, a truth value, a number or a text.  Integers are decimal without
leading zeros, or hexadecimal, octal or binary behind their mark; numbers with a point or an
exponent are rounded to the binary64 format, and so are integers of more than 128 bits.  A tag can
ask for one of these kinds; the scalar is faulty then unless it has that kind.

Main definitions:

* `Yaml.unsigned?`, `Yaml.negative?`, `Yaml.Real.ofText?` — numbers;
* `Yaml.Found` — what is found at a node, with the words for it;
* `Yaml.meaning` — **the meaning** of a plain scalar.
-/

import Provisioning.Decimal.Shortest
import Provisioning.Text.Digits
import Provisioning.Text.Quoted
import Provisioning.Yaml.Token.Quoted

set_option autoImplicit false
set_option relaxedAutoImplicit false

namespace Provisioning.Yaml

/-! ### Integers -/

/-- The number of an integer without its sign. -/
def magnitude? : List Char → Option Nat
  | '0' :: 'x' :: rest => Digits.some? 16 rest
  | '0' :: 'o' :: rest => Digits.some? 8 rest
  | '0' :: 'b' :: rest => Digits.some? 2 rest
  | '0' :: _ :: _ => none
  | text => Digits.some? 10 text

/-- A text without the plus sign in front of it. -/
def withoutPlus : List Char → List Char
  | '+' :: rest => rest
  | text => text

/-- The number of an integer without a minus sign. -/
def unsigned? (text : List Char) : Option Nat := magnitude? (withoutPlus text)

/-- The number behind the minus sign of an integer. -/
def negative? : List Char → Option Nat
  | '-' :: rest => magnitude? rest
  | _ => none

/-- The integer of a text, if it has at most 128 bits. -/
def integer? (text : List Char) : Option Int :=
  match unsigned? text with
  | some n => if n < Nat.pow 2 128 then some n else none
  | none =>
    match negative? text with
    | some n => if n ≤ Nat.pow 2 127 then some (-n) else none
    | none => none

/-! ### Numbers with a point -/

/-- A binary64 number of any kind. -/
inductive Real where
  | finite (x : Binary64)
  | infinite (negative : Bool)
  | notANumber
  deriving DecidableEq, Repr

/-- The text of a number. -/
def Real.text : Real → String
  | .finite x => x.positionalText
  | .infinite false => "inf"
  | .infinite true => "-inf"
  | .notANumber => "NaN"

/-- The exponent at the end of a number. -/
def exponent? : List Char → Option Int
  | [] => some 0
  | e :: rest =>
    if e = 'e' || e = 'E' then
      match rest with
      | '-' :: rest => (Digits.some? 10 rest).map fun n => -(n : Int)
      | _ => (Digits.some? 10 (withoutPlus rest)).map fun n => (n : Int)
    else none

/-- The number of decimal digits with perhaps a point and an exponent, if it is finite. -/
def decimal? (negative : Bool) (text : List Char) : Option Binary64 := do
  let whole := text.takeWhile Char.isDigit
  let behind := text.drop whole.length
  let fraction := if behind.head? = some '.' then behind.tail.takeWhile Char.isDigit else []
  let behind := if behind.head? = some '.' then behind.tail.drop fraction.length else behind
  let n ← Digits.some? 10 (whole ++ fraction)
  let exponent ← exponent? behind
  Binary64.ofDecimal? negative n (exponent - fraction.length)

/-- The number of a text. -/
def Real.ofText? (text : List Char) : Option Real :=
  let magnitude := withoutPlus text
  let digits := match text with
    | '-' :: rest => rest
    | _ => magnitude
  if [".inf", ".Inf", ".INF"].contains (String.ofList magnitude) then some (.infinite false)
  else if ["-.inf", "-.Inf", "-.INF"].contains (String.ofList text) then some (.infinite true)
  else if [".nan", ".NaN", ".NAN"].contains (String.ofList text) then some .notANumber
  else (decimal? (text.head? = some '-') digits).map .finite

/-! ### Meanings -/

/-- Whether a text is a word for nothing. -/
def isNull (text : List Char) : Bool := ["null", "Null", "NULL", "~"].contains (String.ofList text)

/-- The truth value of a text. -/
def boolean? (text : List Char) : Option Bool :=
  if ["true", "True", "TRUE"].contains (String.ofList text) then some true
  else if ["false", "False", "FALSE"].contains (String.ofList text) then some false
  else none

/-- What is found at a node. -/
inductive Found where
  | null
  | boolean (b : Bool)
  | integer (n : Int)
  | real (x : Real)
  | string (s : String)
  | sequence
  | map
  deriving DecidableEq, Repr

/-- The words for what is found; an integer of more than 64 bits names its width. -/
def Found.text : Found → String
  | .null => "unit value"
  | .boolean b => s!"boolean \x60{b}\x60"
  | .integer n =>
    let width :=
      if UInt64.size ≤ n then " as u128" else if n < Int64.minValue.toInt then " as i128" else ""
    s!"integer \x60{n}\x60{width}"
  | .real x => s!"floating point \x60{x.text}\x60"
  | .string s => s!"string {Text.quote s}"
  | .sequence => "sequence"
  | .map => "map"

/-- Whether a text is digits with a zero in front of them, perhaps with a sign. -/
def isPadded (text : List Char) : Bool :=
  let digits := match text with
    | '-' :: rest => rest
    | _ => withoutPlus text
  1 < digits.length && digits.head? = some '0' && digits.all Char.isDigit

/-- **The meaning** of a plain scalar.  Digits with a zero in front of them are no number. -/
def meaning (text : List Char) : Found :=
  if text.isEmpty || isNull text then .null
  else
    match boolean? text with
    | some b => .boolean b
    | none =>
      match integer? text with
      | some n => .integer n
      | none =>
        match if isPadded text then none else Real.ofText? text with
        | some x => .real x
        | none => .string (String.ofList text)

end Provisioning.Yaml
