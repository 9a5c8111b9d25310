/-
**Instants of time.**

An instant is a count of seconds since the beginning of 1970 in universal time, with nanoseconds.
Its written form is the date and the time of day in universal time with as many decimal places of a
second as are needed, in groups of three.  Read are dates and times with any offset from universal
time.

Main definitions:

* `Instant` — an instant;
* `Calendar.dayNumber`, `Calendar.dateOfDay` — days as numbers and as dates;
* `Instant.text`, `Instant.ofText?` — **the written form**, and reading.
-/

import Provisioning.Decimal.Shortest
import Provisioning.Text.Digits

set_option autoImplicit false
set_option relaxedAutoImplicit false

namespace Provisioning

namespace Calendar

/-- A date: year, month and day of the month, both from one. -/
structure Date where
  year : Int
  month : Nat
  day : Nat
  deriving DecidableEq, Repr

/-- The number of days from the first of March of year zero of its 400-year era, for a year that
begins in March. -/
def dayOfEra (yearOfEra monthFromMarch day : Nat) : Nat :=
  yearOfEra * 365 + yearOfEra / 4 - yearOfEra / 100 + (153 * monthFromMarch + 2) / 5 + day - 1

/-- The number of a day, zero for the first of January 1970. -/
def dayNumber (d : Date) : Int :=
  let year := if d.month ≤ 2 then d.year - 1 else d.year
  let era := year.fdiv 400
  era * 146097 + dayOfEra (year.fmod 400).toNat ((d.month + 9) % 12) d.day - 719468

/-- The date of a day. -/
def dateOfDay (n : Int) : Date :=
  let shifted := n + 719468
  let day := (shifted.fmod 146097).toNat
  let yearOfEra := (day - day / 1460 + day / 36524 - day / 146096) / 365
  let dayOfYear := day - (365 * yearOfEra + yearOfEra / 4 - yearOfEra / 100)
  let monthFromMarch := (5 * dayOfYear + 2) / 153
  let month := if monthFromMarch < 10 then monthFromMarch + 3 else monthFromMarch - 9
  let year := shifted.fdiv 146097 * 400 + yearOfEra
  ⟨if month ≤ 2 then year + 1 else year, month,
    dayOfYear - (153 * monthFromMarch + 2) / 5 + 1⟩

/-- Whether a year has a 29th of February. -/
def isLeapYear (year : Int) : Bool :=
  year.fmod 4 == 0 && (year.fmod 100 != 0 || year.fmod 400 == 0)

/-- The days of a month. -/
def monthLength (year : Int) (month : Nat) : Nat :=
  if month = 2 then (if isLeapYear year then 29 else 28)
  else if month ∈ [4, 6, 9, 11] then 30
  else 31

end Calendar

/-- An instant.  The nanoseconds of a leap second go on counting beyond a full second. -/
structure Instant where
  seconds : Int
  nanoseconds : Nat := 0
  deriving DecidableEq, Repr, Inhabited

namespace Instant

/-! ### Writing -/

/-- A number with zeros in front of it up to `width` digits. -/
def padded (width n : Nat) : List Char :=
  let digits := Shortest.digitsOf n
  List.replicate (width - digits.length) '0' ++ digits

/-- A year: four digits, and a sign where these do not suffice. -/
def yearText (year : Int) : List Char :=
  if year < 0 then '-' :: padded 4 (-year).toNat
  else if 9999 < year then '+' :: padded 4 year.toNat
  else padded 4 year.toNat

/-- The decimal places of a second: none, three, six or nine. -/
def fractionText (nanoseconds : Nat) : List Char :=
  if nanoseconds = 0 then []
  else if nanoseconds % 1000000 = 0 then '.' :: padded 3 (nanoseconds / 1000000)
  else if nanoseconds % 1000 = 0 then '.' :: padded 6 (nanoseconds / 1000)
  else '.' :: padded 9 nanoseconds

/-- **The written form** of an instant. -/
def text (t : Instant) : String :=
  let date := Calendar.dateOfDay (t.seconds.fdiv 86400)
  let clock := (t.seconds.fmod 86400).toNat
  let second := clock % 60 + t.nanoseconds / 1000000000
  String.ofList
    (yearText date.year ++ '-' :: padded 2 date.month ++ '-' :: padded 2 date.day
      ++ 'T' :: padded 2 (clock / 3600) ++ ':' :: padded 2 (clock / 60 % 60)
      ++ ':' :: padded 2 second ++ fractionText (t.nanoseconds % 1000000000) ++ ['Z'])

/-! ### Reading -/

/-- A number of exactly `count` digits at the front of a text. -/
def number? (count : Nat) (text : List Char) : Option (Nat × List Char) :=
  let digits := text.take count
  if digits.length = count && digits.all Char.isDigit then
    some (Digits.decimal digits, text.drop count)
  else none

/-- A character at the front of a text. -/
def expect? (allowed : List Char) : List Char → Option (List Char)
  | c :: rest => if allowed.contains c then some rest else none
  | [] => none

/-- A year of four digits, or of more behind a sign. -/
def year? : List Char → Option (Int × List Char)
  | '+' :: text => do
    let (digits, rest) := text.span Char.isDigit
    if digits.isEmpty then none else some ((Digits.decimal digits : Int), rest)
  | '-' :: text => do
    let (digits, rest) := text.span Char.isDigit
    if digits.isEmpty then none else some (-(Digits.decimal digits : Int), rest)
  | text => (number? 4 text).map fun (n, rest) => ((n : Int), rest)

/-- The nanoseconds of the decimal places at the front of a text; places beyond the ninth are left
out. -/
def fraction? : List Char → Option (Nat × List Char)
  | '.' :: text =>
    let (digits, rest) := text.span Char.isDigit
    if digits.isEmpty then none
    else
      let nine := digits.take 9
      some (Digits.decimal (nine ++ List.replicate (9 - nine.length) '0'), rest)
  | text => some (0, text)

/-- The seconds of an offset from universal time. -/
def offset? : List Char → Option Int
  | ['Z'] | ['z'] => some 0
  | sign :: text => do
    let (hours, text) ← number? 2 text
    let (minutes, text) ← number? 2 (match text with
      | ':' :: rest => rest
      | _ => text)
    if !text.isEmpty || 23 < hours || 59 < minutes then none
    let seconds : Int := (hours * 60 + minutes) * 60
    if sign = '+' then some seconds else if sign = '-' then some (-seconds) else none
  | [] => none

/-- The instant of a date and time with an offset. -/
def ofText? (s : String) : Option Instant := do
  let (year, text) ← year? s.toList
  let (month, text) ← number? 2 (← expect? ['-'] text)
  let (day, text) ← number? 2 (← expect? ['-'] text)
  let (hour, text) ← number? 2 (← expect? ['T', 't', ' '] text)
  let (minute, text) ← number? 2 (← expect? [':'] text)
  let (second, text) ← number? 2 (← expect? [':'] text)
  let (nanoseconds, text) ← fraction? text
  let offset ← offset? text
  if month = 0 || 12 < month || day = 0 || Calendar.monthLength year month < day then none
  if 23 < hour || 59 < minute || 60 < second then none
  let (second, nanoseconds) :=
    if second = 60 then (59, nanoseconds + 1000000000) else (second, nanoseconds)
  let days := Calendar.dayNumber ⟨year, month, day⟩
  some ⟨days * 86400 + ((hour * 60 + minute) * 60 + second : Nat) - offset, nanoseconds⟩

end Instant

end Provisioning
