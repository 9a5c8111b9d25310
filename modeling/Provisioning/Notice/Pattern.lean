/-
**Patterns of texts.**

A pattern is written with the usual signs: a dot for any character, sets in square brackets, groups
in round ones, a bar between alternatives, and a star, a plus or a question mark behind what may be
repeated or missing.  Its alternatives are tried in the order in which they are written, all at the
same time; once one of them has matched, those behind it are given up, even if the text goes on.  A
pattern fits a text when one that is left has matched at its end.

Main definitions:

* `Notice.CharacterSet`, `Notice.Pattern` — sets of characters, and patterns;
* `Notice.Pattern.fits` — **whether a pattern fits a text**;
* `Notice.Pattern.ofText?` — the pattern of a text.
-/

import Provisioning.Text.Digits

set_option autoImplicit false
set_option relaxedAutoImplicit false

namespace Provisioning.Notice

/-! ### Sets of characters -/

/-- A range of characters, or everything outside some ranges. -/
structure CharacterClass where
  ranges : List (Char × Char)
  negated : Bool := false
  deriving DecidableEq, Repr

/-- The characters of some classes, or all others. -/
structure CharacterSet where
  classes : List CharacterClass
  negated : Bool := false
  deriving DecidableEq, Repr

/-- Whether a character is in a class. -/
def CharacterClass.contains (k : CharacterClass) (c : Char) : Bool :=
  k.ranges.any (fun (first, last) => first ≤ c && c ≤ last) != k.negated

/-- Whether a character is in a set. -/
def CharacterSet.contains (s : CharacterSet) (c : Char) : Bool :=
  s.classes.any (·.contains c) != s.negated

/-- The set of one character. -/
def CharacterSet.one (c : Char) : CharacterSet := ⟨[⟨[(c, c)], false⟩], false⟩

/-- The characters that a dot stands for: all but the end of a line. -/
def CharacterSet.any : CharacterSet := ⟨[⟨[('\n', '\n')], false⟩], true⟩

/-! ### Patterns -/

/-- A pattern. -/
inductive Pattern where
  | empty
  | one (s : CharacterSet)
  | sequence (a b : Pattern)
  | choice (a b : Pattern)
  /-- Any number of repetitions; an eager one is repeated as often as possible. -/
  | many (eager : Bool) (a : Pattern)
  /-- The beginning of the text. -/
  | beginning
  /-- The end of the text. -/
  | ending
  deriving DecidableEq, Repr

namespace Pattern

/-- What a pattern can do at a place: take a character of a set and go on with a pattern, or, if
this is nothing, be matched. -/
abbrev Move := Option (CharacterSet × Pattern)

/-- One pattern behind another. -/
def followedBy (a b : Pattern) : Pattern := if a = .empty then b else .sequence a b

/-- The moves of a pattern in the order in which they are tried. -/
def moves (atBeginning atEnd : Bool) : Pattern → List Move
  | .empty => [none]
  | .one s => [some (s, .empty)]
  | .sequence a b =>
    (moves atBeginning atEnd a).flatMap fun
      | none => moves atBeginning atEnd b
      | some (s, rest) => [some (s, rest.followedBy b)]
  | .choice a b => moves atBeginning atEnd a ++ moves atBeginning atEnd b
  | .many eager a =>
    let again := (moves atBeginning atEnd a).filterMap fun move =>
      move.map fun (s, rest) => some (s, rest.followedBy (.many eager a))
    if eager then again ++ [none] else none :: again
  | .beginning => if atBeginning then [none] else []
  | .ending => if atEnd then [none] else []

/-- Whether one of some patterns, which are tried in order, fits a text. -/
def anyFits (atBeginning : Bool) (tried : List Pattern) : List Char → Bool
  | [] => tried.any fun p => (p.moves atBeginning true).contains none
  | c :: rest =>
    let unmatched := (tried.flatMap (·.moves atBeginning false)).takeWhile (·.isSome)
    let next := unmatched.filterMap fun move =>
      move.bind fun (s, behind) => if s.contains c then some behind else none
    anyFits false next.eraseDups rest

/-- **Whether a pattern fits a text.** -/
def fits (p : Pattern) (text : List Char) : Bool := anyFits true [p] text

/-- Where no pattern is left, none fits. -/
theorem anyFits_nil (atBeginning : Bool) (text : List Char) :
    anyFits atBeginning [] text = false := by
  induction text generalizing atBeginning with
  | nil => rfl
  | cons c rest ih => exact ih false

/-- The empty pattern fits the empty text alone. -/
theorem fits_empty_iff (text : List Char) : fits .empty text = true ↔ text = [] := by
  cases text with
  | nil => simp [fits, anyFits, moves]
  | cons c rest => simp [fits, anyFits, moves, anyFits_nil]

/-! ### Reading -/

/-- The digits. -/
def digitRanges : List (Char × Char) := [('0', '9')]

/-- The letters, the digits and the underscore. -/
def wordRanges : List (Char × Char) := [('0', '9'), ('A', 'Z'), ('_', '_'), ('a', 'z')]

/-- The white space. -/
def spaceRanges : List (Char × Char) := [('\t', '\r'), (' ', ' ')]

/-- The class that a letter behind a backslash stands for. -/
def escapedClass? (c : Char) : Option CharacterClass :=
  match c with
  | 'd' => some ⟨digitRanges, false⟩
  | 'D' => some ⟨digitRanges, true⟩
  | 'w' => some ⟨wordRanges, false⟩
  | 'W' => some ⟨wordRanges, true⟩
  | 's' => some ⟨spaceRanges, false⟩
  | 'S' => some ⟨spaceRanges, true⟩
  | _ => none

/-- The class of a name that stands between colons in a set. -/
def namedClass? (name : String) : Option (List (Char × Char)) :=
  match name with
  | "alnum" => some [('0', '9'), ('A', 'Z'), ('a', 'z')]
  | "alpha" => some [('A', 'Z'), ('a', 'z')]
  | "ascii" => some [('\x00', '\x7f')]
  | "blank" => some [('\t', '\t'), (' ', ' ')]
  | "cntrl" => some [('\x00', '\x1f'), ('\x7f', '\x7f')]
  | "digit" => some digitRanges
  | "graph" => some [('!', '~')]
  | "lower" => some [('a', 'z')]
  | "print" => some [(' ', '~')]
  | "punct" => some [('!', '/'), (':', '@'), ('[', '\x60'), ('\x7b', '~')]
  | "space" => some spaceRanges
  | "upper" => some [('A', 'Z')]
  | "word" => some wordRanges
  | "xdigit" => some [('0', '9'), ('A', 'F'), ('a', 'f')]
  | _ => none

/-- The character of a number in hexadecimal digits, of which there are `count`, and what follows
them. -/
def numbered? (count : Nat) (text : List Char) : Option (Char × List Char) := do
  let digits := text.take count
  guard (digits.length = count)
  let n ← Digits.number? 16 digits
  guard n.isValidChar
  return (Char.ofNat n, text.drop count)

/-- The character of an escape behind its backslash, and what follows the escape. -/
def escapedCharacter? : List Char → Option (Char × List Char)
  | [] => none
  | c :: rest =>
    match c with
    | 'a' => some ('\x07', rest)
    | 'f' => some ('\x0c', rest)
    | 't' => some ('\t', rest)
    | 'n' => some ('\n', rest)
    | 'r' => some ('\r', rest)
    | 'v' => some ('\x0b', rest)
    | 'x' => numbered? 2 rest
    | 'u' => numbered? 4 rest
    | 'U' => numbered? 8 rest
    | _ => if c.isAlphanum || c = '<' || c = '>' || 127 < c.toNat then none else some (c, rest)

/-- The first item of a set and what follows it: a class, or a character that may begin a range. -/
def item? (text : List Char) : Option ((CharacterClass ⊕ Char) × List Char) :=
  match text with
  | '\\' :: c :: rest =>
    match escapedClass? c with
    | some k => some (.inl k, rest)
    | none => (escapedCharacter? (c :: rest)).map fun (c, rest) => (.inr c, rest)
  | '[' :: ':' :: rest =>
    let (negated, rest) := match rest with
      | '^' :: rest => (true, rest)
      | _ => (false, rest)
    let name := rest.takeWhile (· ≠ ':')
    match rest.drop name.length, namedClass? (String.ofList name) with
    | ':' :: ']' :: rest, some ranges => some (.inl ⟨ranges, negated⟩, rest)
    | _, _ => none
  | '[' :: _ => none
  | c :: rest => some (.inr c, rest)
  | [] => none

/-- The classes of a set up to its closing bracket, and what follows that.  A closing bracket in the
first place is one of the characters.  `fuel` bounds the number of items. -/
def classes? : (fuel : Nat) → (first : Bool) → List Char →
    Option (List CharacterClass × List Char)
  | 0, _, _ => none
  | fuel + 1, first, text =>
    match text with
    | ']' :: rest =>
      if first then
        (classes? fuel false rest).map fun (ks, rest) => (⟨[(']', ']')], false⟩ :: ks, rest)
      else some ([], rest)
    | _ => do
      let (item, rest) ← item? text
      match item, rest with
      | .inl k, rest =>
        let (ks, rest) ← classes? fuel false rest
        return (k :: ks, rest)
      | .inr c, '-' :: d :: behind =>
        if d = ']' then
          let (ks, rest) ← classes? fuel false rest
          return (⟨[(c, c)], false⟩ :: ks, rest)
        else
          let (last, rest) ← item? (d :: behind)
          match last with
          | .inl _ => none
          | .inr last =>
            guard (c ≤ last)
            let (ks, rest) ← classes? fuel false rest
            return (⟨[(c, last)], false⟩ :: ks, rest)
      | .inr c, rest =>
        let (ks, rest) ← classes? fuel false rest
        return (⟨[(c, c)], false⟩ :: ks, rest)

/-- A pattern with the signs of repetition behind it, and what follows them. -/
def repeated (a : Pattern) : List Char → Pattern × List Char
  | '*' :: '?' :: rest => repeated (.many false a) rest
  | '*' :: rest => repeated (.many true a) rest
  | '+' :: '?' :: rest => repeated (.sequence a (.many false a)) rest
  | '+' :: rest => repeated (.sequence a (.many true a)) rest
  | '?' :: '?' :: rest => repeated (.choice .empty a) rest
  | '?' :: rest => repeated (.choice a .empty) rest
  | text => (a, text)

/-- What follows the mark of a group behind its opening bracket. -/
def insideGroup? : List Char → Option (List Char)
  | '?' :: ':' :: rest => some rest
  | '?' :: rest =>
    let name := if rest.head? = some 'P' then rest.tail else rest
    match name with
    | '<' :: name =>
      let word := name.takeWhile fun c => c.isAlphanum || c = '_'
      match name.drop word.length with
      | '>' :: rest => if word.head?.any (!·.isDigit) then some rest else none
      | _ => none
    | _ => none
  | text => some text

mutual

/-- The alternatives at the front of a text, and what follows them. -/
def alternatives? : (fuel : Nat) → List Char → Option (Pattern × List Char)
  | 0, _ => none
  | fuel + 1, text => do
    let (a, rest) ← sequence? fuel text
    match rest with
    | '|' :: rest =>
      let (b, rest) ← alternatives? fuel rest
      return (.choice a b, rest)
    | _ => return (a, rest)

/-- What stands in front of the next bar or closing bracket, and what follows it. -/
def sequence? : (fuel : Nat) → List Char → Option (Pattern × List Char)
  | 0, _ => none
  | fuel + 1, text =>
    match text with
    | [] | '|' :: _ | ')' :: _ => some (.empty, text)
    | _ => do
      let (a, rest) ← atom? fuel text
      let (a, rest) := repeated a rest
      let (b, rest) ← sequence? fuel rest
      return (a.followedBy b, rest)

/-- What a sign of repetition can stand behind: a character, a set, a group or a place. -/
def atom? : (fuel : Nat) → List Char → Option (Pattern × List Char)
  | 0, _ => none
  | _ + 1, [] => none
  | fuel + 1, c :: rest =>
    match c with
    | '(' => do
      let (a, rest) ← alternatives? fuel (← insideGroup? rest)
      match rest with
      | ')' :: rest => return (a, rest)
      | _ => none
    | '[' => do
      let negated := rest.head? = some '^'
      let (ks, rest) ← classes? fuel true (if negated then rest.tail else rest)
      return (.one ⟨ks, negated⟩, rest)
    | '\\' =>
      match rest with
      | 'A' :: rest => some (.beginning, rest)
      | 'z' :: rest => some (.ending, rest)
      | d :: behind =>
        match escapedClass? d with
        | some k => some (.one ⟨[k], false⟩, behind)
        | none => (escapedCharacter? rest).map fun (c, rest) => (.one (.one c), rest)
      | [] => none
    | '.' => some (.one .any, rest)
    | '^' => some (.beginning, rest)
    | '$' => some (.ending, rest)
    | '*' | '+' | '?' | '\x7b' => none
    | c => some (.one (.one c), rest)

end

/-- The pattern of a text.  Each step of reading takes a character or goes from the alternatives to
a sequence or from there to an atom. -/
def ofText? (text : List Char) : Option Pattern :=
  match alternatives? (3 * text.length + 3) text with
  | some (p, []) => some p
  | _ => none

end Pattern

end Provisioning.Notice
