/-
**The characters of YAML, and places among them.**

A text may hold no control characters; it is looked at in portions, and one that holds such a
character is not read at all.  Lines end with a line feed, a carriage return, both
together, or one of three further characters; all but the last two of those are read as a line feed,
so that two kinds of break are left: the line feed, which can be folded into a blank, and the two
separators, which cannot.

Main definitions:

* `Yaml.isAllowed`, `Yaml.unifyBreaks` — the characters of a text;
* `Yaml.readable` — what can be read of a text;
* `Yaml.isBreak`, `Yaml.isBlank`, `Yaml.isWhite`, `Yaml.endsWord` — the space between words;
* `Yaml.isMarker` — the three characters that begin or end a document;
* `Yaml.Position`, `Yaml.Cursor` — where reading has got to.
-/

set_option autoImplicit false
set_option relaxedAutoImplicit false

namespace Provisioning.Yaml

/-! ### Characters -/

/-- Whether a text may hold a character. -/
def isAllowed (c : Char) : Bool :=
  let n := c.toNat
  c == '\t' || c == '\n' || c == '\r' || (0x20 ≤ n && n ≤ 0x7e) || n == 0x85 ||
    (0xa0 ≤ n && n ≤ 0xfffd) || 0x10000 ≤ n

/-- The greatest number of bytes of a portion. -/
def portionSize : Nat := 16384

/-- What can be read of a text. -/
structure Readable where
  text : List Char
  /-- Whether the text goes on with a portion that cannot be read. -/
  broken : Bool
  deriving DecidableEq, Repr

/-- What can be read of a text behind the first `size` bytes of its portion, which are those of
`portion`, the last character first. -/
def readableFrom (size : Nat) (portion : List Char) : List Char → Readable
  | [] => ⟨portion.reverse, false⟩
  | c :: rest =>
    let fits := size + c.utf8Size ≤ portionSize
    if !isAllowed c then ⟨if fits then [] else portion.reverse, true⟩
    else if fits then readableFrom (size + c.utf8Size) (c :: portion) rest
    else
      let behind := readableFrom c.utf8Size [c] rest
      { behind with text := portion.reverse ++ behind.text }

/-- What can be read of a text: the portions in front of the first one with a character that no text
may hold. -/
def readable (text : List Char) : Readable := readableFrom 0 [] text

/-- Write every end of a line that can be folded as a line feed. -/
def unifyBreaks : List Char → List Char
  | '\r' :: '\n' :: rest => '\n' :: unifyBreaks rest
  | '\r' :: rest => '\n' :: unifyBreaks rest
  | c :: rest => (if c.toNat = 0x85 then '\n' else c) :: unifyBreaks rest
  | [] => []

/-- Whether a character ends a line. -/
def isBreak (c : Char) : Bool := c == '\n' || c.toNat == 0x2028 || c.toNat == 0x2029

/-- Whether a character is a blank inside a line. -/
def isBlank (c : Char) : Bool := c == ' ' || c == '\t'

/-- Whether a character is a blank or a break. -/
def isWhite (c : Char) : Bool := isBlank c || isBreak c

/-- Whether no word goes on with a text: it is at its end, or white. -/
def endsWord : List Char → Bool
  | [] => true
  | c :: _ => isWhite c

/-- Whether a character may be in the name of an anchor, a directive or a tag's handle. -/
def isNameCharacter (c : Char) : Bool := c.isAlphanum || c == '_' || c == '-'

/-- Whether a text begins with a word of three times the same character. -/
def isMarker (mark : Char) : List Char → Bool
  | a :: b :: c :: rest => a == mark && b == mark && c == mark && endsWord rest
  | _ => false

/-- Whether a document begins or ends here, given that a line does. -/
def isDocumentMarker (text : List Char) : Bool := isMarker '-' text || isMarker '.' text

/-- **The text of a run of white characters between two words**; both have their last character
first.  Blanks inside a line stay.  A line feed is a blank unless more breaks follow, and then it is
nothing; the other breaks stay. -/
def fold (run : List Char) : List Char :=
  match (run.filter isBreak).reverse with
  | [] => run
  | ['\n'] => [' ']
  | '\n' :: more => more.reverse
  | breaks => breaks.reverse

/-! ### Places -/

/-- A line and a column, counted from zero. -/
structure Position where
  line : Nat := 0
  column : Nat := 0
  /-- How many bytes of the line are in front of the place. -/
  bytes : Nat := 0
  deriving DecidableEq, Repr, Inhabited

/-- The place behind a character. -/
def Position.after (p : Position) (c : Char) : Position :=
  if isBreak c then { line := p.line + 1 } else ⟨p.line, p.column + 1, p.bytes + c.utf8Size⟩

/-- The place behind some characters. -/
def Position.behind (p : Position) (text : List Char) : Position := text.foldl Position.after p

/-- The text that is still to be read, and the place where it begins. -/
structure Cursor where
  rest : List Char
  position : Position := {}
  deriving DecidableEq, Repr, Inhabited

/-- The cursor behind some characters of its line. -/
def Cursor.skip (c : Cursor) (count : Nat) : Cursor :=
  ⟨c.rest.drop count, c.position.behind (c.rest.take count)⟩

/-- The cursor on the next line, when nothing but blanks and a comment are left of this one. -/
def nextLine? (comment : Bool) (p : Position) : List Char → Option Cursor
  | [] => some ⟨[], p⟩
  | c :: rest =>
    if isBreak c then some ⟨rest, p.after c⟩
    else if comment || c = '#' then nextLine? true (p.after c) rest
    else if isBlank c then nextLine? false (p.after c) rest
    else none

@[simp] theorem unifyBreaks_nil : unifyBreaks [] = [] := rfl

@[simp] theorem fold_nil : fold [] = [] := rfl

end Provisioning.Yaml
