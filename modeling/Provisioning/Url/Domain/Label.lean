/-
**The labels of domain names.**

A label may hold all the characters of domain names, but not in every order.  It does not begin with
a mark.  The two joiners, which are not shown, stand only where they make a difference: behind a
mark that silences a vowel, and the one that separates letters also between letters that would be
joined.  In a name with letters written from right to left, each label is of one direction.

Main definitions:

* `Url.Domain.joinersStand` — whether every joiner makes a difference;
* `Url.Domain.isLabel` — **whether characters are a label** as far as it can be said without its
  neighbours;
* `Url.Domain.isDirected` — whether a label is of one direction, and `Url.Domain.hasRightToLeft`
  for whether that is asked.
-/

import Provisioning.Text.Composition
import Provisioning.Text.Direction
import Provisioning.Text.Joining
import Provisioning.Text.Mark

set_option autoImplicit false
set_option relaxedAutoImplicit false

namespace Provisioning.Url.Domain

/-! ### Joiners -/

/-- The character that keeps its neighbours from being joined. -/
def nonJoiner : Char := Char.ofNat 0x200c

/-- The character that joins its neighbours. -/
def joiner : Char := Char.ofNat 0x200d

/-- The class of the marks that silence a vowel. -/
def silencer : Nat := 9

/-- What the first character that is not passed over can be joined to. -/
def firstJoining (text : List Char) : Text.Joining :=
  ((text.map Text.joining).find? (· ≠ .transparent)).getD .nothing

/-- Whether a character may stand between the characters before it, the last one first, and those
behind it, as far as joiners go. -/
def joinerStands (before : List Char) (c : Char) (behind : List Char) : Bool :=
  if c = nonJoiner ∨ c = joiner then
    before.head?.any (Text.markClass · = silencer) ||
      (c = nonJoiner && [.both, .next].contains (firstJoining before) &&
        [.both, .previous].contains (firstJoining behind))
  else true

/-- Whether every joiner of a text makes a difference; `before` is what stands in front of it, the
last character first. -/
def joinersStand (before : List Char) : List Char → Bool
  | [] => true
  | c :: behind => joinerStands before c behind && joinersStand (c :: before) behind

/-- **Whether characters are a label.** -/
def isLabel (label : List Char) : Bool :=
  !label.head?.any Text.isMark && joinersStand [] label

/-! ### Directions -/

/-- Whether a text has letters or numbers that are written from right to left. -/
def hasRightToLeft (text : List Char) : Bool :=
  text.any fun c => [.rightToLeft, .arabicNumber].contains (Text.direction c)

/-- Whether the classes behind the first letter of a label fit that letter; `allowed` are the ones
that may be there and `closing` those of the last character that is no mark. -/
def fits (allowed closing : List Text.Direction) (classes : List Text.Direction) : Bool :=
  match classes.reverse.dropWhile (· = .mark) with
  | [] => true
  | last :: before => closing.contains last && before.all (allowed.contains ·)

/-- Whether a label is of one direction.  It begins with a letter, and one that is written from
right to left has numbers of one kind only. -/
def isDirected (label : List Char) : Bool :=
  match label.map Text.direction with
  | [] => true
  | .leftToRight :: rest =>
    fits [.leftToRight, .europeanNumber, .neutral, .mark] [.leftToRight, .europeanNumber] rest
  | .rightToLeft :: rest =>
    fits [.rightToLeft, .arabicNumber, .europeanNumber, .neutral, .mark]
        [.rightToLeft, .europeanNumber, .arabicNumber] rest &&
      !(rest.contains .europeanNumber && rest.contains .arabicNumber)
  | _ => false

/-- A text without joiners has none that stands in vain. -/
theorem joinersStand_of_forall {text : List Char}
    (hjoin : ∀ c ∈ text, c ≠ nonJoiner ∧ c ≠ joiner) (before : List Char) :
    joinersStand before text = true := by
  induction text generalizing before with
  | nil => rfl
  | cons c behind ih =>
    have hc := hjoin c List.mem_cons_self
    simp [joinersStand, joinerStands, hc.1, hc.2,
      ih (fun d hd => hjoin d (List.mem_cons_of_mem _ hd))]

end Provisioning.Url.Domain
