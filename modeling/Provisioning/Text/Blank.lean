/-
**White space.**

Texts that come from people are trimmed of every character that some script uses as white space,
not only of the blanks of the basic alphabet.

Main definitions:

* `Text.isSpace` — the white-space characters;
* `Text.trim` — a text without the white space around it.
-/

import Provisioning.Text.CodeRange

set_option autoImplicit false
set_option relaxedAutoImplicit false

namespace Provisioning.Text

/-- The white-space characters. -/
def space : CodeRanges := [
  (0x9, 0xd), (0x20, 0x20), (0x85, 0x85), (0xa0, 0xa0), (0x1680, 0x1680), (0x2000, 0x200a),
  (0x2028, 0x2029), (0x202f, 0x202f), (0x205f, 0x205f), (0x3000, 0x3000)]

/-- Whether the character is white space. -/
def isSpace (c : Char) : Bool := space.contains c

/-- Characters without the white space behind them. -/
def dropFinalSpace (text : List Char) : List Char := (text.reverse.dropWhile isSpace).reverse

/-- A text without the white space around it. -/
def trim (s : String) : String := String.ofList (dropFinalSpace (s.toList.dropWhile isSpace))

/-- What is left has no white space at its end. -/
theorem not_isSpace_getLast_dropFinalSpace (text : List Char) (c : Char)
    (h : (dropFinalSpace text).getLast? = some c) : isSpace c = false := by
  have := List.head?_dropWhile_not isSpace text.reverse
  simp only [dropFinalSpace, List.getLast?_reverse] at h
  simpa [h] using this

end Provisioning.Text
