/-
**Texts quoted in messages.**

A message that shows a piece of somebody's input puts it in quotes and makes every character
visible: the quote, the backslash and the common control characters have short escapes, and a
character that cannot be seen on its own is shown by its code point in hexadecimal.

Main definition:

* `Text.quote` — a text in its quotes.
-/

import Provisioning.Text.Printable

set_option autoImplicit false
set_option relaxedAutoImplicit false

namespace Provisioning.Text

/-- A character inside the quotes. -/
def visible (c : Char) : List Char :=
  if c = '\x00' then ['\\', '0']
  else if c = '\t' then ['\\', 't']
  else if c = '\r' then ['\\', 'r']
  else if c = '\n' then ['\\', 'n']
  else if c = '\x22' then ['\\', '\x22']
  else if c = '\\' then ['\\', '\\']
  else if isPrintable c then [c]
  else '\\' :: 'u' :: '\x7b' :: Nat.toDigits 16 c.toNat ++ ['\x7d']

/-- A text in its quotes. -/
def quote (s : String) : String :=
  String.ofList ('\x22' :: s.toList.flatMap visible ++ ['\x22'])

end Provisioning.Text
