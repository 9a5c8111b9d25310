/-
**Domain names.**

A domain name may be written with all kinds of letters.  It is registered in one form, which has
basic characters alone: each character is replaced by the one it stands for, the text is brought
into its composed form, and each label that is not basic then is written in Punycode behind a mark.
A label that is written so already has to name a label that is in this form.

Main definitions:

* `Url.Domain.mapped?` — a text with its characters replaced;
* `Url.Domain.named?` — the label that a label in Punycode names;
* `Url.Domain.registered?` — **the registered form** of a domain name.
-/

import Provisioning.Url.Domain.Label
import Provisioning.Url.Domain.Table
import Provisioning.Url.Punycode

set_option autoImplicit false
set_option relaxedAutoImplicit false

namespace Provisioning.Url.Domain

/-! ### Replacing characters -/

/-- Whether a character is basic. -/
def isBasic (c : Char) : Bool := c.toNat < 128

/-- The image of a number under the first row that has it. -/
def mappedByRuns : List (List Nat) → Nat → Option Nat
  | [first, image] :: rest, n => if n = first then some image else mappedByRuns rest n
  | [first, last, image] :: rest, n =>
    if first ≤ n ∧ n ≤ last then some (image + (n - first)) else mappedByRuns rest n
  | [first, last, image, step] :: rest, n =>
    if first ≤ n ∧ n ≤ last ∧ (n - first) % step = 0 then some (image + (n - first))
    else mappedByRuns rest n
  | _ :: rest, n => mappedByRuns rest n
  | [], _ => none

/-- What a character stands for, if a domain name may hold it. -/
def mappedChar? (c : Char) : Option (List Char) :=
  if isBasic c then some [c.toLower]
  else if excluded.contains c then none
  else if leftOut.contains c then some []
  else
    match Text.Packed.image? mappedChars c.toNat with
    | some image => some (image.map Char.ofNat)
    | none => some [((mappedByRuns mappedRuns c.toNat).map Char.ofNat).getD c]

/-- A text with its characters replaced by what they stand for, in its composed form. -/
def mapped? (text : List Char) : Option (List Char) :=
  (text.mapM mappedChar?).map fun images => Text.composed images.flatten

/-! ### Labels -/

/-- The mark of a label in Punycode. -/
def punycodeMark : List Char := "xn--".toList

/-- The greatest number of characters that are put into Punycode. -/
def maxEncoded : Nat := 1000

/-- The greatest number of characters that are read as Punycode. -/
def maxDecoded : Nat := 2000

/-- The label that a text behind the mark of Punycode names.  It is not basic, and it is in the form
that replacing its characters gives. -/
def named? (written : List Char) : Option (List Char) := do
  if written.getLast? = some '-' || maxDecoded < written.length then none
  let label ← Punycode.decode? written
  if label.all isBasic || (← mapped? label) != label then none
  return label

/-- A label with its registered form. -/
structure Registered where
  /-- The label itself. -/
  label : List Char
  /-- How it is registered. -/
  form : List Char

/-- The registered form of a label whose characters are replaced already. -/
def registeredLabel? (text : List Char) : Option Registered := do
  let result ←
    if punycodeMark.isPrefixOf text then
      if text.all isBasic then
        (named? (text.drop punycodeMark.length)).map fun label => ⟨label, text⟩
      else none
    else if text.all isBasic then some ⟨text, text⟩
    else if maxEncoded < text.length then none
    else some ⟨text, punycodeMark ++ Punycode.encode text⟩
  if isLabel result.label then some result else none

/-! ### Names -/

/-- The basic characters that no domain name has. -/
def isForbidden (c : Char) : Bool :=
  c.toNat ≤ 0x20 || c.toNat = 0x7f || "%#/:<>?@[\\]^|".toList.contains c

/-- **The registered form** of a domain name, if the text is one. -/
def registered? (name : List Char) : Option (List Char) := do
  let text ← mapped? name
  if text.any isForbidden then none
  let parts ← (text.splitOn '.').mapM registeredLabel?
  if parts.any (hasRightToLeft ·.label) && !parts.all (isDirected ·.label) then none
  return ['.'].intercalate (parts.map (·.form))

end Provisioning.Url.Domain
