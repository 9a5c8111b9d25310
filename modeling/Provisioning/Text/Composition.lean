/-
**The composed form of a text.**

A letter with marks can be written as one character or as the letter and its marks, and the marks
in more than one order.  The composed form is one and the same for all these ways: every character
is taken apart as far as it goes, the marks on one letter are put into the order of their classes,
and then each letter is put together again with the marks it has a character for.  The syllables
of the Korean script follow a rule of their own, by arithmetic.

Main definitions:

* `Text.markClass` — the class of a mark; characters that are no marks have class zero;
* `Text.decompose`, `Text.ordered`, `Text.compose` — the three steps;
* `Text.composed` — **the composed form**.

Main statement: basic characters stay as they are (`composed_of_basic`).
-/

import Provisioning.Text.Composition.Table

set_option autoImplicit false
set_option relaxedAutoImplicit false

namespace Provisioning.Text

/-! ### Korean syllables -/

/-- The first of the syllables, of their initial, medial and final parts.  There is a syllable for
every initial and medial part, and behind it one for each final part. -/
def syllableBase : Nat := 0xac00
@[inherit_doc syllableBase] def initialBase : Nat := 0x1100
@[inherit_doc syllableBase] def medialBase : Nat := 0x1161
/-- The number in front of the first final part. -/
def finalBase : Nat := 0x11a7

/-- The parts of a syllable. -/
def syllableParts? (n : Nat) : Option (List Nat) :=
  if syllableBase ≤ n ∧ n < syllableBase + 19 * 21 * 28 then
    let place := n - syllableBase
    let front := [initialBase + place / (21 * 28), medialBase + place % (21 * 28) / 28]
    some (if place % 28 = 0 then front else front ++ [finalBase + place % 28])
  else none

/-- The syllable of an initial and a medial part, or of a syllable without a final part and one. -/
def syllable? (m n : Nat) : Option Nat :=
  if initialBase ≤ m ∧ m < initialBase + 19 ∧ medialBase ≤ n ∧ n < medialBase + 21 then
    some (syllableBase + ((m - initialBase) * 21 + (n - medialBase)) * 28)
  else if syllableBase ≤ m ∧ m < syllableBase + 19 * 21 * 28 ∧ (m - syllableBase) % 28 = 0 ∧
      finalBase < n ∧ n < finalBase + 28 then
    some (m + (n - finalBase))
  else none

/-! ### Taking apart -/

/-- The characters that a number stands for in the end. -/
def decomposed (n : Nat) : List Nat :=
  if n < 0xc0 then [n]
  else (syllableParts? n <|> Packed.image? compositions n <|> Packed.image? replacements n).getD [n]

/-- A text with all its characters taken apart. -/
def decompose (text : List Char) : List Char :=
  text.flatMap fun c => (decomposed c.toNat).map Char.ofNat

/-! ### The order of marks -/

/-- The class of a mark, zero for all other characters. -/
def markClass (c : Char) : Nat :=
  if c.toNat < 0x300 then 0 else ((Packed.inRange? markClasses c.toNat).bind List.head?).getD 0

/-- Put a character in front of a text, behind the marks of lower classes there. -/
def insertMark (c : Char) : List Char → List Char
  | [] => [c]
  | d :: rest =>
    if 0 < markClass d ∧ markClass d < markClass c then d :: insertMark c rest else c :: d :: rest

/-- A text with each run of marks in the order of their classes. -/
def ordered (text : List Char) : List Char := text.foldr insertMark []

/-! ### Putting together -/

/-- The character that is made of a character and one behind it. -/
def composite? (a b : Char) : Option Char :=
  match syllable? a.toNat b.toNat with
  | some n => some (Char.ofNat n)
  | none =>
    if b.toNat < 0x300 then none
    else
      let parts := decomposed a.toNat ++ [b.toNat]
      (compositions.find? (·.tail == parts)).bind fun row => row.head?.map Char.ofNat

/-- Put `base` together with the marks behind it; `kept` are those in between that stay.  A mark is
out of reach behind one of its own class or a higher one. -/
def composeOnto (base : Char) (kept : List Char) : List Char → List Char
  | [] => base :: kept
  | c :: rest =>
    let reached := kept.getLast?.all (markClass · < markClass c)
    match if reached then composite? base c else none with
    | some whole => composeOnto whole kept rest
    | none =>
      if markClass c = 0 then base :: kept ++ composeOnto c [] rest
      else composeOnto base (kept ++ [c]) rest

/-- Put the characters of a text together, as far as there are characters for them. -/
def compose : List Char → List Char
  | [] => []
  | c :: rest => if markClass c = 0 then composeOnto c [] rest else c :: compose rest

/-- **The composed form** of a text. -/
def composed (text : List Char) : List Char := compose (ordered (decompose text))

/-! ### Basic characters -/

theorem decompose_of_basic {text : List Char} (h : ∀ c ∈ text, c.toNat < 128) :
    decompose text = text := by
  induction text with
  | nil => rfl
  | cons c rest ih =>
    have hc : c.toNat < 0xc0 := Nat.lt_trans (h c List.mem_cons_self) (by omega)
    have hfront : decomposed c.toNat = [c.toNat] := by simp only [decomposed, if_pos hc]
    have htail := ih fun d hd => h d (List.mem_cons_of_mem _ hd)
    rw [decompose] at htail
    simp [decompose, hfront, htail]

theorem markClass_of_basic {c : Char} (h : c.toNat < 128) : markClass c = 0 := by
  have : c.toNat < 0x300 := by omega
  simp [markClass, this]

theorem ordered_of_basic {text : List Char} (h : ∀ c ∈ text, c.toNat < 128) :
    ordered text = text := by
  induction text with
  | nil => rfl
  | cons c rest ih =>
    have htail := ih fun d hd => h d (List.mem_cons_of_mem _ hd)
    simp only [ordered] at htail
    cases rest with
    | nil => simp [ordered, insertMark]
    | cons d rest =>
      have hclass := markClass_of_basic (h d (by simp))
      simp only [ordered, List.foldr_cons] at htail ⊢
      rw [htail]
      simp [insertMark, hclass]

theorem composite?_of_basic {a b : Char} (h : b.toNat < 128) : composite? a b = none := by
  have hb : b.toNat < 0x300 := by omega
  have hsyllable : syllable? a.toNat b.toNat = none := by
    rw [syllable?, if_neg (by rw [medialBase]; omega), if_neg (by rw [finalBase]; omega)]
  simp [composite?, hsyllable, hb]

theorem composeOnto_of_basic (base : Char) {text : List Char} (h : ∀ c ∈ text, c.toNat < 128) :
    composeOnto base [] text = base :: text := by
  induction text generalizing base with
  | nil => rfl
  | cons c rest ih =>
    have htail := ih c fun d hd => h d (List.mem_cons_of_mem _ hd)
    have hc := h c List.mem_cons_self
    simp [composeOnto, composite?_of_basic hc, markClass_of_basic hc, htail]

/-- Basic characters stay as they are. -/
theorem composed_of_basic {text : List Char} (h : ∀ c ∈ text, c.toNat < 128) :
    composed text = text := by
  rw [composed, decompose_of_basic h, ordered_of_basic h]
  cases text with
  | nil => rfl
  | cons c rest =>
    rw [compose, if_pos (markClass_of_basic (h c List.mem_cons_self)),
      composeOnto_of_basic c fun d hd => h d (List.mem_cons_of_mem _ hd)]

end Provisioning.Text
