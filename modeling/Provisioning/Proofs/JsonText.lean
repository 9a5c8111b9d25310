/-
**What a JSON text spells.**

The reader of texts looks at one character after the other, keeps what it has read so far even of a
broken text, and counts down while it goes, so that from its definition alone it is hard to see
which texts it takes.  Here is what the format says instead.  A text **spells** a tree: a scalar by
its characters, an array or an object by its parts between brackets, with blanks around every part.
Nothing in it depends on the reader but the floats, which are what the reader makes of a number that
is no integer.

Every text that spells a tree is read as that tree, by induction on how it spells it.  Two things
carry the induction.  What follows a value must not go on with a number, and nothing that can follow
does; and the count that is left must be twice the length of the text, since two steps are taken
into each bracket and one to each comma.

Main definitions:

* `Json.SpellsPieces` — the inside of a string;
* `Json.Spells`, `Json.SpellsItems`, `Json.SpellsMembers` — **texts that spell a tree**;
* `Json.IsText` — a whole text, with blanks around it.

Main results:

* `Json.Spells.sound` — what is spelled has no fault;
* `Json.Spells.readValue_eq` — **every text that spells a tree is read as that tree**;
* `Json.IsText.ofText_eq`, `Json.IsText.decodeText_eq` — so is a whole text.
-/

import Mathlib.Data.List.DropRight
import Provisioning.Json.Decode
import Provisioning.Json.Writer
import Provisioning.Proofs.NumberText

set_option relaxedAutoImplicit false
set_option autoImplicit false

namespace Provisioning.Json

/-! ### Texts that spell a tree -/

/-- Nothing but blanks. -/
def Blank (text : List Char) : Prop := ∀ c ∈ text, isBlank c = true

/-- **The inside of a string**: characters that stand for themselves, and escapes. -/
inductive SpellsPieces : List Char → List Piece → Prop
  | nil : SpellsPieces [] []
  | char {c : Char} {text : List Char} {ps : List Piece} (hcontrol : 32 ≤ c.toNat)
      (hquote : c ≠ '\x22') (hescape : c ≠ '\\') (h : SpellsPieces text ps) :
      SpellsPieces (c :: text) (.char c :: ps)
  | escape {c d : Char} {text : List Char} {ps : List Piece} (hd : escaped? c = some d)
      (h : SpellsPieces text ps) : SpellsPieces ('\\' :: c :: text) (.char d :: ps)
  | unit {a b c d : Char} {n : Nat} {text : List Char} {ps : List Piece}
      (hn : hexUnit? a b c d = some n) (h : SpellsPieces text ps) :
      SpellsPieces ('\\' :: 'u' :: a :: b :: c :: d :: text) (.unit n :: ps)

/-- A string in its quotes, and the text it is, if it is one. -/
inductive SpellsString : List Char → Option String → Prop
  | mk {inside : List Char} {ps : List Piece} (h : SpellsPieces inside ps) :
      SpellsString ('\x22' :: (inside ++ ['\x22'])) ((joinPieces? ps).map String.ofList)

/-- A value without parts. -/
inductive SpellsScalar : List Char → Raw → Prop
  | null : SpellsScalar "null".toList .null
  | boolean (b : Bool) : SpellsScalar (booleanText b) (.boolean b)
  | number (n : NumberText) : SpellsScalar n.chars (.number n.value)
  | string {text : List Char} {s : Option String} (h : SpellsString text s) :
      SpellsScalar text (.string s)

/-- The name of a member, with blanks around it. -/
inductive SpellsName : List Char → Option String → Prop
  | mk {before text after : List Char} {name : Option String} (hbefore : Blank before)
      (h : SpellsString text name) (hafter : Blank after) :
      SpellsName (before ++ (text ++ after)) name

mutual

/-- **A text spells a tree.** -/
inductive Spells : List Char → Raw → Prop
  | scalar {text : List Char} {r : Raw} (h : SpellsScalar text r) : Spells text r
  | emptyArray {blanks : List Char} (h : Blank blanks) :
      Spells ('[' :: (blanks ++ [']'])) (.array [] true)
  | array {text : List Char} {items : List Raw} (h : SpellsItems text items) :
      Spells ('[' :: (text ++ [']'])) (.array items true)
  | emptyObject {blanks : List Char} (h : Blank blanks) :
      Spells ('\x7b' :: (blanks ++ ['\x7d'])) (.object [] true)
  | object {text : List Char} {members : List (Option String × Raw)}
      (h : SpellsMembers text members) :
      Spells ('\x7b' :: (text ++ ['\x7d'])) (.object members true)

/-- A tree with blanks around it. -/
inductive SpellsPadded : List Char → Raw → Prop
  | mk {before text after : List Char} {r : Raw} (hbefore : Blank before) (h : Spells text r)
      (hafter : Blank after) : SpellsPadded (before ++ (text ++ after)) r

/-- Items with commas between them. -/
inductive SpellsItems : List Char → List Raw → Prop
  | last {text : List Char} {r : Raw} (h : SpellsPadded text r) : SpellsItems text [r]
  | cons {text rest : List Char} {r : Raw} {items : List Raw} (h : SpellsPadded text r)
      (hrest : SpellsItems rest items) : SpellsItems (text ++ ',' :: rest) (r :: items)

/-- Members with commas between them. -/
inductive SpellsMembers : List Char → List (Option String × Raw) → Prop
  | last {key text : List Char} {name : Option String} {r : Raw} (hname : SpellsName key name)
      (h : SpellsPadded text r) : SpellsMembers (key ++ ':' :: text) [(name, r)]
  | cons {key text rest : List Char} {name : Option String} {r : Raw}
      {members : List (Option String × Raw)} (hname : SpellsName key name)
      (h : SpellsPadded text r) (hrest : SpellsMembers rest members) :
      SpellsMembers (key ++ ':' :: (text ++ ',' :: rest)) ((name, r) :: members)

end

/-- **A whole text** that spells a tree. -/
def IsText (text : String) (r : Raw) : Prop := SpellsPadded text.toList r

/-! ### What is spelled has no fault -/

theorem SpellsScalar.sound {text : List Char} {r : Raw} (h : SpellsScalar text r) :
    r.sound = true := by
  cases h with
  | null => rfl
  | boolean b => rfl
  | number n => rfl
  | string h => rfl

mutual

/-- **What is spelled has no fault.** -/
theorem Spells.sound {text : List Char} {r : Raw} : Spells text r → r.sound = true
  | .scalar h => h.sound
  | .emptyArray _ => rfl
  | .array h => by rw [Raw.sound, SpellsItems.sound h]; rfl
  | .emptyObject _ => rfl
  | .object h => by rw [Raw.sound, SpellsMembers.sound h]; rfl

theorem SpellsPadded.sound {text : List Char} {r : Raw} : SpellsPadded text r → r.sound = true
  | .mk _ h _ => h.sound

theorem SpellsItems.sound {text : List Char} {items : List Raw} :
    SpellsItems text items → soundItems items = true
  | .last h => by rw [soundItems, SpellsPadded.sound h]; rfl
  | .cons h hrest => by rw [soundItems, SpellsPadded.sound h, SpellsItems.sound hrest]; rfl

theorem SpellsMembers.sound {text : List Char} {members : List (Option String × Raw)} :
    SpellsMembers text members → soundMembers members = true
  | .last _ h => by rw [soundMembers, SpellsPadded.sound h]; rfl
  | .cons _ h hrest => by rw [soundMembers, SpellsPadded.sound h, SpellsMembers.sound hrest]; rfl

end

/-! ### Blanks -/

section Blanks

variable {before rest : List Char}

theorem skipBlanks_append (h : Blank before) (rest : List Char) :
    skipBlanks (before ++ rest) = skipBlanks rest :=
  List.dropWhile_append_of_pos h

theorem skipBlanks_cons {c : Char} (h : isBlank c = false) (rest : List Char) :
    skipBlanks (c :: rest) = c :: rest :=
  List.dropWhile_cons_of_neg (by simp [h])

theorem skipBlanks_skipBlanks (text : List Char) :
    skipBlanks (skipBlanks text) = skipBlanks text :=
  List.dropWhile_idempotent isBlank text

/-- **The readers skip blanks** on their own, so it does not matter whether they were skipped. -/
theorem readValue_skipBlanks (fuel : Nat) (text : List Char) :
    readValue fuel (skipBlanks text) = readValue fuel text := by
  cases fuel with
  | zero => rfl
  | succ fuel => rw [readValue, readValue, skipBlanks_skipBlanks]

theorem readItems_skipBlanks (fuel : Nat) (text : List Char) :
    readItems fuel (skipBlanks text) = readItems fuel text := by
  cases fuel with
  | zero => rfl
  | succ fuel => rw [readItems, readItems, readValue_skipBlanks]

theorem readMembers_skipBlanks (fuel : Nat) (text : List Char) :
    readMembers fuel (skipBlanks text) = readMembers fuel text := by
  cases fuel with
  | zero => rfl
  | succ fuel => rw [readMembers, readMembers, skipBlanks_skipBlanks]

end Blanks

/-! ### Reading scalars -/

section Scalars

variable {text rest : List Char}

/-- **The inside of a string** is read up to the closing quote. -/
theorem SpellsPieces.pieces?_eq {ps : List Piece} (h : SpellsPieces text ps) (rest : List Char) :
    pieces? (text ++ '\x22' :: rest) = some (ps, rest) := by
  induction h with
  | nil => rfl
  | @char c text ps hcontrol hquote hescape h ih =>
      have hkept : ¬ (c.toNat < 32 || c = '\\') = true := by
        simp [Nat.not_lt.mpr hcontrol, hescape]
      rw [List.cons_append, pieces?, if_neg hkept, ih]
      · rfl
      · exact hquote
      · exact fun _ _ _ _ _ hc _ => hescape hc
      · exact fun _ _ hc _ => hescape hc
  | @escape c d text ps hd h ih =>
      rw [List.cons_append, List.cons_append, pieces?, hd, ih]
      · rfl
      · -- The letter is not the one that announces a unit.
        rintro _ _ _ _ _ rfl _
        cases hd
  | @unit a b c d n text ps hn h ih =>
      simp only [List.cons_append]
      rw [pieces?, hn, ih]
      rfl

theorem SpellsString.string?_eq {s : Option String} (h : SpellsString text s)
    (rest : List Char) :
    ∃ inside, text = '\x22' :: inside ∧ string? (inside ++ rest) = some (s, rest) := by
  obtain ⟨h⟩ := h
  refine ⟨_, rfl, ?_⟩
  rw [List.append_assoc, List.singleton_append, string?, h.pieces?_eq]
  rfl

/-- The characters that cannot begin a scalar: blanks and brackets. -/
def isFraming (c : Char) : Bool := " \n\t\r[]\x7b\x7d".toList.contains c

theorem not_isFraming_of_isDigit {c : Char} (h : c.isDigit = true) : isFraming c = false := by
  have hframing : ∀ d ∈ " \n\t\r[]\x7b\x7d".toList, d.isDigit = false := by simp
  rw [isFraming, Bool.eq_false_iff, ne_eq, List.contains_iff_mem]
  intro hmem
  rw [hframing c hmem] at h
  cases h

theorem not_isBlank {c : Char} (h : isFraming c = false) : isBlank c = false := by
  simp [isFraming] at h
  simp [isBlank, h]

/-- **A scalar begins with a character of its own.** -/
theorem SpellsScalar.exists_cons {r : Raw} (h : SpellsScalar text r) :
    ∃ c tail, text = c :: tail ∧ isFraming c = false := by
  cases h with
  | null => exact ⟨_, _, rfl, by decide⟩
  | boolean b =>
      cases b with
      | false => exact ⟨_, _, rfl, by decide⟩
      | true => exact ⟨_, _, rfl, by decide⟩
  | number n =>
      obtain ⟨d, ds, hwhole, hd⟩ := n.whole_run.exists_cons
      rw [NumberText.chars, NumberText.unsigned, hwhole]
      cases n.negative with
      | false => exact ⟨d, _, rfl, not_isFraming_of_isDigit hd⟩
      | true => exact ⟨'-', _, rfl, by decide⟩
  | string h =>
      obtain ⟨_⟩ := h
      exact ⟨'\x22', _, rfl, by decide⟩

/-- Where a digit stands, a number is read. -/
theorem scalar?_of_isDigit {d : Char} (hd : d.isDigit = true) (rest : List Char) :
    scalar? (d :: rest) = (number? false (d :: rest)).map fun (n, r) => (.number n, r) := by
  have hne : ∀ c, c.isDigit = false → d ≠ c := by
    rintro c hc rfl
    rw [hc] at hd
    cases hd
  rw [scalar?]
  · exact fun _ h => hne 'n' rfl (List.cons.inj h).1
  · exact fun _ h => hne 't' rfl (List.cons.inj h).1
  · exact fun _ h => hne 'f' rfl (List.cons.inj h).1
  · exact fun _ h => hne '\x22' rfl (List.cons.inj h).1
  · exact fun _ h => hne '-' rfl (List.cons.inj h).1

/-- **Every scalar is read.** -/
theorem SpellsScalar.scalar?_eq {r : Raw} (h : SpellsScalar text r) (hrest : Ends rest) :
    scalar? (text ++ rest) = some (r, rest) := by
  cases h with
  | null => rfl
  | boolean b =>
      cases b with
      | false => rfl
      | true => rfl
  | string h =>
      obtain ⟨inside, rfl, hread⟩ := h.string?_eq rest
      rw [List.cons_append, scalar?, hread]
      rfl
  | number n =>
      have hread := n.number?_append hrest
      cases hsign : n.negative with
      | true =>
          rw [hsign] at hread
          rw [NumberText.chars, hsign, if_pos rfl, List.cons_append, scalar?, hread]
          rfl
      | false =>
          obtain ⟨d, ds, hwhole, hd⟩ := n.whole_run.exists_cons
          rw [hsign, NumberText.unsigned, hwhole] at hread
          rw [NumberText.chars, hsign, if_neg Bool.false_ne_true, NumberText.unsigned, hwhole,
            List.cons_append, List.cons_append, scalar?_of_isDigit hd]
          rw [List.cons_append, List.cons_append] at hread
          rw [hread]
          rfl

end Scalars

/-! ### Reading values -/

section Values

variable {fuel : Nat} {text rest : List Char}

/-- No number goes on behind blanks. -/
theorem Ends.behind_blank {blanks : List Char} (h : Blank blanks) (hrest : Ends rest) :
    Ends (blanks ++ rest) := by
  cases blanks with
  | nil => exact hrest
  | cons c blanks =>
      have hc := h c List.mem_cons_self
      simp only [isBlank, Bool.or_eq_true, beq_iff_eq] at hc
      rcases hc with ((rfl | rfl) | rfl) | rfl <;> exact ends_cons (by decide) (by decide) _

theorem readValue_scalar {r : Raw} (h : SpellsScalar text r) (hrest : Ends rest) :
    readValue (fuel + 1) (text ++ rest) = (r, some rest) := by
  have hread := h.scalar?_eq hrest
  obtain ⟨c, tail, rfl, hc⟩ := h.exists_cons
  have hne : ∀ d, isFraming d = true → c ≠ d := by
    rintro d hd rfl
    rw [hc] at hd
    cases hd
  rw [List.cons_append] at hread ⊢
  rw [readValue, skipBlanks_cons (not_isBlank hc)]
  split
  · rename_i heq
    exact absurd (List.cons.inj heq).1 (hne '[' (by decide))
  · rename_i heq
    exact absurd (List.cons.inj heq).1 (hne '\x7b' (by decide))
  · rw [hread]

/-- A tree begins with a character that is no blank and closes no array. -/
theorem Spells.exists_cons {r : Raw} (h : Spells text r) :
    ∃ c tail, text = c :: tail ∧ isBlank c = false ∧ c ≠ ']' := by
  cases h with
  | scalar h =>
      obtain ⟨c, tail, htext, hc⟩ := h.exists_cons
      refine ⟨c, tail, htext, not_isBlank hc, ?_⟩
      rintro rfl
      cases hc
  | emptyArray _ => exact ⟨'[', _, rfl, rfl, by decide⟩
  | array _ => exact ⟨'[', _, rfl, rfl, by decide⟩
  | emptyObject _ => exact ⟨'\x7b', _, rfl, rfl, by decide⟩
  | object _ => exact ⟨'\x7b', _, rfl, rfl, by decide⟩

theorem SpellsPadded.skipBlanks_eq {r : Raw} (h : SpellsPadded text r) (rest : List Char) :
    ∃ c tail, skipBlanks (text ++ rest) = c :: tail ∧ c ≠ ']' := by
  obtain @⟨_, _, after, _, hbefore, h, _⟩ := h
  obtain ⟨c, tail, rfl, hblank, hc⟩ := h.exists_cons
  refine ⟨c, tail ++ after ++ rest, ?_, hc⟩
  rw [List.append_assoc, skipBlanks_append hbefore]
  exact skipBlanks_cons hblank _

theorem SpellsItems.skipBlanks_eq {items : List Raw} (h : SpellsItems text items)
    (rest : List Char) : ∃ c tail, skipBlanks (text ++ rest) = c :: tail ∧ c ≠ ']' := by
  cases h with
  | last h => exact h.skipBlanks_eq rest
  | cons h _ =>
      rw [List.append_assoc]
      exact h.skipBlanks_eq _

/-- **A name is read** up to the blanks behind it. -/
theorem SpellsName.skipBlanks_eq {name : Option String} (h : SpellsName text name)
    (rest : List Char) :
    ∃ inside after, skipBlanks (text ++ rest) = '\x22' :: inside ∧
      string? inside = some (name, after ++ rest) ∧ Blank after := by
  obtain @⟨_, _, after, _, hbefore, h, hafter⟩ := h
  obtain ⟨inside, rfl, hread⟩ := h.string?_eq (after ++ rest)
  refine ⟨inside ++ (after ++ rest), after, ?_, hread, hafter⟩
  rw [List.append_assoc, skipBlanks_append hbefore, List.append_assoc]
  exact skipBlanks_cons rfl _

theorem SpellsMembers.skipBlanks_eq {members : List (Option String × Raw)}
    (h : SpellsMembers text members) (rest : List Char) :
    ∃ tail, skipBlanks (text ++ rest) = '\x22' :: tail := by
  cases h with
  | last hname _ =>
      rw [List.append_assoc]
      obtain ⟨inside, _, hskip, _⟩ := hname.skipBlanks_eq _
      exact ⟨inside, hskip⟩
  | cons hname _ _ =>
      rw [List.append_assoc]
      obtain ⟨inside, _, hskip, _⟩ := hname.skipBlanks_eq _
      exact ⟨inside, hskip⟩

/-- An array without items. -/
theorem readValue_emptyArray {blanks : List Char} (h : Blank blanks) :
    readValue (fuel + 1) ('[' :: (blanks ++ [']']) ++ rest) = (.array [] true, some rest) := by
  have hskip : skipBlanks (blanks ++ [']'] ++ rest) = ']' :: rest := by
    rw [List.append_assoc, skipBlanks_append h]
    rfl
  rw [List.cons_append, readValue, skipBlanks_cons rfl]
  simp only [hskip]

/-- **An array is read** if its items are. -/
theorem readValue_array {items : List Raw} (h : SpellsItems text items)
    (hitems : readItems fuel (text ++ ']' :: rest) = (items, some rest)) :
    readValue (fuel + 1) ('[' :: (text ++ [']']) ++ rest) = (.array items true, some rest) := by
  obtain ⟨c, tail, hskip, hc⟩ := h.skipBlanks_eq (']' :: rest)
  rw [← readItems_skipBlanks, hskip] at hitems
  rw [List.cons_append, List.append_assoc, List.singleton_append, readValue, skipBlanks_cons rfl]
  simp only [hskip]
  split
  · rename_i heq
    exact absurd (List.cons.inj heq).1 hc
  · rw [hitems]
    rfl

/-- An object without members. -/
theorem readValue_emptyObject {blanks : List Char} (h : Blank blanks) :
    readValue (fuel + 1) ('\x7b' :: (blanks ++ ['\x7d']) ++ rest) =
      (.object [] true, some rest) := by
  have hskip : skipBlanks (blanks ++ ['\x7d'] ++ rest) = '\x7d' :: rest := by
    rw [List.append_assoc, skipBlanks_append h]
    rfl
  rw [List.cons_append, readValue, skipBlanks_cons rfl]
  simp only [hskip]

/-- **An object is read** if its members are. -/
theorem readValue_object {members : List (Option String × Raw)} (h : SpellsMembers text members)
    (hmembers : readMembers fuel (text ++ '\x7d' :: rest) = (members, some rest)) :
    readValue (fuel + 1) ('\x7b' :: (text ++ ['\x7d']) ++ rest) =
      (.object members true, some rest) := by
  obtain ⟨tail, hskip⟩ := h.skipBlanks_eq ('\x7d' :: rest)
  rw [← readMembers_skipBlanks, hskip] at hmembers
  rw [List.cons_append, List.append_assoc, List.singleton_append, readValue, skipBlanks_cons rfl]
  simp only [hskip]
  split
  · rename_i heq
    cases heq
  · rw [hmembers]
    rfl

/-- An item that is followed by no other. -/
theorem readItems_last {r : Raw} {after : List Char} (hafter : Blank after)
    (h : readValue fuel text = (r, some (after ++ ']' :: rest))) :
    readItems (fuel + 1) text = ([r], some rest) := by
  rw [readItems, h]
  simp only [skipBlanks_append hafter, skipBlanks_cons (rfl : isBlank ']' = false)]

/-- An item and those behind it. -/
theorem readItems_cons {r : Raw} {items : List Raw} {after behind : List Char}
    (hafter : Blank after) (h : readValue fuel text = (r, some (after ++ ',' :: behind)))
    (hitems : readItems fuel behind = (items, some rest)) :
    readItems (fuel + 1) text = (r :: items, some rest) := by
  rw [readItems, h]
  simp only [skipBlanks_append hafter, skipBlanks_cons (rfl : isBlank ',' = false), hitems]

/-- A member that is followed by no other. -/
theorem readMembers_last {key : List Char} {name : Option String} {r : Raw} {after : List Char}
    (hname : SpellsName key name) (hafter : Blank after)
    (h : readValue fuel text = (r, some (after ++ '\x7d' :: rest))) :
    readMembers (fuel + 1) (key ++ ':' :: text) = ([(name, r)], some rest) := by
  obtain ⟨inside, behind, hskip, hread, hbehind⟩ := hname.skipBlanks_eq (':' :: text)
  rw [readMembers, hskip]
  simp only [hread, skipBlanks_append hbehind, skipBlanks_cons (rfl : isBlank ':' = false), h,
    skipBlanks_append hafter, skipBlanks_cons (rfl : isBlank '\x7d' = false)]

/-- A member and those behind it. -/
theorem readMembers_cons {key : List Char} {name : Option String} {r : Raw}
    {members : List (Option String × Raw)} {after other : List Char}
    (hname : SpellsName key name) (hafter : Blank after)
    (h : readValue fuel text = (r, some (after ++ ',' :: other)))
    (hmembers : readMembers fuel other = (members, some rest)) :
    readMembers (fuel + 1) (key ++ ':' :: text) = ((name, r) :: members, some rest) := by
  obtain ⟨inside, behind, hskip, hread, hbehind⟩ := hname.skipBlanks_eq (':' :: text)
  rw [readMembers, hskip]
  simp only [hread, skipBlanks_append hbehind, skipBlanks_cons (rfl : isBlank ':' = false), h,
    skipBlanks_append hafter, skipBlanks_cons (rfl : isBlank ',' = false), hmembers]

end Values

/-! ### Every text that spells a tree is read -/

mutual

/-- **Every text that spells a tree is read as that tree**, up to where it ends. -/
theorem Spells.readValue_eq {text : List Char} {r : Raw} (fuel : Nat) (rest : List Char)
    (hfuel : 2 * text.length ≤ fuel + 1) (hrest : Ends rest) :
    Spells text r → readValue (fuel + 1) (text ++ rest) = (r, some rest)
  | .scalar h => readValue_scalar h hrest
  | .emptyArray h => readValue_emptyArray h
  | .array h => by
      simp only [List.length_cons, List.length_append, List.length_nil] at hfuel
      obtain ⟨fuel, rfl⟩ := Nat.exists_eq_add_of_le' (by omega : 2 ≤ fuel)
      exact readValue_array h (SpellsItems.readItems_eq fuel rest (by omega) h)
  | .emptyObject h => readValue_emptyObject h
  | .object h => by
      simp only [List.length_cons, List.length_append, List.length_nil] at hfuel
      obtain ⟨fuel, rfl⟩ := Nat.exists_eq_add_of_le' (by omega : 2 ≤ fuel)
      exact readValue_object h (SpellsMembers.readMembers_eq fuel rest (by omega) h)

theorem SpellsPadded.readValue_eq {text : List Char} {r : Raw} (fuel : Nat) (rest : List Char)
    (hfuel : 2 * text.length ≤ fuel + 1) (hrest : Ends rest) :
    SpellsPadded text r →
      ∃ after, Blank after ∧ readValue (fuel + 1) (text ++ rest) = (r, some (after ++ rest))
  | @SpellsPadded.mk before text after r hbefore h hafter => by
      refine ⟨after, hafter, ?_⟩
      simp only [List.length_append] at hfuel
      rw [List.append_assoc, ← readValue_skipBlanks, skipBlanks_append hbefore,
        readValue_skipBlanks, List.append_assoc]
      exact Spells.readValue_eq fuel _ (by omega) (hrest.behind_blank hafter) h

theorem SpellsItems.readItems_eq {text : List Char} {items : List Raw} (fuel : Nat)
    (rest : List Char) (hfuel : 2 * text.length ≤ fuel + 1) :
    SpellsItems text items → readItems (fuel + 2) (text ++ ']' :: rest) = (items, some rest)
  | .last h => by
      obtain ⟨after, hafter, hread⟩ := SpellsPadded.readValue_eq fuel (']' :: rest) hfuel
        (ends_cons (by decide) (by decide) rest) h
      exact readItems_last hafter hread
  | @SpellsItems.cons text other r items h hother => by
      simp only [List.length_cons, List.length_append] at hfuel
      obtain ⟨after, hafter, hread⟩ := SpellsPadded.readValue_eq fuel
        (',' :: (other ++ ']' :: rest)) (by omega) (ends_cons (by decide) (by decide) _) h
      obtain ⟨fuel, rfl⟩ := Nat.exists_eq_add_of_le' (by omega : 1 ≤ fuel)
      rw [List.append_assoc]
      exact readItems_cons hafter hread
        (SpellsItems.readItems_eq fuel rest (by omega) hother)

theorem SpellsMembers.readMembers_eq {text : List Char} {members : List (Option String × Raw)}
    (fuel : Nat) (rest : List Char) (hfuel : 2 * text.length ≤ fuel + 1) :
    SpellsMembers text members →
      readMembers (fuel + 2) (text ++ '\x7d' :: rest) = (members, some rest)
  | .last hname h => by
      simp only [List.length_cons, List.length_append] at hfuel
      obtain ⟨after, hafter, hread⟩ := SpellsPadded.readValue_eq fuel ('\x7d' :: rest)
        (by omega) (ends_cons (by decide) (by decide) rest) h
      rw [List.append_assoc]
      exact readMembers_last hname hafter hread
  | @SpellsMembers.cons key text other name r members hname h hother => by
      simp only [List.length_cons, List.length_append] at hfuel
      obtain ⟨after, hafter, hread⟩ := SpellsPadded.readValue_eq fuel
        (',' :: (other ++ '\x7d' :: rest)) (by omega) (ends_cons (by decide) (by decide) _) h
      obtain ⟨fuel, rfl⟩ := Nat.exists_eq_add_of_le' (by omega : 1 ≤ fuel)
      rw [List.append_assoc, List.cons_append, List.append_assoc]
      exact readMembers_cons hname hafter hread
        (SpellsMembers.readMembers_eq fuel rest (by omega) hother)

end

/-- **A whole text is read** as the tree that it spells, and nothing is left of it. -/
theorem IsText.ofText_eq {text : String} {r : Raw} (h : IsText text r) :
    Document.ofText text = ⟨r, true⟩ := by
  obtain ⟨after, hafter, hread⟩ := SpellsPadded.readValue_eq (2 * text.toList.length + 1) []
    (by omega) ends_nil h
  rw [List.append_nil, List.append_nil] at hread
  have hblank := skipBlanks_append hafter []
  rw [List.append_nil] at hblank
  rw [Document.ofText, hread]
  simp only [hblank]
  rfl

/-- What a decoder makes of a whole text. -/
theorem IsText.decodeText_eq {α : Type} {text : String} {r : Raw} (h : IsText text r)
    (d : Decoder α) : decodeText d text = d r := by
  rw [decodeText, h.ofText_eq]
  cases hread : d r with
  | error e => rfl
  | ok a => rfl

end Provisioning.Json
