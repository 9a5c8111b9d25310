/-
**What is written can be read.**

A value is written with as few escapes as the format allows, and read with all of them, so the two
do not mirror each other: a control character goes out as a unit of four digits and comes back as a
unit, which then has to be joined with what stands behind it.  That the text of a value spells the
tree of the value is shown character by character, and then part by part.

Numbers are the exception.  An integer that fits 64 bits comes back as it is; of a float that is not
said here, and so the values that are meant are those without floats.

Main definitions:

* `Json.Value.integral` — **no number in it is a float**, or too large.

Main results:

* `Json.spellsString_quoted` — a string in quotes spells the string;
* `Json.spells_chars` — **the text of a value spells its tree**;
* `Json.isText_compact` — so does the compact text as a whole.
-/

import Mathlib.Tactic.SplitIfs
import Provisioning.Proofs.GivenFields
import Provisioning.Proofs.JsonText

set_option relaxedAutoImplicit false
set_option autoImplicit false

namespace Provisioning.Json

/-! ### Strings -/

/-- **A unit that is no half of a pair** is a character of its own. -/
theorem joinPieces?_unit {n : Nat} (h : n < 0xD800) (ps : List Piece) :
    joinPieces? (.unit n :: ps) = (joinPieces? ps).map (Char.ofNat n :: ·) := by
  have hhigh : isHighSurrogate n = false := by
    rw [isHighSurrogate, decide_eq_false (Nat.not_le.mpr h), Bool.false_and]
  have hlow : isLowSurrogate n = false := by
    rw [isLowSurrogate, decide_eq_false (by omega), Bool.false_and]
  -- What follows is looked at first, since a half of a pair needs a unit behind it.
  cases ps with
  | nil => simp [joinPieces?, hhigh, hlow]
  | cons p ps =>
      cases p with
      | char c => simp [joinPieces?, hhigh, hlow]
      | unit m =>
          rw [joinPieces?, hhigh, hlow, if_neg Bool.false_ne_true, if_neg Bool.false_ne_true]

/-- Some characters that are one piece of a string, which stands for `c`. -/
def StandsFor (written : List Char) (c : Char) : Prop :=
  ∃ p, (∀ text ps, SpellsPieces text ps → SpellsPieces (written ++ text) (p :: ps)) ∧
    ∀ ps, joinPieces? (p :: ps) = (joinPieces? ps).map (c :: ·)

theorem standsFor_escape {c d : Char} (h : escaped? d = some c) : StandsFor ['\\', d] c :=
  ⟨.char c, fun _ _ htext => .escape h htext, fun _ => rfl⟩

theorem standsFor_unit {c : Char} (h : c.toNat < 32) :
    StandsFor ['\\', 'u', '0', '0', hexDigit (c.toNat / 16), hexDigit (c.toNat % 16)] c := by
  have hunit : hexUnit? '0' '0' (hexDigit (c.toNat / 16)) (hexDigit (c.toNat % 16)) =
      some c.toNat :=
    (by decide : ∀ n < 32, hexUnit? '0' '0' (hexDigit (n / 16)) (hexDigit (n % 16)) = some n)
      c.toNat h
  refine ⟨.unit c.toNat, fun _ _ htext => .unit hunit htext, fun ps => ?_⟩
  rw [joinPieces?_unit (Nat.lt_trans h (by decide)), Char.ofNat_toNat]

/-- **The written form of a character stands for it.** -/
theorem standsFor_escapeChar (c : Char) : StandsFor (escapeChar c) c := by
  unfold escapeChar
  split_ifs with hquote hbackslash hc hc hc hc hc hcontrol
  · rw [hquote]
    exact standsFor_escape rfl
  · rw [hbackslash]
    exact standsFor_escape rfl
  · rw [hc]
    exact standsFor_escape rfl
  · rw [hc]
    exact standsFor_escape rfl
  · rw [hc]
    exact standsFor_escape rfl
  · rw [hc]
    exact standsFor_escape rfl
  · rw [hc]
    exact standsFor_escape rfl
  · exact standsFor_unit hcontrol
  · exact ⟨.char c, fun _ _ htext => .char (Nat.not_lt.mp hcontrol) hquote hbackslash htext,
      fun _ => rfl⟩

/-- **The inside of a string** spells its characters. -/
theorem spellsPieces_escape (text : List Char) :
    ∃ ps, SpellsPieces (escape text) ps ∧ joinPieces? ps = some text := by
  induction text with
  | nil => exact ⟨[], .nil, rfl⟩
  | cons c text ih =>
      obtain ⟨ps, hspells, hjoin⟩ := ih
      obtain ⟨p, hpiece, hstands⟩ := standsFor_escapeChar c
      rw [escape_cons]
      exact ⟨p :: ps, hpiece _ _ hspells, by rw [hstands, hjoin]; rfl⟩

/-- **A string in quotes spells the string.** -/
theorem spellsString_quoted (s : String) : SpellsString (quoted s) (some s) := by
  obtain ⟨ps, hspells, hjoin⟩ := spellsPieces_escape s.toList
  have hstring := SpellsString.mk hspells
  rw [hjoin, Option.map_some, String.ofList_toList] at hstring
  exact hstring

/-! ### Values -/

mutual

/-- **No number in it is a float**, or an integer that does not fit 64 bits. -/
def Value.integral : Value → Bool
  | .number (.integer i) => -(Nat.pow 2 63 : Int) ≤ i && i < significandLimit
  | .number (.float _) => false
  | .array items => integralItems items
  | .object members => integralMembers members
  | _ => true

/-- The same of every item. -/
def integralItems : List Value → Bool
  | [] => true
  | v :: rest => v.integral && integralItems rest

/-- The same of the value of every member. -/
def integralMembers : List (String × Value) → Bool
  | [] => true
  | (_, v) :: rest => v.integral && integralMembers rest

end

theorem Spells.padded {text : List Char} {r : Raw} (h : Spells text r) : SpellsPadded text r := by
  have hnone : Blank [] := List.forall_mem_nil _
  have hpadded := SpellsPadded.mk hnone h hnone
  rwa [List.nil_append, List.append_nil] at hpadded

theorem SpellsString.name {text : List Char} {name : Option String}
    (h : SpellsString text name) : SpellsName text name := by
  have hnone : Blank [] := List.forall_mem_nil _
  have hname := SpellsName.mk hnone h hnone
  rwa [List.nil_append, List.append_nil] at hname

theorem spells_integer {i : Int} (h : (Value.integer i).integral = true) :
    Spells (Value.integer i).chars (.ofValue (.integer i)) := by
  rw [Value.integer, Value.integral, Bool.and_eq_true, decide_eq_true_eq, decide_eq_true_eq] at h
  have hnumber := SpellsScalar.number (.ofInt i)
  rw [NumberText.value_ofInt h.1 h.2, ← NumberText.toList_toString] at hnumber
  exact .scalar hnumber

mutual

/-- **The text of a value spells its tree.** -/
theorem spells_chars : ∀ v : Value, v.integral = true → Spells v.chars (.ofValue v)
  | .null, _ => .scalar .null
  | .boolean b, _ => .scalar (.boolean b)
  | .string s, _ => .scalar (.string (spellsString_quoted s))
  | .number (.integer _), h => spells_integer h
  | .array [], _ => .emptyArray (List.forall_mem_nil _)
  | .array (v :: rest), h => .array (spellsItems_itemsChars (v :: rest) (List.cons_ne_nil _ _) h)
  | .object [], _ => .emptyObject (List.forall_mem_nil _)
  | .object (m :: rest), h =>
      .object (spellsMembers_membersChars (m :: rest) (List.cons_ne_nil _ _) h)

theorem spellsItems_itemsChars : ∀ items : List Value, items ≠ [] → integralItems items = true →
    SpellsItems (itemsChars items) (rawItems items)
  | [], hne, _ => absurd rfl hne
  | [v], _, h => by
      rw [integralItems, Bool.and_eq_true] at h
      exact .last (spells_chars v h.1).padded
  | v :: w :: rest, _, h => by
      rw [integralItems, Bool.and_eq_true] at h
      exact .cons (spells_chars v h.1).padded
        (spellsItems_itemsChars (w :: rest) (List.cons_ne_nil _ _) h.2)

theorem spellsMembers_membersChars : ∀ members : List (String × Value), members ≠ [] →
    integralMembers members = true → SpellsMembers (membersChars members) (rawMembers members)
  | [], hne, _ => absurd rfl hne
  | [(name, v)], _, h => by
      rw [integralMembers, Bool.and_eq_true] at h
      exact .last (spellsString_quoted name).name (spells_chars v h.1).padded
  | (name, v) :: m :: rest, _, h => by
      rw [integralMembers, Bool.and_eq_true] at h
      have hmembers := SpellsMembers.cons (spellsString_quoted name).name
        (spells_chars v h.1).padded
        (spellsMembers_membersChars (m :: rest) (List.cons_ne_nil _ _) h.2)
      rw [membersChars, List.append_assoc, List.cons_append]
      exact hmembers

end

/-- **The compact text of a value** spells its tree. -/
theorem isText_compact {v : Value} (h : v.integral = true) : IsText v.compact (.ofValue v) := by
  rw [IsText, Value.compact, String.toList_ofList]
  exact (spells_chars v h).padded

end Provisioning.Json
