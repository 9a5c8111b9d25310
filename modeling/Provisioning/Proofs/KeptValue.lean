/-
**What is kept of a text.**

A value is read of any text that holds one, and less is kept than the text says: members are put
in the order of their names, and of two members of one name the later one counts.  So what is kept
is not what stands in the text, and it has to be said what it is instead.  A tree **denotes** a
value if scalars are the same, items stand in the same order, and every name has the value that was
given for it last.

What is kept can be written, and then the text says no more than is kept: a value that was read is
read again as it was.  Its names are in order already, it is nested no deeper than the text that it
was read of, and an integer in it fits 64 bits since it was read.  Only a float need not come back,
and therefore the value must not have one.

Main definitions:

* `Json.Denotes` — **what a tree says**;
* `Json.Value.Rereads` — a value is read again of its own tree;
* `Json.Value.numbers`, `Json.Raw.numbers` — the numbers in a value and in a tree.

Main results:

* `Json.denotes_of_toValue?` — what is kept of a tree is what it denotes;
* `Json.rereads_of_toValue?` — a value that was read is read again of its own tree;
* `Json.fits_of_mem_numbers` — every integer that is read fits 64 bits;
* `Json.ofText?_compact` — **a value that was read is read again of its own text**.
-/

import Mathlib.Data.List.Forall2
import Mathlib.Data.Option.Basic
import Provisioning.Proofs.ObjectMembers
import Provisioning.Proofs.WrittenJson

set_option relaxedAutoImplicit false
set_option autoImplicit false

namespace Provisioning.Json

/-! ### Arrays and objects that are kept -/

section Kept

variable {limit : Nat} {closed : Bool} {v : Value}

theorem toValue?_array_eq_some_iff {rs : List Raw} :
    (Raw.array rs closed).toValue? limit = some v ↔
      1 < limit ∧ closed = true ∧ ∃ items, itemValues? (limit - 1) rs = some items ∧
        v = .array items := by
  rw [Raw.toValue?]
  by_cases hlimit : limit ≤ 1
  · simp [hlimit]
  · cases itemValues? (limit - 1) rs with
    | none => simp [hlimit]
    | some items => cases closed <;> simp [hlimit, Nat.lt_of_not_le hlimit, eq_comm]

theorem toValue?_object_eq_some_iff {rs : List (Option String × Raw)} :
    (Raw.object rs closed).toValue? limit = some v ↔
      1 < limit ∧ closed = true ∧ ∃ members, memberValues? (limit - 1) rs [] = some members ∧
        v = .object members := by
  rw [Raw.toValue?]
  by_cases hlimit : limit ≤ 1
  · simp [hlimit]
  · cases memberValues? (limit - 1) rs [] with
    | none => simp [hlimit]
    | some members => cases closed <;> simp [hlimit, Nat.lt_of_not_le hlimit, eq_comm]

theorem itemValues?_cons_eq_some_iff {r : Raw} {rs : List Raw} {items : List Value} :
    itemValues? limit (r :: rs) = some items ↔
      ∃ v rest, r.toValue? limit = some v ∧ itemValues? limit rs = some rest ∧
        items = v :: rest := by
  rw [itemValues?]
  cases r.toValue? limit with
  | none => simp
  | some v => simp [eq_comm]

theorem memberValues?_cons_eq_some_iff {key : Option String} {r : Raw}
    {rs : List (Option String × Raw)} {before members : List (String × Value)} :
    memberValues? limit ((key, r) :: rs) before = some members ↔
      ∃ name v, key = some name ∧ r.toValue? limit = some v ∧
        memberValues? limit rs (Members.put name v before) = some members := by
  cases key with
  | none => simp [memberValues?]
  | some name =>
      rw [memberValues?]
      cases r.toValue? limit with
      | none => simp
      | some v => simp

end Kept

theorem ascending_nil : Ascending [] := List.Pairwise.nil

/-! ### What a tree says -/

/-- **A tree says what a value is**: items stand in their order, and a name has the value that is
given for it last. -/
inductive Denotes : Raw → Value → Prop
  | null : Denotes .null .null
  | boolean (b : Bool) : Denotes (.boolean b) (.boolean b)
  | number (n : Number) : Denotes (.number (some n)) (.number n)
  | string (s : String) : Denotes (.string (some s)) (.string s)
  | array {rs : List Raw} {items : List Value} (h : List.Forall₂ Denotes rs items) :
      Denotes (.array rs true) (.array items)
  | object {rs : List (Option String × Raw)} {members : List (String × Value)}
      (hnames : (members.map (·.1)).Nodup)
      (h : ∀ name, Option.Rel Denotes (valuesOf name rs).getLast? (members.lookup name)) :
      Denotes (.object rs true) (.object members)

/-- The last value that is given for a name, with a member more in front. -/
theorem getLast?_valuesOf_cons (name : String) (r : Raw) (rest : List (Option String × Raw)) :
    (valuesOf name ((some name, r) :: rest)).getLast? =
      (valuesOf name rest).getLast?.or (some r) := by
  rw [valuesOf_cons_self, List.getLast?_cons]
  cases (valuesOf name rest).getLast? with
  | none => rfl
  | some last => rfl

mutual

/-- **What is kept of a tree** is what it says. -/
theorem denotes_of_toValue? : ∀ (limit : Nat) (r : Raw) {v : Value},
    r.toValue? limit = some v → Denotes r v
  | _, .broken, _, h => by cases h
  | _, .null, _, h => by
      obtain rfl := Option.some.inj h
      exact .null
  | _, .boolean b, _, h => by
      obtain rfl := Option.some.inj h
      exact .boolean b
  | _, .number _, _, h => by
      obtain ⟨n, rfl, rfl⟩ := Option.map_eq_some_iff.mp h
      exact .number n
  | _, .string _, _, h => by
      obtain ⟨s, rfl, rfl⟩ := Option.map_eq_some_iff.mp h
      exact .string s
  | limit, .array rs _, _, h => by
      obtain ⟨-, rfl, items, hitems, rfl⟩ := toValue?_array_eq_some_iff.mp h
      exact .array (denotes_of_itemValues? (limit - 1) rs hitems)
  | limit, .object rs _, _, h => by
      obtain ⟨-, rfl, members, hmembers, rfl⟩ := toValue?_object_eq_some_iff.mp h
      refine .object (ascending_of_memberValues? ascending_nil hmembers).nodup fun name => ?_
      rcases denotes_of_memberValues? (limit - 1) rs hmembers name with
        ⟨hlast, hv⟩ | ⟨r, v, hlast, hv, h⟩
      · rw [hlast, hv]
        exact .none
      · rw [hlast, hv]
        exact .some h

theorem denotes_of_itemValues? : ∀ (limit : Nat) (rs : List Raw) {items : List Value},
    itemValues? limit rs = some items → List.Forall₂ Denotes rs items
  | _, [], _, h => by
      obtain rfl := Option.some.inj h
      exact .nil
  | limit, r :: rs, _, h => by
      obtain ⟨v, rest, hv, hrest, rfl⟩ := itemValues?_cons_eq_some_iff.mp h
      exact .cons (denotes_of_toValue? limit r hv) (denotes_of_itemValues? limit rs hrest)

/-- A name has the value it had before, or the last one that is given for it. -/
theorem denotes_of_memberValues? : ∀ (limit : Nat) (rs : List (Option String × Raw))
    {before members : List (String × Value)}, memberValues? limit rs before = some members →
      ∀ name, ((valuesOf name rs).getLast? = none ∧ members.lookup name = before.lookup name) ∨
        ∃ r v, (valuesOf name rs).getLast? = some r ∧ members.lookup name = some v ∧ Denotes r v
  | _, [], _, _, h, _ => by
      rw [memberValues?] at h
      obtain rfl := Option.some.inj h
      exact .inl ⟨rfl, rfl⟩
  | limit, (_, r) :: rs, _, _, h, name => by
      obtain ⟨other, v, rfl, hv, hrest⟩ := memberValues?_cons_eq_some_iff.mp h
      have hmore := denotes_of_memberValues? limit rs hrest name
      by_cases hname : other = name
      · subst hname
        rw [getLast?_valuesOf_cons]
        rcases hmore with ⟨hlast, hlookup⟩ | ⟨last, w, hlast, hlookup, hw⟩
        · rw [Members.lookup_put_self] at hlookup
          exact .inr ⟨r, v, by rw [hlast]; rfl, hlookup, denotes_of_toValue? limit r hv⟩
        · exact .inr ⟨last, w, by rw [hlast]; rfl, hlookup, hw⟩
      · rw [valuesOf_cons_of_ne fun h => hname (Option.some.inj h)]
        rwa [Members.lookup_put_other (Ne.symm hname)] at hmore

end

/-! ### Reading again -/

/-- A name that comes behind all others is put behind them. -/
theorem Members.put_of_lt {name : String} {before : List (String × Value)}
    (h : ∀ m ∈ before, m.1 < name) (v : Value) :
    Members.put name v before = before ++ [(name, v)] := by
  induction before with
  | nil => rfl
  | cons m rest ih =>
      obtain ⟨hm, hrest⟩ := List.forall_mem_cons.mp h
      rw [Members.put, if_neg (String.ne_of_lt hm).symm, if_neg (String.lt_asymm hm), ih hrest]
      rfl

/-- A value is read again of its own tree. -/
def Value.Rereads (limit : Nat) (v : Value) : Prop := (Raw.ofValue v).toValue? limit = some v

theorem itemValues?_rawItems {limit : Nat} {items : List Value}
    (h : ∀ v ∈ items, v.Rereads limit) : itemValues? limit (rawItems items) = some items := by
  induction items with
  | nil => rfl
  | cons v rest ih =>
      obtain ⟨hv, hrest⟩ := List.forall_mem_cons.mp h
      exact itemValues?_cons_eq_some_iff.mpr ⟨v, rest, hv, ih hrest, rfl⟩

/-- Members that are in order already are put behind those that were read before. -/
theorem memberValues?_rawMembers {limit : Nat} {before members : List (String × Value)}
    (hascending : Ascending (before ++ members)) (h : ∀ m ∈ members, m.2.Rereads limit) :
    memberValues? limit (rawMembers members) before = some (before ++ members) := by
  induction members generalizing before with
  | nil => rw [rawMembers, memberValues?, List.append_nil]
  | cons m rest ih =>
      obtain ⟨hm, hrest⟩ := List.forall_mem_cons.mp h
      have hbehind : ∀ other ∈ before, other.1 < m.1 := by
        rw [Ascending, List.map_append, List.pairwise_append] at hascending
        exact fun other hother => hascending.2.2 other.1 (List.mem_map_of_mem hother) m.1
          (List.mem_map_of_mem List.mem_cons_self)
      refine memberValues?_cons_eq_some_iff.mpr ⟨m.1, m.2, rfl, hm, ?_⟩
      rw [List.append_cons] at hascending ⊢
      rw [Members.put_of_lt hbehind]
      exact ih hascending hrest

mutual

/-- **A value that was read** is read again of its own tree, at the same depth or further out. -/
theorem rereads_of_toValue? : ∀ (limit : Nat) (r : Raw) {more : Nat} {v : Value}, limit ≤ more →
    r.toValue? limit = some v → v.Rereads more
  | _, .broken, _, _, _, h => by cases h
  | _, .null, _, _, _, h => by
      obtain rfl := Option.some.inj h
      rfl
  | _, .boolean _, _, _, _, h => by
      obtain rfl := Option.some.inj h
      rfl
  | _, .number _, _, _, _, h => by
      obtain ⟨n, rfl, rfl⟩ := Option.map_eq_some_iff.mp h
      rfl
  | _, .string _, _, _, _, h => by
      obtain ⟨s, rfl, rfl⟩ := Option.map_eq_some_iff.mp h
      rfl
  | limit, .array rs _, more, _, hmore, h => by
      obtain ⟨hlimit, rfl, items, hitems, rfl⟩ := toValue?_array_eq_some_iff.mp h
      have hreread := rereads_of_itemValues? (limit - 1) rs (Nat.sub_le_sub_right hmore 1) hitems
      exact toValue?_array_eq_some_iff.mpr
        ⟨Nat.lt_of_lt_of_le hlimit hmore, rfl, items, itemValues?_rawItems hreread, rfl⟩
  | limit, .object rs _, more, _, hmore, h => by
      obtain ⟨hlimit, rfl, members, hmembers, rfl⟩ := toValue?_object_eq_some_iff.mp h
      have hreread := rereads_of_memberValues? (limit - 1) rs (Nat.sub_le_sub_right hmore 1)
        (List.forall_mem_nil _) hmembers
      have hascending := ascending_of_memberValues? ascending_nil hmembers
      exact toValue?_object_eq_some_iff.mpr ⟨Nat.lt_of_lt_of_le hlimit hmore, rfl, members,
        memberValues?_rawMembers hascending hreread, rfl⟩

theorem rereads_of_itemValues? : ∀ (limit : Nat) (rs : List Raw) {more : Nat}
    {items : List Value}, limit ≤ more → itemValues? limit rs = some items →
      ∀ v ∈ items, v.Rereads more
  | _, [], _, _, _, h => by
      obtain rfl := Option.some.inj h
      exact List.forall_mem_nil _
  | limit, r :: rs, _, _, hmore, h => by
      obtain ⟨v, rest, hv, hrest, rfl⟩ := itemValues?_cons_eq_some_iff.mp h
      exact List.forall_mem_cons.mpr
        ⟨rereads_of_toValue? limit r hmore hv, rereads_of_itemValues? limit rs hmore hrest⟩

theorem rereads_of_memberValues? : ∀ (limit : Nat) (rs : List (Option String × Raw)) {more : Nat}
    {before members : List (String × Value)}, limit ≤ more →
      (∀ m ∈ before, m.2.Rereads more) → memberValues? limit rs before = some members →
        ∀ m ∈ members, m.2.Rereads more
  | _, [], _, _, _, _, hbefore, h => by
      rw [memberValues?] at h
      obtain rfl := Option.some.inj h
      exact hbefore
  | limit, (_, r) :: rs, _, _, _, hmore, hbefore, h => by
      obtain ⟨name, v, rfl, hv, hrest⟩ := memberValues?_cons_eq_some_iff.mp h
      refine rereads_of_memberValues? limit rs hmore (fun m hm => ?_) hrest
      rcases mem_put hm with rfl | hm
      · exact rereads_of_toValue? limit r hmore hv
      · exact hbefore m hm

end

/-! ### Numbers -/

mutual

/-- **The numbers in a value.** -/
def Value.numbers : Value → List Number
  | .number n => [n]
  | .array items => itemNumbers items
  | .object members => memberNumbers members
  | _ => []

/-- The numbers in some items. -/
def itemNumbers : List Value → List Number
  | [] => []
  | v :: rest => v.numbers ++ itemNumbers rest

/-- The numbers in some members. -/
def memberNumbers : List (String × Value) → List Number
  | [] => []
  | (_, v) :: rest => v.numbers ++ memberNumbers rest

end

mutual

/-- The numbers in a tree. -/
def Raw.numbers : Raw → List Number
  | .number n => n.toList
  | .array items _ => rawItemNumbers items
  | .object members _ => rawMemberNumbers members
  | _ => []

/-- The numbers in the trees of some items. -/
def rawItemNumbers : List Raw → List Number
  | [] => []
  | r :: rest => r.numbers ++ rawItemNumbers rest

/-- The numbers in the trees of some members. -/
def rawMemberNumbers : List (Option String × Raw) → List Number
  | [] => []
  | (_, r) :: rest => r.numbers ++ rawMemberNumbers rest

end

theorem mem_memberNumbers_iff {n : Number} {members : List (String × Value)} :
    n ∈ memberNumbers members ↔ ∃ m ∈ members, n ∈ m.2.numbers := by
  induction members with
  | nil => simp [memberNumbers]
  | cons m rest ih => simp [memberNumbers, ih]

theorem mem_rawItemNumbers_iff {n : Number} {items : List Raw} :
    n ∈ rawItemNumbers items ↔ ∃ r ∈ items, n ∈ r.numbers := by
  induction items with
  | nil => simp [rawItemNumbers]
  | cons r rest ih => simp [rawItemNumbers, ih]

theorem mem_rawMemberNumbers_iff {n : Number} {members : List (Option String × Raw)} :
    n ∈ rawMemberNumbers members ↔ ∃ m ∈ members, n ∈ m.2.numbers := by
  induction members with
  | nil => simp [rawMemberNumbers]
  | cons m rest ih => simp [rawMemberNumbers, ih]

/-- What is given for a field of a record has no other numbers than the record. -/
theorem mem_numbers_of_given? {n : Number} {place : Nat} {name : String} {r given : Raw}
    (h : r.given? place name = some given) (hn : n ∈ given.numbers) : n ∈ r.numbers := by
  cases r with
  | array items closed => exact mem_rawItemNumbers_iff.mpr ⟨given, List.mem_of_getElem? h, hn⟩
  | object members closed =>
      obtain ⟨m, hm, rfl⟩ := Option.map_eq_some_iff.mp h
      exact mem_rawMemberNumbers_iff.mpr ⟨m, List.mem_of_find?_eq_some hm, hn⟩
  | broken | null | boolean _ | number _ | string _ => cases h

mutual

/-- **The numbers in a value** that was read stand in its tree. -/
theorem mem_numbers_of_toValue? {n : Number} : ∀ (limit : Nat) (r : Raw) {v : Value},
    r.toValue? limit = some v → n ∈ v.numbers → n ∈ r.numbers
  | _, .broken, _, h, _ => by cases h
  | _, .null, _, h, hn => by
      obtain rfl := Option.some.inj h
      cases hn
  | _, .boolean _, _, h, hn => by
      obtain rfl := Option.some.inj h
      cases hn
  | _, .number _, _, h, hn => by
      obtain ⟨given, rfl, rfl⟩ := Option.map_eq_some_iff.mp h
      exact hn
  | _, .string _, _, h, hn => by
      obtain ⟨s, rfl, rfl⟩ := Option.map_eq_some_iff.mp h
      cases hn
  | limit, .array rs _, _, h, hn => by
      obtain ⟨-, rfl, items, hitems, rfl⟩ := toValue?_array_eq_some_iff.mp h
      exact mem_numbers_of_itemValues? (limit - 1) rs hitems hn
  | limit, .object rs _, _, h, hn => by
      obtain ⟨-, rfl, members, hmembers, rfl⟩ := toValue?_object_eq_some_iff.mp h
      obtain ⟨m, hm, hn⟩ := mem_memberNumbers_iff.mp hn
      exact (mem_numbers_of_memberValues? (limit - 1) rs hmembers hm hn).resolve_left nofun

theorem mem_numbers_of_itemValues? {n : Number} : ∀ (limit : Nat) (rs : List Raw)
    {items : List Value}, itemValues? limit rs = some items → n ∈ itemNumbers items →
      n ∈ rawItemNumbers rs
  | _, [], _, h, hn => by
      obtain rfl := Option.some.inj h
      cases hn
  | limit, r :: rs, _, h, hn => by
      obtain ⟨v, rest, hv, hrest, rfl⟩ := itemValues?_cons_eq_some_iff.mp h
      refine List.mem_append.mpr ((List.mem_append.mp hn).imp ?_ ?_)
      · exact mem_numbers_of_toValue? limit r hv
      · exact mem_numbers_of_itemValues? limit rs hrest

theorem mem_numbers_of_memberValues? {n : Number} : ∀ (limit : Nat)
    (rs : List (Option String × Raw)) {before members : List (String × Value)}
    {m : String × Value}, memberValues? limit rs before = some members → m ∈ members →
      n ∈ m.2.numbers → m ∈ before ∨ n ∈ rawMemberNumbers rs
  | _, [], _, _, _, h, hm, _ => by
      rw [memberValues?] at h
      obtain rfl := Option.some.inj h
      exact .inl hm
  | limit, (_, r) :: rs, _, _, _, h, hm, hn => by
      obtain ⟨name, v, rfl, hv, hrest⟩ := memberValues?_cons_eq_some_iff.mp h
      rw [rawMemberNumbers, List.mem_append]
      rcases mem_numbers_of_memberValues? limit rs hrest hm hn with hput | hn
      · rcases mem_put hput with rfl | hm
        · exact .inr (.inl (mem_numbers_of_toValue? limit r hv hn))
        · exact .inl hm
      · exact .inr (.inr hn)

end

/-! ### Numbers that are read -/

/-- Whether an integer fits 64 bits, with a sign or without. -/
def Number.fits : Number → Bool
  | .integer i => -(Nat.pow 2 63 : Int) ≤ i && i < significandLimit
  | .float _ => true

section Fits

variable {negative : Bool} {significand : Nat} {power : Int} {text rest : List Char} {n : Number}

theorem fits_of_floatOf (h : floatOf negative significand power = some n) : n.fits = true := by
  obtain ⟨x, -, rfl⟩ := Option.map_eq_some_iff.mp h
  rfl

/-- A power of ten that is out of range leaves nothing but zero. -/
theorem fits_of_shifted {p : Prop} [Decidable p] {zero : Bool} {shifted : Int}
    {after : List Char}
    (h : (if p then some (if zero then some (Number.float (.zero negative)) else none, after)
      else some (floatOf negative significand shifted, after)) = some (some n, rest)) :
    n.fits = true := by
  split at h
  · have hzero := (Prod.mk.inj (Option.some.inj h)).1
    split at hzero
    · obtain rfl := Option.some.inj hzero
      rfl
    · cases hzero
  · exact fits_of_floatOf (Prod.mk.inj (Option.some.inj h)).1

/-- What is read with a power of ten is a float. -/
theorem fits_of_withExponent
    (h : withExponent negative significand power text = some (some n, rest)) :
    n.fits = true := by
  unfold withExponent at h
  split at h
  · obtain ⟨⟨down, shift, after⟩, -, h⟩ := Option.bind_eq_some_iff.mp h
    exact fits_of_shifted h
  · obtain ⟨⟨down, shift, after⟩, -, h⟩ := Option.bind_eq_some_iff.mp h
    exact fits_of_shifted h
  · exact fits_of_floatOf (Prod.mk.inj (Option.some.inj h)).1

/-- A significand fits. -/
theorem fitting_lt (digits : List Char) {significand : Nat} (h : significand < significandLimit) :
    (fitting significand digits).1 < significandLimit := by
  induction digits generalizing significand with
  | nil => exact h
  | cons d digits ih =>
      rw [fitting]
      split
      · exact h
      · rename_i hfits
        exact ih (Nat.lt_of_not_le hfits)

/-- **A number that is read** fits. -/
theorem fits_of_number? (h : number? negative text = some (some n, rest)) : n.fits = true := by
  have hlt := fitting_lt (digitRun text).1 (by decide : 0 < significandLimit)
  unfold number? at h
  simp only [] at h
  split at h
  · cases h
  · cases h
  · split at h
    · split at h
      · cases h
      · exact fits_of_withExponent h
    · exact fits_of_withExponent h
    · exact fits_of_withExponent h
    · split at h
      · exact fits_of_floatOf (Prod.mk.inj (Option.some.inj h)).1
      · split at h
        · obtain rfl := Option.some.inj (Prod.mk.inj (Option.some.inj h)).1
          rw [Number.fits, Bool.and_eq_true, decide_eq_true_eq, decide_eq_true_eq]
          omega
        · split at h
          · exact fits_of_floatOf (Prod.mk.inj (Option.some.inj h)).1
          · rename_i hsmall
            obtain rfl := Option.some.inj (Prod.mk.inj (Option.some.inj h)).1
            rw [Bool.or_eq_true, decide_eq_true_eq, decide_eq_true_eq] at hsmall
            rw [Number.fits, Bool.and_eq_true, decide_eq_true_eq, decide_eq_true_eq]
            omega

theorem fits_of_scalar? {r : Raw} (h : scalar? text = some (r, rest)) :
    ∀ n ∈ r.numbers, n.fits = true := by
  unfold scalar? at h
  split at h
  · obtain ⟨_, _, h⟩ := Option.map_eq_some_iff.mp h
    obtain ⟨rfl, -⟩ := Prod.mk.inj h
    exact List.forall_mem_nil _
  · obtain ⟨_, _, h⟩ := Option.map_eq_some_iff.mp h
    obtain ⟨rfl, -⟩ := Prod.mk.inj h
    exact List.forall_mem_nil _
  · obtain ⟨_, _, h⟩ := Option.map_eq_some_iff.mp h
    obtain ⟨rfl, -⟩ := Prod.mk.inj h
    exact List.forall_mem_nil _
  · obtain ⟨⟨s, after⟩, -, h⟩ := Option.map_eq_some_iff.mp h
    obtain ⟨rfl, -⟩ := Prod.mk.inj h
    exact List.forall_mem_nil _
  · obtain ⟨⟨given, after⟩, hnumber, h⟩ := Option.map_eq_some_iff.mp h
    obtain ⟨rfl, -⟩ := Prod.mk.inj h
    intro n hn
    obtain rfl := Option.mem_toList.mp hn
    exact fits_of_number? hnumber
  · obtain ⟨⟨given, after⟩, hnumber, h⟩ := Option.map_eq_some_iff.mp h
    obtain ⟨rfl, -⟩ := Prod.mk.inj h
    intro n hn
    obtain rfl := Option.mem_toList.mp hn
    exact fits_of_number? hnumber

end Fits

mutual

/-- **All numbers of a text** that are read fit, however far reading came. -/
theorem fits_of_readValue : ∀ (fuel : Nat) (text : List Char),
    ∀ n ∈ (readValue fuel text).1.numbers, n.fits = true
  | 0, _ => List.forall_mem_nil _
  | fuel + 1, text => by
      rw [readValue]
      split
      · split
        · exact List.forall_mem_nil _
        · exact fits_of_readItems fuel _
      · split
        · exact List.forall_mem_nil _
        · exact fits_of_readMembers fuel _
      · split
        · rename_i hscalar
          exact fits_of_scalar? hscalar
        · exact List.forall_mem_nil _

theorem fits_of_readItems : ∀ (fuel : Nat) (text : List Char),
    ∀ n ∈ rawItemNumbers (readItems fuel text).1, n.fits = true
  | 0, _ => List.forall_mem_nil _
  | fuel + 1, text => by
      have hvalue := fits_of_readValue fuel text
      rw [readItems]
      split
      · rename_i hread
        rw [hread] at hvalue
        simpa [rawItemNumbers] using hvalue
      · rename_i rest hread
        rw [hread] at hvalue
        split
        · simpa [rawItemNumbers] using hvalue
        · rename_i more _
          exact List.forall_mem_append.mpr ⟨hvalue, fits_of_readItems fuel more⟩
        · simpa [rawItemNumbers] using hvalue

theorem fits_of_readMembers : ∀ (fuel : Nat) (text : List Char),
    ∀ n ∈ rawMemberNumbers (readMembers fuel text).1, n.fits = true
  | 0, _ => List.forall_mem_nil _
  | fuel + 1, text => by
      rw [readMembers]
      split
      · split
        · exact List.forall_mem_nil _
        · split
          · rename_i behind _
            have hvalue := fits_of_readValue fuel behind
            split
            · rename_i hread
              rw [hread] at hvalue
              simpa [rawMemberNumbers] using hvalue
            · rename_i hread
              rw [hread] at hvalue
              split
              · simpa [rawMemberNumbers] using hvalue
              · rename_i more _
                exact List.forall_mem_append.mpr ⟨hvalue, fits_of_readMembers fuel more⟩
              · simpa [rawMemberNumbers] using hvalue
          · simp [rawMemberNumbers, Raw.numbers]
      · exact List.forall_mem_nil _

end

/-- **Every integer of a text** that is read fits 64 bits. -/
theorem fits_of_mem_numbers (text : String) :
    ∀ n ∈ (Document.ofText text).root.numbers, n.fits = true := by
  have hfits := fits_of_readValue (2 * text.toList.length + 2) text.toList
  rw [Document.ofText]
  split
  · rename_i hread
    rw [hread] at hfits
    exact hfits
  · rename_i hread
    rw [hread] at hfits
    exact hfits

/-! ### The text of what was read -/

mutual

/-- A value whose numbers are integers that fit has no float in it. -/
theorem integral_of_numbers : ∀ v : Value,
    (∀ n ∈ v.numbers, n.fits = true ∧ ∀ x, n ≠ .float x) → v.integral = true
  | .null, _ => rfl
  | .boolean _, _ => rfl
  | .string _, _ => rfl
  | .number (.integer _), h => (h _ List.mem_cons_self).1
  | .number (.float x), h => absurd rfl ((h _ List.mem_cons_self).2 x)
  | .array items, h => integralItems_of_numbers items h
  | .object members, h => integralMembers_of_numbers members h

theorem integralItems_of_numbers : ∀ items : List Value,
    (∀ n ∈ itemNumbers items, n.fits = true ∧ ∀ x, n ≠ .float x) → integralItems items = true
  | [], _ => rfl
  | v :: rest, h => by
      obtain ⟨hv, hrest⟩ := List.forall_mem_append.mp h
      rw [integralItems, integral_of_numbers v hv, integralItems_of_numbers rest hrest]
      rfl

theorem integralMembers_of_numbers : ∀ members : List (String × Value),
    (∀ n ∈ memberNumbers members, n.fits = true ∧ ∀ x, n ≠ .float x) →
      integralMembers members = true
  | [], _ => rfl
  | (_, v) :: rest, h => by
      obtain ⟨hv, hrest⟩ := List.forall_mem_append.mp h
      rw [integralMembers, integral_of_numbers v hv, integralMembers_of_numbers rest hrest]
      rfl

end

/-- **A value that was read** of a text is read again of its own text, if no number in it is a
float. -/
theorem ofText?_compact {v : Value} (hread : v.Rereads nestingLimit) (h : v.integral = true) :
    Value.ofText? v.compact = some v := by
  have hany : anyValue 0 (.ofValue v) = .ok v := by
    rw [anyValue, Nat.sub_zero, show (Raw.ofValue v).toValue? nestingLimit = some v from hread]
  rw [Value.ofText?, (isText_compact h).decodeText_eq, hany]

end Provisioning.Json
