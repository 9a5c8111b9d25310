/-
**Values that were read before.**

An answer of the backend is read twice: its envelope out of the text, and then the free result of
the envelope into what the call expects.  In between stands a value, and what the second reader can
meet is less than what a text can hold: nothing in it is broken, and no object has two members of
one name, since the later one replaced the earlier one when the value was read.

The names of an object are moreover in ascending order, and this is the invariant that is kept
member by member; that they are distinct follows.

Main definitions:

* `Json.Ascending` — the names of a member list stand in ascending order;
* `Json.Value.Tidy` — **no name occurs twice** in an object.

Main results:

* `Json.sound_ofValue` — the tree of a value has no fault;
* `Json.toValue?_eq_some` — what a value was read of;
* `Json.tidy_of_toValue?` — **every value that was read is tidy**;
* `Json.record_eq_ok` — how a record was read.
-/

import Provisioning.Json.Decode

set_option relaxedAutoImplicit false
set_option autoImplicit false

namespace Provisioning.Json

/-! ### Trees of values -/

mutual

/-- The tree of a value has no fault. -/
theorem sound_ofValue : ∀ v : Value, (Raw.ofValue v).sound = true
  | .null => rfl
  | .boolean _ => rfl
  | .number _ => rfl
  | .string _ => rfl
  | .array items => by rw [Raw.ofValue, Raw.sound, soundItems_rawItems items]; rfl
  | .object members => by rw [Raw.ofValue, Raw.sound, soundMembers_rawMembers members]; rfl

theorem soundItems_rawItems : ∀ items : List Value, soundItems (rawItems items) = true
  | [] => rfl
  | v :: rest => by rw [rawItems, soundItems, sound_ofValue v, soundItems_rawItems rest]; rfl

theorem soundMembers_rawMembers :
    ∀ members : List (String × Value), soundMembers (rawMembers members) = true
  | [] => rfl
  | (_, v) :: rest => by
      rw [rawMembers, soundMembers, sound_ofValue v, soundMembers_rawMembers rest]; rfl

end

/-! ### Names in their order -/

/-- The names of a member list stand in ascending order. -/
def Ascending (members : List (String × Value)) : Prop :=
  (members.map (·.1)).Pairwise (· < ·)

/-- With one member more there is that one, and those that were there before. -/
theorem mem_put {name : String} {v : Value} {members : List (String × Value)} {m : String × Value}
    (h : m ∈ Members.put name v members) : m = (name, v) ∨ m ∈ members := by
  induction members with
  | nil => exact .inl (List.mem_singleton.mp h)
  | cons other rest ih =>
      obtain ⟨third, w⟩ := other
      unfold Members.put at h
      split at h
      · exact (List.mem_cons.mp h).imp id (List.mem_cons_of_mem _)
      · split at h
        · exact List.mem_cons.mp h
        · rcases List.mem_cons.mp h with rfl | h
          · exact .inr List.mem_cons_self
          · exact (ih h).imp id (List.mem_cons_of_mem _)

theorem mem_names_put {name other : String} {v : Value} {members : List (String × Value)}
    (h : other ∈ (Members.put name v members).map (·.1)) :
    other = name ∨ other ∈ members.map (·.1) := by
  obtain ⟨m, hm, rfl⟩ := List.mem_map.mp h
  rcases mem_put hm with rfl | hm
  · exact .inl rfl
  · exact .inr (List.mem_map_of_mem hm)

/-- A member more keeps the order. -/
theorem Ascending.put {members : List (String × Value)} (h : Ascending members) (name : String)
    (v : Value) : Ascending (Members.put name v members) := by
  induction members with
  | nil => exact List.pairwise_singleton _ _
  | cons m rest ih =>
      obtain ⟨other, w⟩ := m
      obtain ⟨hother, hrest⟩ := List.pairwise_cons.mp h
      unfold Members.put
      split
      · rename_i hsame
        subst hsame
        exact List.pairwise_cons.mpr ⟨hother, hrest⟩
      · rename_i hne
        split
        · rename_i hlt
          refine List.pairwise_cons.mpr ⟨?_, h⟩
          intro third hthird
          rcases List.mem_cons.mp hthird with rfl | hthird
          · exact hlt
          · exact String.lt_trans hlt (hother third hthird)
        · rename_i hnlt
          -- The name belongs further back, where it meets only names behind `other`.
          have hlt : other < name :=
            String.not_le.mp fun hle => hne (String.le_antisymm hle (String.not_lt.mp hnlt))
          refine List.pairwise_cons.mpr ⟨?_, ih hrest⟩
          intro third hthird
          rcases mem_names_put hthird with rfl | hthird
          · exact hlt
          · exact hother third hthird

/-- **No name occurs twice** in an object. -/
def Value.Tidy : Value → Prop
  | .object members => (members.map (·.1)).Nodup
  | _ => True

theorem Ascending.nodup {members : List (String × Value)} (h : Ascending members) :
    (members.map (·.1)).Nodup :=
  List.Pairwise.imp String.ne_of_lt h

theorem ascending_of_memberValues? {limit : Nat} {members : List (Option String × Raw)}
    {before values : List (String × Value)} (hbefore : Ascending before)
    (h : memberValues? limit members before = some values) : Ascending values := by
  induction members generalizing before with
  | nil =>
      rw [memberValues?] at h
      obtain rfl := Option.some.inj h
      exact hbefore
  | cons m rest ih =>
      rcases m with ⟨_ | name, r⟩
      · rw [memberValues?] at h
        cases h
      · rw [memberValues?] at h
        split at h
        · exact ih (hbefore.put name _) h
        · cases h

/-- Whether a value is neither an array nor an object. -/
def Value.isScalar : Value → Bool
  | .array _ | .object _ => false
  | _ => true

/-- **What a value was read of**: its items or members were read before it, if it has any. -/
theorem toValue?_eq_some {limit : Nat} {r : Raw} {v : Value} (h : r.toValue? limit = some v) :
    (∃ rs items, v = .array items ∧ itemValues? (limit - 1) rs = some items) ∨
      (∃ rs members, v = .object members ∧ memberValues? (limit - 1) rs [] = some members) ∨
        v.isScalar = true := by
  cases r with
  | array rs closed =>
      rw [Raw.toValue?] at h
      split at h
      · cases h
      · split at h
        · rename_i items hitems
          split at h
          · exact .inl ⟨rs, items, (Option.some.inj h).symm, hitems⟩
          · cases h
        · cases h
  | object rs closed =>
      rw [Raw.toValue?] at h
      split at h
      · cases h
      · split at h
        · rename_i members hmembers
          split at h
          · exact .inr (.inl ⟨rs, members, (Option.some.inj h).symm, hmembers⟩)
          · cases h
        · cases h
  | broken => cases h
  | null =>
      obtain rfl := Option.some.inj h
      exact .inr (.inr rfl)
  | boolean b =>
      obtain rfl := Option.some.inj h
      exact .inr (.inr rfl)
  | number n =>
      obtain ⟨_, _, rfl⟩ := Option.map_eq_some_iff.mp h
      exact .inr (.inr rfl)
  | string s =>
      obtain ⟨_, _, rfl⟩ := Option.map_eq_some_iff.mp h
      exact .inr (.inr rfl)

/-- **Every value that was read is tidy.** -/
theorem tidy_of_toValue? {limit : Nat} {r : Raw} {v : Value} (h : r.toValue? limit = some v) :
    v.Tidy := by
  rcases toValue?_eq_some h with ⟨_, items, rfl, _⟩ | ⟨_, members, rfl, hmembers⟩ | hscalar
  · trivial
  · have hnil : Ascending [] := List.Pairwise.nil
    exact (ascending_of_memberValues? hnil hmembers).nodup
  · cases v with
    | array items => cases hscalar
    | object members => cases hscalar
    | null => trivial
    | boolean b => trivial
    | number n => trivial
    | string s => trivial

/-! ### Records -/

/-- Two steps of a reader succeed one after the other. -/
theorem bind_eq_ok_iff {ε α β : Type} {x : Except ε α} {f : α → Except ε β} {b : β} :
    x >>= f = .ok b ↔ ∃ a, x = .ok a ∧ f a = .ok b := by
  cases x with
  | error e => exact ⟨nofun, nofun⟩
  | ok a => exact ⟨fun h => ⟨a, rfl, h⟩, fun ⟨_, rfl, h⟩ => h⟩

/-- A field stores what it has read. -/
theorem store_of_eq_ok {σ α : Type} {name : String} {d : Decoder α} {set : α → σ → σ} {r : Raw}
    {s t : σ} (h : (RecordField.of name d set).store r s = .ok t) :
    ∃ a, d r = .ok a ∧ set a s = t := by
  cases hd : d r with
  | error e => simp [RecordField.of, hd, Except.map] at h
  | ok a =>
      simp only [RecordField.of, hd, Except.map, Except.ok.injEq] at h
      exact ⟨a, rfl, h⟩

/-- What a field keeps, whatever it is given. -/
def RecordField.Keeps {σ : Type} (field : RecordField σ) (p : σ → Prop) : Prop :=
  ∀ r s t, p s → field.store r s = .ok t → p t

/-- A field keeps what its values keep. -/
theorem RecordField.keeps_of {σ α : Type} {name : String} {d : Decoder α} {set : α → σ → σ}
    {p : σ → Prop} (h : ∀ r a s, d r = .ok a → p s → p (set a s)) :
    (RecordField.of name d set).Keeps p := by
  intro r s t hs hstore
  obtain ⟨a, hread, rfl⟩ := store_of_eq_ok hstore
  exact h r a s hread hs

variable {σ : Type} {fields : List (RecordField σ)} {p : σ → Prop}

/-- **What is done with a member**: it is skipped if it is not known, and else it is stored, for the
first time. -/
theorem storeMembers_cons {key : Option String} {r : Raw}
    {rest : List (Option String × Raw)} {seen : List String} {s t : σ}
    (h : storeMembers fields ((key, r) :: rest) seen s = .ok t) :
    ∃ other, key = some other ∧
      ((fields.find? (·.name == other) = none ∧ storeMembers fields rest seen s = .ok t) ∨
        ∃ field next, fields.find? (·.name == other) = some field ∧ other ∉ seen ∧
          field.store r s = .ok next ∧ storeMembers fields rest (other :: seen) next = .ok t) := by
  cases key with
  | none => cases h
  | some other =>
      refine ⟨other, rfl, ?_⟩
      rw [storeMembers] at h
      split at h
      · rename_i hunknown
        split at h
        · exact .inl ⟨hunknown, h⟩
        · cases h
      · rename_i field hfield
        split at h
        · cases h
        · rename_i hnew
          obtain ⟨next, hstore, h⟩ := bind_eq_ok_iff.mp h
          exact .inr ⟨field, next, hfield, mt List.contains_iff_mem.mpr hnew, hstore, h⟩

theorem storeItems_keeps (hfields : ∀ field ∈ fields, field.Keeps p) {items rest : List Raw}
    {s t : σ} (hs : p s) (h : storeItems fields items s = .ok (t, rest)) : p t := by
  induction fields generalizing items s with
  | nil =>
      obtain ⟨rfl, rfl⟩ := Prod.mk.inj (Except.ok.inj h)
      exact hs
  | cons field fields ih =>
      cases items with
      | nil =>
          obtain ⟨rfl, rfl⟩ := Prod.mk.inj (Except.ok.inj h)
          exact hs
      | cons r items =>
          obtain ⟨next, hstore, h⟩ := bind_eq_ok_iff.mp h
          obtain ⟨hfield, hfields⟩ := List.forall_mem_cons.mp hfields
          exact ih hfields (hfield r s next hs hstore) h

/-- **How a record was read**: it is a whole object whose members were stored, or a whole array all
of whose items were stored. -/
theorem record_eq_ok {source : Source} {title : String} {start t : σ} {r : Raw}
    (h : record source title start fields r = .ok t) :
    (∃ members, r = .object members true ∧ storeMembers fields members [] start = .ok t) ∨
      ∃ items, r = .array items true ∧ storeItems fields items start = .ok (t, []) := by
  cases r with
  | object members closed =>
      obtain ⟨s, hmembers, h⟩ := bind_eq_ok_iff.mp h
      cases closed with
      | false => cases h
      | true =>
          obtain rfl := Except.ok.inj h
          exact .inl ⟨members, rfl, hmembers⟩
  | array items closed =>
      obtain ⟨⟨s, excess⟩, hitems, h⟩ := bind_eq_ok_iff.mp h
      cases excess with
      | nil =>
          cases closed with
          | false => cases h
          | true =>
              obtain rfl := Except.ok.inj h
              exact .inr ⟨items, rfl, hitems⟩
      | cons r excess =>
          cases source with
          | text => cases h
          | value => cases h
  | broken => cases h
  | null => cases h
  | boolean b => cases h
  | number n => cases h
  | string text => cases h

end Provisioning.Json
