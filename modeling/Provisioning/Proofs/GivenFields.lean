/-
**What a record has from its text.**

A record may be written as an object or as an array of its fields, members that are not known are
skipped, and fields that are not given keep a default.  So two questions about a record that was
read are not answered by its type: was a field given at all, and was it this value?  A default that
looks like a given value can turn a missing consent into a consent.

The answer is found in the tree of the text without reading it: the value that is given for a field
is the member of its name in an object, and the item in its place in an array.  There is only one
such member, or the record is not read.  If there is one then the field holds what was read of it,
and if not then the field is as it was at the start, whatever else the text says.

Main definitions:

* `Json.Raw.given?`, `Json.Value.given?` — **what is given** for a field;
* `Json.IsGiven` — a value is what was given, or else what it was before.

Main results:

* `Json.record_given` — **every field of a record that was read is what was given**.
-/

import Provisioning.Proofs.DecodedValue

set_option relaxedAutoImplicit false
set_option autoImplicit false

namespace Provisioning.Json

/-- **What is given** for a field: the member of its name, or the item in its place. -/
def Raw.given? (place : Nat) (name : String) : Raw → Option Raw
  | .object members _ => (members.find? (·.1 == some name)).map (·.2)
  | .array items _ => items[place]?
  | _ => none

/-- What a value that was read before gives for a field. -/
def Value.given? (place : Nat) (name : String) : Value → Option Value
  | .object members => members.lookup name
  | .array items => items[place]?
  | _ => none

theorem find?_rawMembers (name : String) (members : List (String × Value)) :
    ((rawMembers members).find? (·.1 == some name)).map (·.2) =
      (members.lookup name).map Raw.ofValue := by
  induction members with
  | nil => rfl
  | cons m rest ih =>
      obtain ⟨other, v⟩ := m
      by_cases hother : other = name
      · subst hother
        rw [rawMembers, List.lookup_cons_self, List.find?_cons_of_pos]
        · rfl
        · exact beq_self_eq_true (some other)
      · rw [rawMembers, List.lookup_cons, beq_false_of_ne (Ne.symm hother), List.find?_cons_of_neg]
        · exact ih
        · simpa using hother

theorem rawItems_eq_map (items : List Value) : rawItems items = items.map Raw.ofValue := by
  induction items with
  | nil => rfl
  | cons v rest ih => rw [rawItems, ih, List.map_cons]

/-- The tree of a value gives what the value gives. -/
theorem given?_ofValue (place : Nat) (name : String) (v : Value) :
    (Raw.ofValue v).given? place name = (v.given? place name).map Raw.ofValue := by
  cases v with
  | object members => exact find?_rawMembers name members
  | array items =>
      rw [Raw.ofValue, Raw.given?, rawItems_eq_map, List.getElem?_map]
      rfl
  | null => rfl
  | boolean b => rfl
  | number n => rfl
  | string s => rfl

variable {σ α : Type}

/-- A value is what was read of the given tree, or else what it was before. -/
def IsGiven (d : Decoder α) (given : Option Raw) (was is : α) : Prop :=
  match given with
  | some r => d r = .ok is
  | none => is = was

/-! ### One field among others -/

/-- **A field among others** of a record: `get` finds in the record what the field stores, and the
other fields have other names and do not touch it. -/
structure Apart (name : String) (set : α → σ → σ) (get : σ → α) (others : List (RecordField σ)) :
    Prop where
  get_set (a : α) (s : σ) : get (set a s) = a
  name_ne : ∀ field ∈ others, field.name ≠ name
  keeps : ∀ field ∈ others, ∀ a, field.Keeps fun s => get s = a

variable {name : String} {d : Decoder α} {set : α → σ → σ} {get : σ → α}
  {before after : List (RecordField σ)}

namespace Apart

/-- The field is the one of its name. -/
theorem find?_name (hapart : Apart name set get (before ++ after)) :
    (before ++ RecordField.of name d set :: after).find? (·.name == name) =
      some (RecordField.of name d set) := by
  have hbefore : before.find? (·.name == name) = none := by
    refine List.find?_eq_none.mpr fun field hfield => ?_
    have hne := hapart.name_ne field (List.mem_append_left _ hfield)
    simpa using hne
  rw [List.find?_append, hbefore, Option.none_or, List.find?_cons_of_pos]
  exact beq_self_eq_true name

/-- A field of another name is one of the others. -/
theorem keeps_of_find? (hapart : Apart name set get (before ++ after)) {other : String}
    (hother : other ≠ name) {field : RecordField σ}
    (hfind : (before ++ RecordField.of name d set :: after).find? (·.name == other) = some field)
    (a : α) : field.Keeps fun s => get s = a := by
  have hname : field.name = other := by simpa using List.find?_some hfind
  have hmem := List.mem_of_find?_eq_some hfind
  rw [List.mem_append, List.mem_cons] at hmem
  rcases hmem with hbefore | rfl | hafter
  · exact hapart.keeps field (List.mem_append_left _ hbefore) a
  · exact absurd hname.symm hother
  · exact hapart.keeps field (List.mem_append_right _ hafter) a

/-- A field that was stored already is not stored again. -/
theorem get_of_seen (hapart : Apart name set get (before ++ after))
    {members : List (Option String × Raw)} {seen : List String} {s t : σ} (hseen : name ∈ seen)
    (h : storeMembers (before ++ RecordField.of name d set :: after) members seen s = .ok t) :
    get t = get s := by
  induction members generalizing seen s with
  | nil =>
      obtain rfl := Except.ok.inj h
      rfl
  | cons m rest ih =>
      obtain ⟨other, _, ⟨_, h⟩ | ⟨field, next, hfield, hnew, hstore, h⟩⟩ := storeMembers_cons h
      · exact ih hseen h
      · have hother : other ≠ name := by
          rintro rfl
          exact hnew hseen
        rw [ih (List.mem_cons_of_mem other hseen) h]
        exact hapart.keeps_of_find? hother hfield (get s) m.2 s next rfl hstore

/-- **The member of an object.** -/
theorem isGiven_of_members (hapart : Apart name set get (before ++ after))
    {members : List (Option String × Raw)} {seen : List String} {s t : σ} (hseen : name ∉ seen)
    (h : storeMembers (before ++ RecordField.of name d set :: after) members seen s = .ok t) :
    IsGiven d ((members.find? (·.1 == some name)).map (·.2)) (get s) (get t) := by
  induction members generalizing seen s with
  | nil =>
      obtain rfl := Except.ok.inj h
      rfl
  | cons m rest ih =>
      obtain ⟨key, r⟩ := m
      obtain ⟨other, rfl, hcases⟩ := storeMembers_cons h
      by_cases hother : other = name
      · -- This is the member, and there is no other one behind it.
        subst hother
        have hhere : ((some other, r) :: rest).find? (·.1 == some other) = some (some other, r) :=
          List.find?_cons_of_pos (beq_self_eq_true (some other))
        rcases hcases with ⟨hunknown, _⟩ | ⟨field, next, hfield, _, hstore, h⟩
        · cases hapart.find?_name.symm.trans hunknown
        · obtain rfl := Option.some.inj (hapart.find?_name.symm.trans hfield)
          obtain ⟨a, hread, rfl⟩ := store_of_eq_ok hstore
          rw [hhere, hapart.get_of_seen List.mem_cons_self h, hapart.get_set]
          exact hread
      · have hbehind : ((some other, r) :: rest).find? (·.1 == some name) =
            rest.find? (·.1 == some name) := by
          refine List.find?_cons_of_neg ?_
          simpa using hother
        rw [hbehind]
        rcases hcases with ⟨_, h⟩ | ⟨field, next, hfield, _, hstore, h⟩
        · exact ih hseen h
        · have hkept : get next = get s :=
            hapart.keeps_of_find? hother hfield (get s) r s next rfl hstore
          have hnew : name ∉ other :: seen :=
            mt List.mem_cons.mp (not_or.mpr ⟨Ne.symm hother, hseen⟩)
          rw [← hkept]
          exact ih hnew h

/-- **The item of an array.** -/
theorem isGiven_of_items (hapart : Apart name set get (before ++ after)) {items excess : List Raw}
    {s t : σ} (h : storeItems (before ++ RecordField.of name d set :: after) items s =
      .ok (t, excess)) : IsGiven d items[before.length]? (get s) (get t) := by
  induction before generalizing items s with
  | nil =>
      cases items with
      | nil =>
          obtain ⟨rfl, rfl⟩ := Prod.mk.inj (Except.ok.inj h)
          rfl
      | cons r items =>
          obtain ⟨next, hstore, h⟩ := bind_eq_ok_iff.mp h
          obtain ⟨a, hread, rfl⟩ := store_of_eq_ok hstore
          have hkept : get t = get (set a s) :=
            storeItems_keeps (fun field hfield => hapart.keeps field hfield (get (set a s))) rfl h
          rw [hkept, hapart.get_set]
          exact hread
  | cons field before ih =>
      cases items with
      | nil =>
          obtain ⟨rfl, rfl⟩ := Prod.mk.inj (Except.ok.inj h)
          rfl
      | cons r items =>
          obtain ⟨next, hstore, h⟩ := bind_eq_ok_iff.mp h
          have hkept : get next = get s :=
            hapart.keeps field List.mem_cons_self (get s) r s next rfl hstore
          have hrest : Apart name set get (before ++ after) :=
            ⟨hapart.get_set, fun f hf => hapart.name_ne f (List.mem_cons_of_mem field hf),
              fun f hf => hapart.keeps f (List.mem_cons_of_mem field hf)⟩
          rw [← hkept]
          exact ih hrest h

end Apart

/-- **Every field of a record that was read is what was given**, or as it was at the start. -/
theorem record_given (hapart : Apart name set get (before ++ after)) {source : Source}
    {title : String} {start t : σ} {r : Raw}
    (h : record source title start (before ++ RecordField.of name d set :: after) r = .ok t) :
    IsGiven d (r.given? before.length name) (get start) (get t) := by
  rcases record_eq_ok h with ⟨members, rfl, hmembers⟩ | ⟨items, rfl, hitems⟩
  · exact hapart.isGiven_of_members List.not_mem_nil hmembers
  · exact hapart.isGiven_of_items hitems

end Provisioning.Json
