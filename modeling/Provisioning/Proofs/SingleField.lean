/-
**Records of one field, and lists of them.**

What the backend answers in earnest is made of records of which one field is wanted: the name of a
cluster, the containers of a group, the state of a container.  Of such a record two things are to be
said.  It is read if it has the form of a record and what is given for the field can be read, where
the field need not be given at all; and then it holds what was read, or what it held before.  Both
are said of a value that was read before, and so they can be said of the values inside it in turn,
field in list in field.

An object must not have two members of the name, and this is where it counts that a value was read:
it holds of every object inside such a value, however deep.

Main definitions:

* `Json.Value.holds` — **the values that are read as a record of one field**;
* `Json.Value.lists` — the values that are read as a list.

Main results:

* `Json.isOk_record` — which values are read as a record of one field;
* `Json.record_eq_ok_given`, `Json.textRecord_eq_ok` — what such a record holds;
* `Json.isOk_list`, `Json.list_eq_ok` — the same for lists;
* `Json.Value.WasRead.given`, `Json.Value.WasRead.item` — what is inside a value was read as well.
-/

import Provisioning.Proofs.GivenFields

set_option relaxedAutoImplicit false
set_option autoImplicit false

namespace Provisioning.Json

/-! ### Which records are read -/

/-- **A record of one field**: an object whose member of that name, if there is one, is as `p` asks,
or an array with at most one item, which is as `p` asks. -/
def Value.holds (name : String) (p : Value → Bool) : Value → Bool
  | .object members => (members.lookup name).all p
  | .array items => items.length ≤ 1 && items.all p
  | _ => false

section Records

variable {σ α : Type} {name title : String} {d : Decoder α} {set : α → σ → σ} {start : σ}
  {p : Value → Bool}

/-- A field is stored if its value is read. -/
theorem isOk_store (r : Raw) (s : σ) :
    ((RecordField.of name d set).store r s).isOk = (d r).isOk := by
  simp only [RecordField.of]
  cases d r with
  | error e => rfl
  | ok a => rfl

/-- Members of other names are skipped. -/
theorem storeMembers_of_not_mem {members : List (String × Value)} (seen : List String) (s : σ)
    (h : name ∉ members.map (·.1)) :
    storeMembers [.of name d set] (rawMembers members) seen s = .ok s := by
  induction members with
  | nil => rfl
  | cons m rest ih =>
      obtain ⟨other, v⟩ := m
      obtain ⟨hother, hrest⟩ := not_or.mp (mt List.mem_cons.mpr h)
      have hunknown : [RecordField.of name d set].find? (·.name == other) = none := by
        simp [RecordField.of, hother]
      rw [rawMembers, storeMembers_unknown _ _ _ _ _ _ hunknown (sound_ofValue v)]
      exact ih hrest

/-- The member of the name decides, where there is one. -/
theorem isOk_storeMembers {members : List (String × Value)} (s : σ)
    (h : (members.map (·.1)).Nodup)
    (hd : ∀ w, members.lookup name = some w → (d (.ofValue w)).isOk = p w) :
    (storeMembers [.of name d set] (rawMembers members) [] s).isOk =
      (members.lookup name).all p := by
  induction members with
  | nil => rfl
  | cons m rest ih =>
      obtain ⟨other, v⟩ := m
      obtain ⟨hother, hrest⟩ := List.nodup_cons.mp h
      by_cases hname : name = other
      · -- The name occurs once only, so all members behind it are skipped.
        subst hname
        rw [List.lookup_cons_self] at hd ⊢
        have hfield : [RecordField.of name d set].find? (·.name == name) =
            some (.of name d set) := List.find?_cons_of_pos (beq_self_eq_true name)
        have hstore : ((RecordField.of name d set).store (.ofValue v) s).isOk = p v :=
          (isOk_store _ s).trans (hd v rfl)
        rw [Option.all_some, ← hstore, rawMembers, storeMembers]
        simp only [hfield, List.contains_nil, Bool.false_eq_true, if_false]
        cases (RecordField.of name d set).store (.ofValue v) s with
        | error e => rfl
        | ok next => exact congrArg Except.isOk (storeMembers_of_not_mem [name] next hother)
      · have hunknown : [RecordField.of name d set].find? (·.name == other) = none := by
          simp [RecordField.of, hname]
        have hlookup : ((other, v) :: rest).lookup name = rest.lookup name := by
          rw [List.lookup_cons, beq_false_of_ne hname]
        rw [hlookup] at hd ⊢
        rw [rawMembers, storeMembers_unknown _ _ _ _ _ _ hunknown (sound_ofValue v)]
        exact ih hrest hd

/-- At most one item is taken. -/
theorem isOk_storeItems (items : List Value)
    (hd : ∀ w, items[0]? = some w → (d (.ofValue w)).isOk = p w) :
    (decodeValue (record .value title start [.of name d set]) (.array items)).isOk =
      (Value.array items).holds name p := by
  rw [decodeValue, Raw.ofValue, record, rawItems_eq_map]
  rcases items with - | ⟨v, - | ⟨w, rest⟩⟩
  · rfl
  · have hstore := (@isOk_store σ α name d set (.ofValue v) start).trans (hd v rfl)
    rw [Value.holds, List.all_cons, List.all_nil, Bool.and_true, ← hstore, List.map_cons,
      storeItems]
    cases (RecordField.of name d set).store (.ofValue v) start with
    | error e => rfl
    | ok next => rfl
  · rw [List.map_cons, storeItems]
    cases (RecordField.of name d set).store (.ofValue v) start with
    | error e => rfl
    | ok next => rfl

/-- **Which values are read as a record of one field.** -/
theorem isOk_record {v : Value} (htidy : v.Tidy)
    (hd : ∀ w, v.given? 0 name = some w → (d (.ofValue w)).isOk = p w) :
    (decodeValue (record .value title start [.of name d set]) v).isOk = v.holds name p := by
  cases v with
  | null => rfl
  | boolean b => rfl
  | number n => rfl
  | string s => rfl
  | array items => exact isOk_storeItems items hd
  | object members =>
      have hmembers := @isOk_storeMembers σ α name d set p members start htidy hd
      rw [Value.holds, ← hmembers]
      change (storeMembers [.of name d set] (rawMembers members) [] start >>= _).isOk = _
      cases storeMembers [.of name d set] (rawMembers members) [] start with
      | error e => rfl
      | ok next => rfl

/-- **What a record of one field holds** is what was given, or what it held before. -/
theorem record_eq_ok_given {get : σ → α} (hget : ∀ a s, get (set a s) = a) {v : Value} {t : σ}
    (h : decodeValue (record .value title start [.of name d set]) v = .ok t) :
    IsGiven d ((v.given? 0 name).map .ofValue) (get start) (get t) := by
  have hapart : Apart name set get ([] ++ [] : List (RecordField σ)) := ⟨hget, nofun, nofun⟩
  have hgiven := record_given hapart h
  rwa [given?_ofValue] at hgiven

end Records

/-! ### Records of a text -/

/-- The text of a value that is a string or null. -/
theorem optional_text_eq_ok {v : Value} {word : Option String}
    (h : optional text (.ofValue v) = .ok word) : word = v.string? := by
  cases v with
  | null =>
      obtain rfl := Except.ok.inj h
      rfl
  | string s =>
      obtain rfl := Except.ok.inj h
      rfl
  | boolean b => cases h
  | number n => cases h
  | array items => cases h
  | object members => cases h

/-- **What a record of one text holds** is the text that was given, if one was. -/
theorem textRecord_eq_ok {name title : String} {v : Value} {word : Option String}
    (h : decodeValue (record .value title none [.of name (optional text) fun word _ => word]) v =
      .ok word) : word = (v.given? 0 name).bind Value.string? := by
  have hgiven : IsGiven (optional text) ((v.given? 0 name).map .ofValue) none word :=
    @record_eq_ok_given _ _ _ _ _ _ _ id (fun _ _ => rfl) v word h
  cases hword : v.given? 0 name with
  | none =>
      rw [hword] at hgiven
      exact hgiven
  | some w =>
      rw [hword] at hgiven
      exact optional_text_eq_ok hgiven

/-! ### Lists -/

/-- A list of values that are as `p` asks. -/
def Value.lists (p : Value → Bool) : Value → Bool
  | .array items => items.all p
  | _ => false

section Lists

variable {α : Type} {d : Decoder α} {p : Value → Bool}

/-- A list is read item by item. -/
theorem isOk_mapM {items : List Value} (hd : ∀ w ∈ items, (d (.ofValue w)).isOk = p w) :
    ((rawItems items).mapM d).isOk = items.all p := by
  induction items with
  | nil => rfl
  | cons w rest ih =>
      obtain ⟨hw, hrest⟩ := List.forall_mem_cons.mp hd
      rw [rawItems, List.mapM_cons, List.all_cons, ← hw, ← ih hrest]
      cases d (.ofValue w) with
      | error e => rfl
      | ok a =>
          cases (rawItems rest).mapM d with
          | error e => rfl
          | ok others => rfl

/-- **Which values are read as a list.** -/
theorem isOk_list {v : Value}
    (hd : ∀ items, v = .array items → ∀ w ∈ items, (d (.ofValue w)).isOk = p w) :
    (decodeValue (list d) v).isOk = v.lists p := by
  cases v with
  | null => rfl
  | boolean b => rfl
  | number n => rfl
  | string s => rfl
  | object members => rfl
  | array items =>
      rw [Value.lists, ← isOk_mapM (hd items rfl)]
      change ((rawItems items).mapM d >>= _).isOk = _
      cases (rawItems items).mapM d with
      | error e => rfl
      | ok read => rfl

/-- **What a list holds** was read item by item. -/
theorem list_eq_ok {v : Value} {read : List α} (h : decodeValue (list d) v = .ok read) :
    ∃ items, v = .array items ∧ (rawItems items).mapM d = .ok read := by
  cases v with
  | null => cases h
  | boolean b => cases h
  | number n => cases h
  | string s => cases h
  | object members => cases h
  | array items =>
      obtain ⟨others, hothers, h⟩ := bind_eq_ok_iff.mp h
      obtain rfl := Except.ok.inj h
      exact ⟨items, rfl, hothers⟩

/-- The first item of a list. -/
def Value.first? : Value → Option Value
  | .array (w :: _) => some w
  | _ => none

/-- The first of what a list holds was read of the first item, and there is none without one. -/
theorem head?_of_list {v : Value} {read : List α} (h : decodeValue (list d) v = .ok read) :
    match v.first? with
    | some w => ∃ a, d (.ofValue w) = .ok a ∧ read.head? = some a
    | none => read.head? = none := by
  obtain ⟨items, rfl, hread⟩ := list_eq_ok h
  cases items with
  | nil =>
      obtain rfl := Except.ok.inj hread
      rfl
  | cons w rest =>
      rw [rawItems, List.mapM_cons] at hread
      obtain ⟨a, ha, hread⟩ := bind_eq_ok_iff.mp hread
      obtain ⟨others, -, hread⟩ := bind_eq_ok_iff.mp hread
      obtain rfl := Except.ok.inj hread
      exact ⟨a, ha, rfl⟩

end Lists

/-! ### Inside a value that was read -/

/-- **A value that was read** of some tree. -/
def Value.WasRead (v : Value) : Prop := ∃ limit r, Raw.toValue? limit r = some v

theorem Value.WasRead.tidy {v : Value} (h : v.WasRead) : v.Tidy := by
  obtain ⟨limit, r, h⟩ := h
  exact tidy_of_toValue? h

/-- Null is read everywhere. -/
theorem Value.wasRead_null : Value.null.WasRead := ⟨0, .null, rfl⟩

theorem wasRead_of_itemValues? {limit : Nat} {rs : List Raw} {items : List Value}
    (h : itemValues? limit rs = some items) : ∀ w ∈ items, w.WasRead := by
  induction rs generalizing items with
  | nil =>
      obtain rfl := Option.some.inj h
      exact nofun
  | cons r rest ih =>
      rw [itemValues?] at h
      split at h
      · rename_i v hv
        obtain ⟨others, hothers, rfl⟩ := Option.map_eq_some_iff.mp h
        exact List.forall_mem_cons.mpr ⟨⟨limit, r, hv⟩, ih hothers⟩
      · cases h

theorem wasRead_of_memberValues? {limit : Nat} {rs : List (Option String × Raw)}
    {before members : List (String × Value)} (hbefore : ∀ m ∈ before, m.2.WasRead)
    (h : memberValues? limit rs before = some members) : ∀ m ∈ members, m.2.WasRead := by
  induction rs generalizing before with
  | nil =>
      rw [memberValues?] at h
      obtain rfl := Option.some.inj h
      exact hbefore
  | cons r rest ih =>
      rcases r with ⟨_ | name, r⟩
      · rw [memberValues?] at h
        cases h
      · rw [memberValues?] at h
        split at h
        · rename_i v hv
          refine ih (fun m hm => ?_) h
          rcases mem_put hm with rfl | hm
          · exact ⟨limit, r, hv⟩
          · exact hbefore m hm
        · cases h

/-- A scalar gives nothing for a field. -/
theorem given?_of_isScalar {v : Value} (h : v.isScalar = true) (place : Nat) (name : String) :
    v.given? place name = none := by
  cases v with
  | array items => cases h
  | object members => cases h
  | null => rfl
  | boolean b => rfl
  | number n => rfl
  | string s => rfl

/-- **What is given for a field** of a value that was read, was read. -/
theorem Value.WasRead.given {v w : Value} {place : Nat} {name : String} (h : v.WasRead)
    (hw : v.given? place name = some w) : w.WasRead := by
  obtain ⟨limit, r, h⟩ := h
  rcases toValue?_eq_some h with ⟨rs, items, rfl, hitems⟩ | ⟨rs, members, rfl, hmembers⟩ | hscalar
  · exact wasRead_of_itemValues? hitems w (List.mem_of_getElem? hw)
  · have hnone : ∀ m ∈ ([] : List (String × Value)), m.2.WasRead := List.forall_mem_nil _
    obtain ⟨front, back, rfl, _⟩ := List.lookup_eq_some_iff.mp hw
    exact wasRead_of_memberValues? hnone hmembers (name, w)
      (List.mem_append_right _ List.mem_cons_self)
  · rw [given?_of_isScalar hscalar] at hw
    cases hw

/-- **The items of an array** that was read, were read. -/
theorem Value.WasRead.item {items : List Value} (h : (Value.array items).WasRead) :
    ∀ w ∈ items, w.WasRead := by
  intro w hw
  obtain ⟨place, hplace⟩ := List.mem_iff_getElem?.mp hw
  exact @given (.array items) w place "" h hplace

end Provisioning.Json
