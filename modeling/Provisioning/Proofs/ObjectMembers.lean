/-
**Which objects are read as a record.**

A record is read member by member, and a member can fail in more ways than one: by its name, which
need not be a text, by its value, or because its name was met before.  What counts in the end is
said here without going through the members in turn.  For every name there are the values that are
given for it, in the order of the text, and a record is read if there is none of them, or one that
its field can store, for every field.  What is given for other names only has to be readable.

Most decoders read one form of each of their results and nothing else, so that what was read says
what stood in the text.  Such a decoder is the inverse of what writes its results.

Main definitions:

* `Json.Reads` — **a decoder reads what is written**, and nothing else;
* `Json.valuesOf` — the values that are given for a name;
* `Json.States` — what an object states of a field.

Main results:

* `Json.reads_list`, `Json.reads_optional`, `Json.reads_text`, `Json.reads_int64` — the decoders
  that do;
* `Json.exists_storeMembers` — **objects that are read**;
* `Json.length_valuesOf_le` — no field of a record that was read is given twice;
* `Json.Apart.states` — **a field of a record that was read is what is stated**.
-/

import Provisioning.Proofs.GivenFields

set_option relaxedAutoImplicit false
set_option autoImplicit false

namespace Provisioning.Json

/-! ### Decoders that read what is written -/

section Decoders

variable {α : Type} {d : Decoder α} {written : α → Value}

/-- **A decoder reads what is written**, and nothing else. -/
def Reads (d : Decoder α) (written : α → Value) : Prop :=
  ∀ r a, d r = .ok a ↔ r = .ofValue (written a)

theorem reads_text : Reads text .string := by
  intro r s
  refine ⟨fun h => ?_, fun h => h ▸ rfl⟩
  cases r with
  | string given =>
      cases given with
      | some t =>
          obtain rfl := Except.ok.inj h
          rfl
      | none => cases h
  | broken => cases h
  | null => cases h
  | boolean b => cases h
  | number n => cases h
  | array items closed => cases h
  | object members closed => cases h

theorem fitsInt64_toInt (n : Int64) : fitsInt64 n.toInt = true := by
  rw [fitsInt64, Bool.and_eq_true, decide_eq_true_eq, decide_eq_true_eq]
  exact ⟨n.minValue_le_toInt, n.toInt_le⟩

theorem reads_int64 : Reads int64 fun n => .integer n.toInt := by
  intro r n
  constructor
  · intro h
    cases r with
    | number given =>
        cases given with
        | none => cases h
        | some given =>
            cases given with
            | float x => cases h
            | integer i =>
                rw [int64] at h
                split at h
                · rename_i hfits
                  rw [fitsInt64, Bool.and_eq_true, decide_eq_true_eq, decide_eq_true_eq] at hfits
                  obtain rfl := Except.ok.inj h
                  have hint : (Int64.ofInt i).toInt = i :=
                    Int64.toInt_ofInt_of_le hfits.1 (Int.lt_of_le_of_lt hfits.2 (by decide))
                  change _ = Raw.number (some (.integer (Int64.ofInt i).toInt))
                  rw [hint]
                · cases h
    | broken => cases h
    | null => cases h
    | boolean b => cases h
    | string s => cases h
    | array items closed => cases h
    | object members closed => cases h
  · rintro rfl
    change (if fitsInt64 n.toInt then _ else _) = _
    rw [if_pos (fitsInt64_toInt n), Int64.ofInt_toInt]

/-- Null, or what is written of something else. -/
def writtenOptional (written : α → Value) : Option α → Value
  | none => .null
  | some a => written a

theorem reads_optional (h : Reads d written) (hnull : ∀ a, written a ≠ .null) :
    Reads (optional d) (writtenOptional written) := by
  intro r given
  by_cases hr : r = .null
  · subst hr
    cases given with
    | none => exact ⟨fun _ => rfl, fun _ => rfl⟩
    | some a =>
        refine ⟨nofun, fun heq => ?_⟩
        cases hv : written a with
        | null => exact absurd hv (hnull a)
        | boolean b => rw [writtenOptional, hv] at heq; cases heq
        | number n => rw [writtenOptional, hv] at heq; cases heq
        | string s => rw [writtenOptional, hv] at heq; cases heq
        | array items => rw [writtenOptional, hv] at heq; cases heq
        | object members => rw [writtenOptional, hv] at heq; cases heq
  · rw [optional]
    · cases given with
      | none =>
          refine ⟨fun hread => ?_, fun heq => absurd heq hr⟩
          cases hd : d r with
          | ok a => rw [hd] at hread; cases hread
          | error e => rw [hd] at hread; cases hread
      | some a =>
          rw [writtenOptional, ← h r a]
          cases d r with
          | ok b => simp [Except.map]
          | error e => exact ⟨nofun, nofun⟩
    · exact hr

theorem mapM_eq_ok_iff (h : Reads d written) {items : List Raw} {read : List α} :
    items.mapM d = .ok read ↔ items = rawItems (read.map written) := by
  induction items generalizing read with
  | nil =>
      cases read with
      | nil => exact ⟨fun _ => rfl, fun _ => rfl⟩
      | cons a read => exact ⟨nofun, nofun⟩
  | cons r rest ih =>
      rw [List.mapM_cons, bind_eq_ok_iff]
      constructor
      · rintro ⟨a, ha, hrest⟩
        obtain ⟨others, hothers, hread⟩ := bind_eq_ok_iff.mp hrest
        obtain rfl := Except.ok.inj hread
        rw [(h r a).mp ha, ih.mp hothers]
        rfl
      · intro heq
        cases read with
        | nil => cases heq
        | cons a others =>
            obtain ⟨ha, hothers⟩ := List.cons.inj heq
            exact ⟨a, (h r a).mpr ha, bind_eq_ok_iff.mpr ⟨others, ih.mpr hothers, rfl⟩⟩

theorem reads_list (h : Reads d written) :
    Reads (list d) fun read => .array (read.map written) := by
  intro r read
  constructor
  · intro hread
    cases r with
    | array items closed =>
        obtain ⟨others, hothers, hread⟩ := bind_eq_ok_iff.mp hread
        cases closed with
        | false => cases hread
        | true =>
            obtain rfl := Except.ok.inj hread
            rw [(mapM_eq_ok_iff h).mp hothers]
            rfl
    | broken => cases hread
    | null => cases hread
    | boolean b => cases hread
    | number n => cases hread
    | string s => cases hread
    | object members closed => cases hread
  · rintro rfl
    exact bind_eq_ok_iff.mpr ⟨read, (mapM_eq_ok_iff h).mpr rfl, rfl⟩

/-- A field stores what is written of a value. -/
theorem Reads.store_eq_ok {σ : Type} (hd : Reads d written) {name : String} {set : α → σ → σ}
    (a : α) (s : σ) :
    (RecordField.of name d set).store (.ofValue (written a)) s = .ok (set a s) := by
  have hread := (hd _ a).mpr rfl
  simp only [RecordField.of, hread]
  rfl

end Decoders

/-! ### The values of a name -/

/-- **The values that are given for a name**, in the order of the text. -/
def valuesOf (name : String) (members : List (Option String × Raw)) : List Raw :=
  (members.filter (·.1 == some name)).map (·.2)

section Values

variable {σ : Type} {fields : List (RecordField σ)} {name : String} {r : Raw}
  {members rest : List (Option String × Raw)} {seen : List String} {s t : σ}

theorem valuesOf_cons_self (name : String) (r : Raw) (rest : List (Option String × Raw)) :
    valuesOf name ((some name, r) :: rest) = r :: valuesOf name rest := by
  simp [valuesOf]

theorem valuesOf_cons_of_ne {key : Option String} (h : key ≠ some name) (r : Raw)
    (rest : List (Option String × Raw)) :
    valuesOf name ((key, r) :: rest) = valuesOf name rest := by
  simp [valuesOf, h]

/-- The first of them is the value of the member that is found. -/
theorem head?_valuesOf (name : String) (members : List (Option String × Raw)) :
    (valuesOf name members).head? = (members.find? (·.1 == some name)).map (·.2) := by
  rw [valuesOf, List.head?_map, List.head?_filter]

/-- **All names of an object that was read are texts.** -/
theorem names_of_storeMembers (h : storeMembers fields members seen s = .ok t) :
    ∀ m ∈ members, m.1 ≠ none := by
  induction members generalizing seen s with
  | nil => exact nofun
  | cons m rest ih =>
      obtain ⟨other, hname, ⟨_, h⟩ | ⟨_, next, _, _, _, h⟩⟩ := storeMembers_cons h
      · exact List.forall_mem_cons.mpr ⟨hname ▸ Option.some_ne_none other, ih h⟩
      · exact List.forall_mem_cons.mpr ⟨hname ▸ Option.some_ne_none other, ih h⟩

/-- So are those of a value. -/
theorem names_rawMembers (members : List (String × Value)) :
    ∀ m ∈ rawMembers members, m.1 ≠ none := by
  induction members with
  | nil => exact nofun
  | cons m rest ih =>
      rw [rawMembers]
      exact List.forall_mem_cons.mpr ⟨Option.some_ne_none m.1, ih⟩

/-- A field that was stored before is not given again. -/
theorem valuesOf_of_seen (hknown : fields.find? (·.name == name) ≠ none) (hseen : name ∈ seen)
    (h : storeMembers fields members seen s = .ok t) : valuesOf name members = [] := by
  induction members generalizing seen s with
  | nil => rfl
  | cons m rest ih =>
      obtain ⟨key, r⟩ := m
      obtain ⟨other, rfl, ⟨hunknown, h⟩ | ⟨_, next, _, hnew, _, h⟩⟩ := storeMembers_cons h
      · have hne : some other ≠ some name := by
          rintro heq
          obtain rfl := Option.some.inj heq
          exact hknown hunknown
        rw [valuesOf_cons_of_ne hne]
        exact ih hseen h
      · have hne : some other ≠ some name := by
          rintro heq
          obtain rfl := Option.some.inj heq
          exact hnew hseen
        rw [valuesOf_cons_of_ne hne]
        exact ih (List.mem_cons_of_mem other hseen) h

/-- **No field is given twice.** -/
theorem length_valuesOf_le (hknown : fields.find? (·.name == name) ≠ none)
    (h : storeMembers fields members seen s = .ok t) : (valuesOf name members).length ≤ 1 := by
  induction members generalizing seen s with
  | nil => exact Nat.zero_le 1
  | cons m rest ih =>
      obtain ⟨key, r⟩ := m
      obtain ⟨other, rfl, hcases⟩ := storeMembers_cons h
      by_cases hother : other = name
      · subst hother
        rcases hcases with ⟨hunknown, _⟩ | ⟨_, next, _, _, _, h⟩
        · exact absurd hunknown hknown
        · rw [valuesOf_cons_self, valuesOf_of_seen hknown List.mem_cons_self h]
          exact Nat.le_refl 1
      · rw [valuesOf_cons_of_ne fun heq => hother (Option.some.inj heq)]
        rcases hcases with ⟨_, h⟩ | ⟨_, next, _, _, _, h⟩
        · exact ih h
        · exact ih h

/-- A field can be stored: nothing is given for it, or something that it reads, for the first
time. -/
def Storable (members : List (Option String × Raw)) (seen : List String)
    (field : RecordField σ) : Prop :=
  valuesOf field.name members = [] ∨
    ∃ r, valuesOf field.name members = [r] ∧ field.name ∉ seen ∧
      ∀ s, ∃ t, field.store r s = .ok t

/-- **Objects that are read**: all names are texts, all values are readable, and every field can be
stored. -/
theorem exists_storeMembers (hnames : ∀ m ∈ members, m.1 ≠ none)
    (hsound : soundMembers members = true) (hfields : ∀ field ∈ fields, Storable members seen field)
    (s : σ) : ∃ t, storeMembers fields members seen s = .ok t := by
  induction members generalizing seen s with
  | nil => exact ⟨s, rfl⟩
  | cons m rest ih =>
      obtain ⟨key, r⟩ := m
      obtain ⟨hkey, hothers⟩ := List.forall_mem_cons.mp hnames
      rw [soundMembers, Bool.and_eq_true] at hsound
      obtain ⟨other, rfl⟩ := Option.ne_none_iff_exists'.mp hkey
      cases hfind : fields.find? (·.name == other) with
      | none =>
          rw [storeMembers_unknown _ _ _ _ _ _ hfind hsound.1]
          refine ih hothers hsound.2 (fun field hfield => ?_) s
          have hne : some other ≠ some field.name := by
            rintro heq
            have hmissing := List.find?_eq_none.mp hfind field hfield
            rw [Option.some.inj heq] at hmissing
            exact hmissing (beq_self_eq_true _)
          have hfield := hfields field hfield
          rwa [Storable, valuesOf_cons_of_ne hne] at hfield
      | some field =>
          obtain rfl : field.name = other := by simpa using List.find?_some hfind
          -- Something is given for this field, so it is given once and can be stored.
          have hfield := hfields field (List.mem_of_find?_eq_some hfind)
          rw [Storable, valuesOf_cons_self] at hfield
          obtain hnone | ⟨given, hgiven, hnew, hstore⟩ := hfield
          · cases hnone
          · obtain ⟨rfl, hrest⟩ := List.cons.inj hgiven
            obtain ⟨next, hnext⟩ := hstore s
            have hcontains : ¬ seen.contains field.name = true :=
              fun hmem => hnew (List.contains_iff_mem.mp hmem)
            simp only [storeMembers, hfind, hcontains, hnext]
            refine ih hothers hsound.2 (fun other hother => ?_) next
            by_cases hsame : other.name = field.name
            · exact .inl (hsame ▸ hrest)
            · have hne : some field.name ≠ some other.name :=
                fun heq => hsame (Option.some.inj heq).symm
              have hstorable := hfields other hother
              rw [Storable, valuesOf_cons_of_ne hne] at hstorable
              refine hstorable.imp id ?_
              rintro ⟨r, hr, hunseen, hread⟩
              exact ⟨r, hr, fun hmem => (List.mem_cons.mp hmem).elim hsame hunseen, hread⟩

end Values

/-! ### Fields that are stated -/

section Fields

variable {σ α : Type} {name : String} {d : Decoder α} {written : α → Value} {set : α → σ → σ}
  {get : σ → α} {before after : List (RecordField σ)} {members : List (Option String × Raw)}
  {s t : σ}

/-- **What is stated of a field**: nothing, and then it is as it was, or once that it is `now`. -/
def States (written : α → Value) (values : List Raw) (was now : α) : Prop :=
  (values = [] ∧ now = was) ∨ values = [.ofValue (written now)]

/-- **A field of a record that was read is what is stated.** -/
theorem Apart.states (hapart : Apart name set get (before ++ after)) (hd : Reads d written)
    (h : storeMembers (before ++ RecordField.of name d set :: after) members [] s = .ok t) :
    States written (valuesOf name members) (get s) (get t) := by
  have hgiven := hapart.isGiven_of_members List.not_mem_nil h
  have hknown : (before ++ RecordField.of name d set :: after).find? (·.name == name) ≠ none := by
    rw [hapart.find?_name]
    exact Option.some_ne_none _
  have hle := length_valuesOf_le hknown h
  rw [← head?_valuesOf] at hgiven
  cases hvalues : valuesOf name members with
  | nil =>
      rw [hvalues] at hgiven
      exact .inl ⟨rfl, hgiven⟩
  | cons r rest =>
      rw [hvalues] at hgiven hle
      have hrest : rest = [] := List.length_eq_zero_iff.mp (by simpa using hle)
      obtain rfl := (hd r (get t)).mp hgiven
      exact .inr (hrest ▸ rfl)

/-- A field can be stored if something is stated of it. -/
theorem States.storable {was now : α} (hd : Reads d written)
    (h : States written (valuesOf name members) was now) :
    Storable members [] (RecordField.of name d set) := by
  obtain ⟨hnone, _⟩ | hvalue := h
  · exact .inl hnone
  · exact .inr ⟨_, hvalue, List.not_mem_nil, fun s => ⟨set now s, hd.store_eq_ok now s⟩⟩

/-- **Nothing else can be stated** at the same time. -/
theorem States.unique {was now other : α} {values : List Raw} (hd : Reads d written)
    (h : States written values was now) (hother : States written values was other) :
    now = other := by
  obtain ⟨rfl, rfl⟩ | rfl := h
  · obtain ⟨_, rfl⟩ | hvalue := hother
    · rfl
    · cases hvalue
  · obtain ⟨hnone, _⟩ | hvalue := hother
    · cases hnone
    · have hnow := (hd _ now).mpr rfl
      rw [(List.cons.inj hvalue).1, (hd _ other).mpr rfl] at hnow
      exact (Except.ok.inj hnow).symm

/-- The order of what is given does not matter. -/
theorem States.of_perm {was now : α} {values given : List Raw} (hperm : given.Perm values)
    (h : States written values was now) : States written given was now := by
  obtain ⟨rfl, hnow⟩ | rfl := h
  · exact .inl ⟨hperm.eq_nil, hnow⟩
  · exact .inr (List.perm_singleton.mp hperm)

/-- Nothing is stated twice. -/
theorem States.length_le {was now : α} {values : List Raw} (h : States written values was now) :
    values.length ≤ 1 := by
  obtain ⟨rfl, _⟩ | rfl := h
  · exact Nat.zero_le 1
  · exact Nat.le_refl 1

end Fields

end Provisioning.Json
