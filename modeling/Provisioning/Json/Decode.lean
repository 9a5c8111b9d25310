/-
**Reading typed values out of JSON.**

A decoder walks over what could be read of a text and reports the first fault it meets, in the
order of the text; what it skips only has to be readable.  A record is described by its fields and
their defaults.  It may be written as an object, whose unknown members are skipped and whose known
ones occur at most once, or as an array of its fields in their order, from which fields may be
missing at the end.

Main definitions:

* `Json.Decoder` and the decoders of scalars, options and lists;
* `Json.RecordField`, `Json.record` — **records**;
* `Json.Raw.toValue?` — any value, nested less than 128 deep;
* `Json.decodeText`, `Json.decodeValue` — decoding a whole text, and a value read before.
-/

import Provisioning.Json.Fault

set_option autoImplicit false
set_option relaxedAutoImplicit false

namespace Provisioning.Json

/-- A decoder reports a fault or gives a result. -/
abbrev Decoder (α : Type) := Raw → Except Fault α

/-- Whether the tree was read from a text or made from a value.  They differ in what is said of an
array with too many items. -/
inductive Source where
  | text
  | value
  deriving DecidableEq, Repr

/-- The fault of a value that is not of the expected type. -/
def Raw.mismatch (r : Raw) (expected : String) : Fault :=
  match r.found? with
  | some found => .invalidType found expected
  | none => .malformed

/-! ### Scalars, options and lists -/

/-- A truth value. -/
def boolean : Decoder Bool
  | .boolean b => .ok b
  | r => .error (r.mismatch "a boolean")

/-- A string. -/
def text : Decoder String
  | .string (some s) => .ok s
  | r => .error (r.mismatch "a string")

/-- Whether an integer fits 64 bits with a sign. -/
def fitsInt64 (n : Int) : Bool := Int64.minValue.toInt ≤ n && n ≤ Int64.maxValue.toInt

/-- A signed integer of 64 bits. -/
def int64 : Decoder Int64
  | .number (some (.integer n)) =>
    if fitsInt64 n then .ok (.ofInt n) else .error (.invalidValue (.integer n) "i64")
  | r => .error (r.mismatch "i64")

/-- Null, or what `d` reads. -/
def optional {α : Type} (d : Decoder α) : Decoder (Option α)
  | .null => .ok none
  | r => (d r).map some

/-- An array of what `d` reads. -/
def list {α : Type} (d : Decoder α) : Decoder (List α)
  | .array items closed => do
    let read ← items.mapM d
    if closed then .ok read else .error .malformed
  | r => .error (r.mismatch "a sequence")

/-! ### Records -/

/-- A field of a record under construction: its name, and how its value is stored. -/
structure RecordField (σ : Type) where
  name : String
  store : Raw → σ → Except Fault σ

/-- A field whose value is read by `d` and stored by `set`. -/
def RecordField.of {σ α : Type} (name : String) (d : Decoder α) (set : α → σ → σ) : RecordField σ :=
  ⟨name, fun r s => (d r).map fun a => set a s⟩

/-- Store the members of an object.  `seen` holds the names of the fields stored before. -/
def storeMembers {σ : Type} (fields : List (RecordField σ)) :
    List (Option String × Raw) → List String → σ → Except Fault σ
  | [], _, s => .ok s
  | (none, _) :: _, _, _ => .error .malformed
  | (some name, r) :: rest, seen, s =>
    match fields.find? (·.name == name) with
    | none => if r.sound then storeMembers fields rest seen s else .error .malformed
    | some field =>
      if seen.contains name then .error (.duplicateField name)
      else do storeMembers fields rest (name :: seen) (← field.store r s)

/-- Store the items of an array in the order of the fields; the items left over are returned. -/
def storeItems {σ : Type} : List (RecordField σ) → List Raw → σ → Except Fault (σ × List Raw)
  | [], items, s => .ok (s, items)
  | _ :: _, [], s => .ok (s, [])
  | field :: fields, r :: items, s => do storeItems fields items (← field.store r s)

/-- **Records**: an object with the given fields, or an array of them.  Fields that are not given
keep the value they have in `start`. -/
def record {σ : Type} (source : Source) (title : String) (start : σ)
    (fields : List (RecordField σ)) : Decoder σ
  | .object members closed => do
    let s ← storeMembers fields members [] start
    if closed then .ok s else .error .malformed
  | .array items closed => do
    let (s, excess) ← storeItems fields items start
    match excess, source with
    | [], _ => if closed then .ok s else .error .malformed
    | _ :: _, .text => .error .malformed
    | _ :: _, .value => .error (.invalidLength items.length "fewer elements in array")
  | r => .error (r.mismatch s!"struct {title}")

/-! ### Any value -/

/-- How many brackets may be open at once, counting one for the limit itself. -/
def nestingLimit : Nat := 128

mutual

/-- Any value; nothing if it cannot be read, cannot be kept or is nested too deep.  `limit` counts
the brackets that may still be opened, and one more. -/
def Raw.toValue? (limit : Nat) : Raw → Option Value
  | .broken => none
  | .null => some .null
  | .boolean b => some (.boolean b)
  | .number n => n.map .number
  | .string s => s.map .string
  | .array items closed =>
    if limit ≤ 1 then none
    else match itemValues? (limit - 1) items with
      | some values => if closed then some (.array values) else none
      | none => none
  | .object members closed =>
    if limit ≤ 1 then none
    else match memberValues? (limit - 1) members [] with
      | some values => if closed then some (.object values) else none
      | none => none

/-- The values of the items. -/
def itemValues? (limit : Nat) : List Raw → Option (List Value)
  | [] => some []
  | r :: rest =>
    match r.toValue? limit with
    | some v => (itemValues? limit rest).map (v :: ·)
    | none => none

/-- The members in ascending order, behind those read before. -/
def memberValues? (limit : Nat) :
    List (Option String × Raw) → List (String × Value) → Option (List (String × Value))
  | [], before => some before
  | (none, _) :: _, _ => none
  | (some name, r) :: rest, before =>
    match r.toValue? limit with
    | some v => memberValues? limit rest (Members.put name v before)
    | none => none

end

/-- Any value that stands inside `depth` open brackets. -/
def anyValue (depth : Nat) : Decoder Value := fun r =>
  match r.toValue? (nestingLimit - depth) with
  | some v => .ok v
  | none => .error .malformed

/-! ### Whole texts -/

/-- Decode a text.  What follows the value is looked at last. -/
def decodeText {α : Type} (d : Decoder α) (text : String) : Except Fault α := do
  let document := Document.ofText text
  let a ← d document.root
  if document.complete then .ok a else .error .malformed

/-- Decode a value that was read before. -/
def decodeValue {α : Type} (d : Decoder α) (v : Value) : Except Fault α := d (.ofValue v)

/-- The value of a text, if it is one JSON value. -/
def Value.ofText? (text : String) : Option Value :=
  match decodeText (anyValue 0) text with
  | .ok v => some v
  | .error _ => none

/-- A field that is not known has to be readable, and changes nothing. -/
theorem storeMembers_unknown {σ : Type} (fields : List (RecordField σ)) (name : String) (r : Raw)
    (rest : List (Option String × Raw)) (seen : List String) (s : σ)
    (hunknown : fields.find? (·.name == name) = none) (hsound : r.sound = true) :
    storeMembers fields ((some name, r) :: rest) seen s = storeMembers fields rest seen s := by
  simp [storeMembers, hunknown, hsound]

end Provisioning.Json
