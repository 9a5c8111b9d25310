/-
**Requests in texts.**

A request comes as the body of a call, written by somebody else, so that what is read of a text is
the only thing that counts.  Two things are said of it.

Every request can be written, as an object or as an array, and comes back as it was: the words with
all their characters, and the port with all its digits.

An object need not look like one that was written here.  Its members may stand in any order, with
others between them, and some may be missing.  Such an object is read if all its names are texts and
each of the four fields is given at most once, by a value of its type; and then the request is what
is stated of it, which neither the order nor the other members can change.  Two things that the
format takes for an integer and for a name are none here: a negative zero is read as a float, and
a name may have an escaped half of a surrogate pair, which is no text.

Main definitions:

* `Request.StatedBy` — **what an object states of a request**;
* `Request.Stated` — an object that can be read;
* `Request.isKnown` — the names that count.

Main results:

* `Request.ofText_written` — **every request is read as it is written**;
* `Request.ofText_eq_ok_iff` — which objects are read, and as what;
* `Request.ofText_known_members` — **only the known members count**, each of them at most once;
* `Request.not_every_member_read` — objects that are not read.
-/

import Provisioning.Proofs.ObjectMembers
import Provisioning.Proofs.WrittenJson
import Provisioning.Request.Json

set_option relaxedAutoImplicit false
set_option autoImplicit false

namespace Provisioning.Request

open Json (Raw Value RecordField Reads States valuesOf IsText NumberText)

/-! ### The fields -/

theorem reads_port : Reads (Json.optional Json.int64) portJson := by
  have hread : Reads (Json.optional Json.int64)
      (Json.writtenOptional fun n : Int64 => .integer n.toInt) :=
    Json.reads_optional Json.reads_int64 fun _ => Value.noConfusion
  intro r port
  rw [hread r port]
  cases port with
  | none => exact Iff.rfl
  | some p => exact Iff.rfl

theorem reads_texts : Reads (Json.list Json.text) Value.strings := Json.reads_list Json.reads_text

/-- Each field stands apart from the others. -/
theorem apart_serviceName :
    Json.Apart "serviceNamePrefix" (fun name (r : Request) => { r with serviceName := name })
      Request.serviceName (fields.take 0 ++ fields.drop 1) where
  get_set _ _ := rfl
  name_ne := by decide
  keeps field hfield a := by
    simp only [fields, List.take, List.drop, List.nil_append, List.mem_cons, List.not_mem_nil,
      or_false] at hfield
    rcases hfield with rfl | rfl | rfl <;> exact RecordField.keeps_of fun _ _ _ _ h => h

theorem apart_clientPort :
    Json.Apart "clientPort" (fun port (r : Request) => { r with clientPort := port })
      Request.clientPort (fields.take 1 ++ fields.drop 2) where
  get_set _ _ := rfl
  name_ne := by decide
  keeps field hfield a := by
    simp only [fields, List.take, List.drop, List.cons_append, List.nil_append, List.mem_cons,
      List.not_mem_nil, or_false] at hfield
    rcases hfield with rfl | rfl | rfl <;> exact RecordField.keeps_of fun _ _ _ _ h => h

theorem apart_nodes :
    Json.Apart "nodeNames" (fun nodes (r : Request) => { r with nodes := nodes })
      Request.nodes (fields.take 2 ++ fields.drop 3) where
  get_set _ _ := rfl
  name_ne := by decide
  keeps field hfield a := by
    simp only [fields, List.take, List.drop, List.cons_append, List.nil_append, List.mem_cons,
      List.not_mem_nil, or_false] at hfield
    rcases hfield with rfl | rfl | rfl <;> exact RecordField.keeps_of fun _ _ _ _ h => h

theorem apart_plugins :
    Json.Apart "plugins" (fun plugins (r : Request) => { r with plugins := plugins })
      Request.plugins (fields.take 3 ++ fields.drop 4) where
  get_set _ _ := rfl
  name_ne := by decide
  keeps field hfield a := by
    simp only [fields, List.take, List.drop, List.cons_append, List.nil_append, List.mem_cons,
      List.not_mem_nil, or_false] at hfield
    rcases hfield with rfl | rfl | rfl <;> exact RecordField.keeps_of fun _ _ _ _ h => h

/-! ### What an object states -/

/-- **What an object states of a request**: for every field nothing, and then it has its default, or
once the value that it has. -/
structure StatedBy (members : List (Option String × Raw)) (r : Request) : Prop where
  serviceName : States .string (valuesOf "serviceNamePrefix" members) "" r.serviceName
  clientPort : States portJson (valuesOf "clientPort" members) none r.clientPort
  nodes : States .strings (valuesOf "nodeNames" members) [] r.nodes
  plugins : States .strings (valuesOf "plugins" members) [] r.plugins

variable {members others : List (Option String × Raw)} {r t : Request} {text other : String}

theorem statedBy_of_storeMembers (h : Json.storeMembers fields members [] {} = .ok t) :
    StatedBy members t where
  serviceName := apart_serviceName.states Json.reads_text h
  clientPort := apart_clientPort.states reads_port h
  nodes := apart_nodes.states reads_texts h
  plugins := apart_plugins.states reads_texts h

theorem StatedBy.unique (h : StatedBy members r) (ht : StatedBy members t) : r = t := by
  obtain ⟨serviceName, clientPort, nodes, plugins⟩ := r
  obtain ⟨otherName, otherPort, otherNodes, otherPlugins⟩ := t
  obtain rfl : serviceName = otherName := h.serviceName.unique Json.reads_text ht.serviceName
  obtain rfl : clientPort = otherPort := h.clientPort.unique reads_port ht.clientPort
  obtain rfl : nodes = otherNodes := h.nodes.unique reads_texts ht.nodes
  obtain rfl : plugins = otherPlugins := h.plugins.unique reads_texts ht.plugins
  rfl

theorem StatedBy.exists_storeMembers (h : StatedBy members r) (hnames : ∀ m ∈ members, m.1 ≠ none)
    (hsound : Json.soundMembers members = true) :
    ∃ t, Json.storeMembers fields members [] {} = .ok t := by
  refine Json.exists_storeMembers hnames hsound (fun field hfield => ?_) ({} : Request)
  simp only [fields, List.mem_cons, List.not_mem_nil, or_false] at hfield
  rcases hfield with rfl | rfl | rfl | rfl
  · exact h.serviceName.storable Json.reads_text
  · exact h.clientPort.storable reads_port
  · exact h.nodes.storable reads_texts
  · exact h.plugins.storable reads_texts

/-- **Which objects are read as a request, and as which.** -/
theorem decoder_object_eq_ok_iff (hsound : Json.soundMembers members = true) :
    decoder .text (.object members true) = .ok r ↔
      (∀ m ∈ members, m.1 ≠ none) ∧ StatedBy members r := by
  constructor
  · intro h
    obtain ⟨t, hread, h⟩ := Json.bind_eq_ok_iff.mp h
    obtain rfl := Except.ok.inj h
    exact ⟨Json.names_of_storeMembers hread, statedBy_of_storeMembers hread⟩
  · rintro ⟨hnames, h⟩
    obtain ⟨t, hread⟩ := h.exists_storeMembers hnames hsound
    obtain rfl := h.unique (statedBy_of_storeMembers hread)
    exact Json.bind_eq_ok_iff.mpr ⟨r, hread, rfl⟩

/-- **Which texts of an object are read as a request, and as which.** -/
theorem ofText_eq_ok_iff (htext : IsText text (.object members true)) :
    ofText text = .ok r ↔ (∀ m ∈ members, m.1 ≠ none) ∧ StatedBy members r := by
  have hsound := Json.SpellsPadded.sound htext
  rw [Raw.sound, Bool.true_and] at hsound
  rw [ofText, htext.decodeText_eq]
  exact decoder_object_eq_ok_iff hsound

/-! ### Requests as they are written -/

theorem integral_portJson (port : Option Int64) : (portJson port).integral = true := by
  cases port with
  | none => rfl
  | some p =>
      rw [portJson, Value.integer, Value.integral, Bool.and_eq_true, decide_eq_true_eq,
        decide_eq_true_eq]
      exact ⟨p.le_toInt, Int.lt_trans p.toInt_lt (by decide)⟩

theorem integral_strings (words : List String) : (Value.strings words).integral = true := by
  rw [Value.strings, Value.integral]
  induction words with
  | nil => rfl
  | cons word words ih =>
      rw [List.map_cons, Json.integralItems, ih]
      rfl

theorem integral_json (r : Request) : r.json.integral = true := by
  simp [json, Value.integral, Json.integralMembers, integral_portJson, integral_strings]

theorem integral_jsonArray (r : Request) : r.jsonArray.integral = true := by
  simp [jsonArray, Value.integral, Json.integralItems, integral_portJson, integral_strings]

/-- **Every request is read as it is written**, as an object and as an array. -/
theorem ofText_written (r : Request) :
    ofText r.json.compact = .ok r ∧ ofText r.jsonArray.compact = .ok r := by
  constructor
  · refine (ofText_eq_ok_iff (Json.isText_compact r.integral_json)).mpr
      ⟨Json.names_rawMembers _, .inr rfl, .inr rfl, .inr rfl, .inr rfl⟩
  · rw [ofText, (Json.isText_compact r.integral_jsonArray).decodeText_eq]
    -- Four items are stored into four fields, and nothing is left over.
    have hitems : Json.storeItems fields [.ofValue (.string r.serviceName),
        .ofValue (portJson r.clientPort), .ofValue (.strings r.nodes),
        .ofValue (.strings r.plugins)] {} = .ok (r, []) := by
      simp only [fields, Json.storeItems, Json.reads_text.store_eq_ok, reads_port.store_eq_ok,
        reads_texts.store_eq_ok]
      rfl
    exact Json.bind_eq_ok_iff.mpr ⟨_, hitems, rfl⟩

/-! ### Only the known members count -/

/-- The names that count. -/
def isKnown (m : Option String × Raw) : Bool := fields.any fun field => m.1 == some field.name

/-- Nothing is given for a field, or once a value of its type. -/
def AtMostOnce {α : Type} (written : α → Value) (values : List Raw) : Prop :=
  values = [] ∨ ∃ a, values = [.ofValue (written a)]

/-- **An object that can be read**: all its names are texts, and each field is given at most once,
by a value of its type. -/
structure Stated (members : List (Option String × Raw)) : Prop where
  names : ∀ m ∈ members, m.1 ≠ none
  serviceName : AtMostOnce Value.string (valuesOf "serviceNamePrefix" members)
  clientPort : AtMostOnce portJson (valuesOf "clientPort" members)
  nodes : AtMostOnce Value.strings (valuesOf "nodeNames" members)
  plugins : AtMostOnce Value.strings (valuesOf "plugins" members)

theorem atMostOnce_iff {α : Type} {written : α → Value} {values : List Raw} (was : α) :
    AtMostOnce written values ↔ ∃ now, States written values was now := by
  constructor
  · rintro (hnone | ⟨a, ha⟩)
    · exact ⟨was, .inl ⟨hnone, rfl⟩⟩
    · exact ⟨a, .inr ha⟩
  · rintro ⟨now, ⟨hnone, _⟩ | hvalue⟩
    · exact .inl hnone
    · exact .inr ⟨now, hvalue⟩

theorem stated_iff : Stated members ↔ (∀ m ∈ members, m.1 ≠ none) ∧ ∃ r, StatedBy members r := by
  constructor
  · rintro ⟨hnames, hname, hport, hnodes, hplugins⟩
    obtain ⟨serviceName, hname⟩ := (atMostOnce_iff "").mp hname
    obtain ⟨clientPort, hport⟩ := (atMostOnce_iff none).mp hport
    obtain ⟨nodes, hnodes⟩ := (atMostOnce_iff []).mp hnodes
    obtain ⟨plugins, hplugins⟩ := (atMostOnce_iff []).mp hplugins
    exact ⟨hnames, ⟨serviceName, clientPort, nodes, plugins⟩, hname, hport, hnodes, hplugins⟩
  · rintro ⟨hnames, r, h⟩
    exact ⟨hnames, (atMostOnce_iff _).mpr ⟨_, h.serviceName⟩,
      (atMostOnce_iff _).mpr ⟨_, h.clientPort⟩, (atMostOnce_iff _).mpr ⟨_, h.nodes⟩,
      (atMostOnce_iff _).mpr ⟨_, h.plugins⟩⟩

/-- The values of a known name are among the known members. -/
theorem valuesOf_filter_isKnown {field : RecordField Request} (hfield : field ∈ fields) :
    valuesOf field.name (members.filter isKnown) = valuesOf field.name members := by
  have hboth : ∀ m : Option String × Raw,
      (m.1 == some field.name && isKnown m) = (m.1 == some field.name) := by
    intro m
    cases hname : m.1 == some field.name with
    | false => rfl
    | true => exact List.any_eq_true.mpr ⟨field, hfield, hname⟩
  rw [valuesOf, valuesOf, List.filter_filter]
  simp only [hboth]

/-- **What is stated** does not depend on the order of the members, nor on those that do not
count. -/
theorem StatedBy.of_perm (hperm : (others.filter isKnown).Perm (members.filter isKnown))
    (h : StatedBy members r) : StatedBy others r := by
  have hvalues : ∀ field ∈ fields,
      (valuesOf field.name others).Perm (valuesOf field.name members) := by
    intro field hfield
    rw [← valuesOf_filter_isKnown hfield, ← @valuesOf_filter_isKnown members field hfield]
    exact (hperm.filter _).map _
  simp only [fields, List.forall_mem_cons] at hvalues
  obtain ⟨hname, hport, hnodes, hplugins, -⟩ := hvalues
  exact ⟨h.serviceName.of_perm hname, h.clientPort.of_perm hport, h.nodes.of_perm hnodes,
    h.plugins.of_perm hplugins⟩

/-- No field is stated twice. -/
theorem StatedBy.length_le (h : StatedBy members r) :
    ∀ field ∈ fields, (valuesOf field.name members).length ≤ 1 := by
  simp only [fields, List.forall_mem_cons]
  exact ⟨h.serviceName.length_le, h.clientPort.length_le, h.nodes.length_le, h.plugins.length_le,
    List.forall_mem_nil _⟩

/-- **Only the known members count.**  An object is read if all its names are texts and each field
is given at most once, by a value of its type; the request is then what is stated; the order and the
other members do not matter; and an object that gives a field twice is not read. -/
theorem ofText_known_members (htext : IsText text (.object members true)) :
    ((∃ r, ofText text = .ok r) ↔ Stated members) ∧
      (∀ r, ofText text = .ok r → StatedBy members r) ∧
      (∀ other others, IsText other (.object others true) → Stated members →
        (∀ m ∈ others, m.1 ≠ none) → (others.filter isKnown).Perm (members.filter isKnown) →
          ofText other = ofText text) ∧
      ∀ field ∈ fields, 2 ≤ (valuesOf field.name members).length →
        ∃ fault, ofText text = .error fault := by
  have hread := fun r => @ofText_eq_ok_iff members r text htext
  refine ⟨?_, fun r h => ((hread r).mp h).2, ?_, ?_⟩
  · rw [stated_iff]
    constructor
    · rintro ⟨r, h⟩
      obtain ⟨hnames, hstated⟩ := (hread r).mp h
      exact ⟨hnames, r, hstated⟩
    · rintro ⟨hnames, r, hstated⟩
      exact ⟨r, (hread r).mpr ⟨hnames, hstated⟩⟩
  · intro other others hother hstated hnames hperm
    obtain ⟨hmembers, r, hr⟩ := stated_iff.mp hstated
    rw [(hread r).mpr ⟨hmembers, hr⟩, (ofText_eq_ok_iff hother).mpr ⟨hnames, hr.of_perm hperm⟩]
  · intro field hfield htwice
    cases hresult : ofText text with
    | error fault => exact ⟨fault, rfl⟩
    | ok r =>
        have hle := ((hread r).mp hresult).2.length_le field hfield
        omega

/-- Members that do not count, between those that do. -/
def mixed : List (String × Value) :=
  [("plugin", .array [.object [("clientPort", .null)], .boolean true]),
    ("nodeNames", .strings ["node-1"]), ("plugin", .null), ("clientPort", .integer 2181)]

/-- Those that count, in another order. -/
def reordered : List (String × Value) :=
  [("clientPort", .integer 2181), ("nodeNames", .strings ["node-1"])]

/-- A member that counts, twice. -/
def repeated : List (String × Value) :=
  [("clientPort", .integer 2181), ("clientPort", .integer 2181)]

theorem ofText_known_members_of_mixed :
    IsText (Value.object mixed).compact (.ofValue (.object mixed)) ∧
      ofText (Value.object mixed).compact =
        .ok { clientPort := some 2181, nodes := ["node-1"] } ∧
      ofText (Value.object reordered).compact = ofText (Value.object mixed).compact ∧
      ∃ fault, ofText (Value.object repeated).compact = .error fault := by
  have htext : IsText (Value.object mixed).compact (.object (Json.rawMembers mixed) true) :=
    Json.isText_compact (by decide)
  have hother : IsText (Value.object reordered).compact
      (.object (Json.rawMembers reordered) true) := Json.isText_compact (by decide)
  have hrepeated : IsText (Value.object repeated).compact
      (.object (Json.rawMembers repeated) true) := Json.isText_compact (by decide)
  have hstated : Stated (Json.rawMembers mixed) :=
    ⟨Json.names_rawMembers mixed, .inl rfl, .inr ⟨some 2181, rfl⟩, .inr ⟨["node-1"], rfl⟩, .inl rfl⟩
  obtain ⟨hread, hstates, hperm, -⟩ := ofText_known_members htext
  obtain ⟨r, hr⟩ := hread.mpr hstated
  have hresult : r = { clientPort := some 2181, nodes := ["node-1"] } :=
    (hstates r hr).unique ⟨.inl ⟨rfl, rfl⟩, .inr rfl, .inr rfl, .inl ⟨rfl, rfl⟩⟩
  refine ⟨htext, hresult ▸ hr, ?_, ?_⟩
  · exact hperm _ _ hother hstated (Json.names_rawMembers reordered) (List.Perm.swap _ _ _)
  · obtain ⟨-, -, -, htwice⟩ := ofText_known_members hrepeated
    exact htwice _ (List.mem_cons_of_mem _ List.mem_cons_self) (by decide)

/-! ### Objects that are not read -/

/-- An object that gives the port as a number that is written in some way, and nothing else. -/
def portText (n : NumberText) : String :=
  String.ofList ('\x7b' :: (Json.quoted "clientPort" ++ ':' :: n.chars ++ ['\x7d']))

theorem isText_portText (n : NumberText) :
    IsText (portText n) (.object [(some "clientPort", .number n.value)] true) := by
  have hmembers : Json.SpellsMembers (Json.quoted "clientPort" ++ ':' :: n.chars)
      [(some "clientPort", .number n.value)] :=
    .last (Json.spellsString_quoted "clientPort").name (Json.Spells.scalar (.number n)).padded
  rw [IsText, portText, String.toList_ofList]
  exact (Json.Spells.object hmembers).padded

/-- A number that is no integer for the reader is no port. -/
theorem ofText_portText_ne {n : NumberText} (h : n.integer? = none) (p : Int64) :
    ofText (portText n) ≠ .ok { clientPort := some p } := by
  intro hread
  have hstated := ((ofText_eq_ok_iff (isText_portText n)).mp hread).2.clientPort
  obtain ⟨hnone, _⟩ | hvalue := hstated
  · cases hnone
  · have hnumber : n.value = some (.integer p.toInt) := Raw.number.inj (List.cons.inj hvalue).1
    rw [NumberText.value_eq_integer_iff.mp hnumber] at h
    cases h

/-- How a negative zero is written. -/
def negativeZero : NumberText := { NumberText.ofInt 0 with negative := true }

/-- **Objects that are not read**: one that gives a port of its type, which is written as a negative
zero, and one without any known member, which has a name that is no text. -/
theorem not_every_member_read :
    (¬ ∀ (n : NumberText) (p : Int64), n.fraction = none → n.exponent = none →
      n.signed = p.toInt → ofText (portText n) = .ok { clientPort := some p }) ∧
    ¬ ∀ text members, IsText text (.object members true) →
      (∀ field ∈ fields, valuesOf field.name members = []) → ofText text = .ok {} := by
  constructor
  · intro h
    have hnone : negativeZero.integer? = none :=
      negativeZero.integer?_eq_none (.inl ⟨rfl, by decide⟩)
    exact ofText_portText_ne hnone 0 (h negativeZero 0 rfl rfl (by decide))
  · intro h
    -- The name is an escaped first half of a surrogate pair.
    have hname : Json.SpellsString "\"\\ud800\"".toList none :=
      .mk (.unit (rfl : Json.hexUnit? 'd' '8' '0' '0' = some 0xD800) .nil)
    have hmembers : Json.SpellsMembers "\"\\ud800\":null".toList [(none, .null)] :=
      .last hname.name (Json.Spells.scalar .null).padded
    have htext : IsText "\x7b\"\\ud800\":null\x7d" (.object [(none, .null)] true) :=
      (Json.Spells.object hmembers).padded
    have hread := h _ _ htext (by decide)
    exact ((ofText_eq_ok_iff htext).mp hread).1 (none, .null) List.mem_cons_self rfl

end Provisioning.Request
