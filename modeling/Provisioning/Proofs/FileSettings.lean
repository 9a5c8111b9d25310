/-
**What a configuration file says.**

A file gives some of the settings a value, under their names in the mapping at its top.  Reading
goes through the mapping event by event and changes the configuration as it goes on.  What comes of
it is said here setting by setting: a setting has the value of the node under its name, or its
default.  A name that cannot be read, or that stands there twice, is a fault, so what is accepted
has no setting that was given and passed over.

Main definitions:

* `Config.Setting.Value`, `Config.get` — the settings of a configuration one by one;
* `Config.Setting.valueOf?` — the value of a setting that a node means;
* `Config.entries` — the settings that a text gives, with the nodes of their values;
* `Config.givenIn?` — what a file says about a setting.

Main results:

* `Config.Reading.set_ok` — what a setting under its name changes;
* `Config.Reading.read_ok` — **reading a mapping**;
* `Config.ofYaml_ok` — **the configuration of a text**, setting by setting;
* `Config.get_of_ofFile` — the configuration of a file.
-/

import Provisioning.Config.Loading
import Provisioning.Proofs.DecodedValue
import Provisioning.Proofs.WrittenText

set_option relaxedAutoImplicit false
set_option autoImplicit false

namespace Provisioning.Config

open Json (bind_eq_ok_iff)
open Yaml (Document Event Fault Misfit)

/-! ### Settings one by one -/

/-- What a setting has for a value. -/
def Setting.Value : Setting → Type
  | .apiUrl => String
  | .requestTimeout | .coordinationTimeout | .pollInterval => UInt64
  | .maxRetries => UInt32
  | .readinessPolicy => Readiness.Policy

/-- **The value of a setting.** -/
def get (c : Config) : (s : Setting) → s.Value
  | .apiUrl => c.apiUrl
  | .requestTimeout => c.requestTimeoutSecs
  | .coordinationTimeout => c.coordinationTimeoutSecs
  | .pollInterval => c.pollIntervalMs
  | .maxRetries => c.maxRetries
  | .readinessPolicy => c.readinessPolicy

/-- A configuration with another value of a setting. -/
def put (c : Config) : (s : Setting) → s.Value → Config
  | .apiUrl, url => { c with apiUrl := url }
  | .requestTimeout, n => { c with requestTimeoutSecs := n }
  | .coordinationTimeout, n => { c with coordinationTimeoutSecs := n }
  | .pollInterval, n => { c with pollIntervalMs := n }
  | .maxRetries, n => { c with maxRetries := n }
  | .readinessPolicy, p => { c with readinessPolicy := p }

theorem get_put (c : Config) (s : Setting) (v : s.Value) : (c.put s v).get s = v := by
  cases s with
  | apiUrl | requestTimeout | coordinationTimeout | pollInterval => rfl
  | maxRetries | readinessPolicy => rfl

theorem get_put_of_ne (c : Config) {s t : Setting} (hne : t ≠ s) (v : s.Value) :
    (c.put s v).get t = c.get t := by
  cases s <;> cases t <;> first | rfl | exact absurd rfl hne

/-- Another base URL leaves the other settings as they are. -/
theorem get_withApiUrl (c : Config) (url? : Option String) {s : Setting} (hs : s ≠ .apiUrl) :
    (c.withApiUrl url?).get s = c.get s := by
  cases url? with
  | none => rfl
  | some url =>
      cases s with
      | apiUrl => exact absurd rfl hs
      | requestTimeout | coordinationTimeout | pollInterval | maxRetries | readinessPolicy => rfl

theorem apiUrl_withApiUrl (c : Config) (url? : Option String) :
    (c.withApiUrl url?).apiUrl = url?.getD c.apiUrl := by
  cases url? with
  | none => rfl
  | some url => rfl

/-- A configuration that was checked is the one that passes. -/
theorem checked_eq_ok_iff {c checked : Config} :
    c.checked = .ok checked ↔ c.validate = .ok () ∧ checked = c := by
  rw [Config.checked]
  cases c.validate with
  | error i => simp
  | ok u => simp [pure, Except.pure, eq_comm]

/-! ### Values -/

/-- The value of a setting that a node means. -/
def Setting.valueOf? : (s : Setting) → Event → Option s.Value
  | .apiUrl, e => (text e).toOption
  | .requestTimeout, e | .coordinationTimeout, e | .pollInterval, e =>
    (count UInt64.size "u64" e).toOption.map (·.toUInt64)
  | .maxRetries, e => (count UInt32.size "u32" e).toOption.map (·.toUInt32)
  | .readinessPolicy, e => (policy "" false e).toOption

/-- Under which key a policy stands, and whether it is written elsewhere, only matters for the words
of a fault. -/
theorem policy_ok {path : String} {elsewhere : Bool} {e : Event} {p : Readiness.Policy}
    (h : policy path elsewhere e = .ok p) : policy "" false e = .ok p := by
  unfold policy at h ⊢
  cases e with
  | scalar s =>
      simp only at h ⊢
      split at h
      · split at h
        · cases h
        · exact h
        · cases h
      · split at h
        · exact h
        · cases h
  -- The name of a collection never stands for nothing.
  | sequenceStart tag | mappingStart tag =>
      simp only at h
      split at h
      · split at h
        · cases h
        · rename_i hother
          cases hother
        · cases h
      · cases h
  | _ => cases h

variable {r r' : Reading} {s : Setting} {path : String} {elsewhere : Bool} {e : Event}

/-- What is read into a configuration, with the key in the words of a fault, was read. -/
theorem put_ok {α : Type} {x : Except Misfit α} {f : α → Config} {given : List Setting}
    (h : (do
      let config ← (match x with
        | .ok a => (.ok a : Except Fault α)
        | .error m => .error (.misfit (some path) m)).map f
      (pure ⟨config, given⟩ : Except Fault Reading)) = .ok r') :
    ∃ a, x = .ok a ∧ r' = ⟨f a, given⟩ := by
  cases x with
  | error m => cases h
  | ok a => exact ⟨a, rfl, (Except.ok.inj h).symm⟩

/-- **What a setting under its name changes**: it has the value of the node from then on. -/
theorem Reading.set_ok (h : r.set s path elsewhere e = .ok r') :
    ∃ v, s.valueOf? e = some v ∧ r' = ⟨r.config.put s v, s :: r.given⟩ := by
  unfold Reading.set at h
  cases s with
  | apiUrl =>
      obtain ⟨url, hurl, rfl⟩ := put_ok h
      exact ⟨url, by rw [Setting.valueOf?, hurl]; rfl, rfl⟩
  | requestTimeout | coordinationTimeout | pollInterval | maxRetries =>
      obtain ⟨n, hn, rfl⟩ := put_ok h
      exact ⟨_, by rw [Setting.valueOf?, hn]; rfl, rfl⟩
  | readinessPolicy =>
      obtain ⟨c, hc, h⟩ := bind_eq_ok_iff.mp h
      cases hp : policy path elsewhere e with
      | error fault =>
          rw [hp] at hc
          cases hc
      | ok p =>
          rw [hp] at hc
          obtain rfl := Except.ok.inj hc
          exact ⟨p, by rw [Setting.valueOf?, policy_ok hp]; rfl, (Except.ok.inj h).symm⟩

/-! ### Mappings -/

/-- What comes behind a key: the value of its setting, or one that is passed over. -/
def phaseBehind (e : Event) (name : String) : Phase :=
  match Setting.ofName? name with
  | none => .passing 0
  | some s => .value s (if e.isAlias then "?" else name)

/-- The settings that the events of a mapping give, from a phase of reading on, with the nodes of
their values. -/
def entriesFrom (d : Document) : Phase → List Event → List (Setting × Event)
  | _, [] => []
  | .passing depth, e :: rest =>
    entriesFrom d (if depthBehind depth e = 0 then .key else .passing (depthBehind depth e)) rest
  | .value s _, e :: rest => (s, d.node e) :: entriesFrom d .key rest
  | .key, e :: rest =>
    match e, d.node e with
    | .mappingEnd, _ => []
    | _, .scalar key => entriesFrom d (phaseBehind e (String.ofList key.text)) rest
    | _, _ => []

theorem entriesFrom_end (d : Document) (rest : List Event) :
    entriesFrom d .key (.mappingEnd :: rest) = [] := by
  simp only [entriesFrom]

theorem entriesFrom_key {d : Document} {e : Event} {key : Yaml.Scalar} (he : e ≠ .mappingEnd)
    (hkey : d.node e = .scalar key) (rest : List Event) :
    entriesFrom d .key (e :: rest) =
      entriesFrom d (phaseBehind e (String.ofList key.text)) rest := by
  conv => lhs; unfold entriesFrom
  rw [hkey]
  split
  · exact absurd rfl he
  · rename_i other _ hother
    obtain rfl := Event.scalar.inj hother
    rfl
  · rename_i hother
    exact absurd rfl (hother key)

/-- **What entries make of a configuration**: a setting has the value of its node, or else the value
it had. -/
def Follows (entries : List (Setting × Event)) (before c : Config) : Prop :=
  ∀ s, match entries.lookup s with
    | some e => s.valueOf? e = some (c.get s)
    | none => c.get s = before.get s

/-- An entry in front of others, whose setting is not among them. -/
theorem Follows.cons {entries : List (Setting × Event)} {before c : Config} {v : s.Value}
    (hv : s.valueOf? e = some v) (hnew : entries.lookup s = none)
    (h : Follows entries (before.put s v) c) : Follows ((s, e) :: entries) before c := by
  intro t
  have ht := h t
  by_cases hts : t = s
  · subst hts
    rw [hnew, get_put] at ht
    rw [List.lookup_cons_self]
    exact hv.trans (congrArg some ht.symm)
  · rw [List.lookup_cons, beq_eq_false_iff_ne.mpr hts]
    rwa [get_put_of_ne before hts] at ht

/-- **Reading a mapping**: the configuration follows its entries, and no setting that was given
before is among them. -/
theorem Reading.read_ok {d : Document} {phase : Phase} {events : List Event} {c : Config}
    (h : r.read d phase events = .ok c) (hphase : ∀ s path, phase = .value s path → s ∉ r.given) :
    Follows (entriesFrom d phase events) r.config c ∧
      ∀ s ∈ r.given, (entriesFrom d phase events).lookup s = none := by
  induction events generalizing r phase with
  | nil => cases h
  | cons e rest ih =>
      cases phase with
      | passing depth =>
          rw [Reading.read] at h
          exact ih h (by split <;> nofun)
      | value s path =>
          rw [Reading.read] at h
          split at h
          · rename_i r' hset
            obtain ⟨v, hv, rfl⟩ := Reading.set_ok hset
            -- The setting counts as given from here on, so no entry behind this one is its own.
            obtain ⟨hfollows, hnew⟩ := ih h nofun
            refine ⟨hfollows.cons hv (hnew s List.mem_cons_self), fun t ht => ?_⟩
            have hts : t ≠ s := by
              rintro rfl
              exact hphase t path rfl ht
            rw [entriesFrom, List.lookup_cons, beq_eq_false_iff_ne.mpr hts]
            exact hnew t (List.mem_cons_of_mem s ht)
          · cases h
      | key =>
          unfold Reading.read at h
          simp only at h
          split at h
          · obtain rfl := Except.ok.inj h
            rw [entriesFrom_end]
            exact ⟨fun s => rfl, fun s _ => rfl⟩
          · rename_i key he hkey
            rw [entriesFrom_key he hkey, phaseBehind]
            cases hname : Setting.ofName? (String.ofList key.text) with
            | none =>
                rw [hname] at h
                exact ih h nofun
            | some s =>
                rw [hname] at h
                simp only at h
                split at h
                · cases h
                · rename_i hnew
                  refine ih h ?_
                  rintro t path ⟨⟩
                  simpa using hnew
          · cases h

/-! ### Texts and files -/

/-- The settings that a document gives, with the nodes of their values. -/
def documentEntries (d : Document) : List (Setting × Event) :=
  match d.events with
  | .mappingStart _ :: rest => entriesFrom d .key rest
  | _ => []

/-- **The settings that a text gives**, with the nodes of their values. -/
def entries (source : String) : List (Setting × Event) :=
  match Document.ofText? source.toList with
  | some d => documentEntries d
  | none => []

/-- The configuration of a document follows its entries. -/
theorem ofDocument_ok {d : Document} {c : Config} (h : ofDocument d = .ok c) :
    Follows (documentEntries d) {} c := by
  have hwhole {x : Except Fault Config}
      (h : (do
        let c ← x
        (if d.isWhole then pure c else throw Fault.malformed : Except Fault Config)) = .ok c) :
      x = .ok c := by
    obtain ⟨c', rfl, h⟩ := bind_eq_ok_iff.mp h
    split at h
    · rw [Except.ok.inj h]
    · cases h
  unfold ofDocument at h
  unfold documentEntries
  simp only at h
  split at h
  · cases hwhole h
  · rename_i hevents
    have hread := hwhole h
    rw [hevents]
    exact (Reading.read_ok hread nofun).1
  · split at h
    · rename_i hevents
      obtain rfl := Except.ok.inj (hwhole h)
      rw [hevents]
      exact fun s => rfl
    · cases hwhole h

/-- **The configuration of a text**: it passes the check, and it follows what the text gives. -/
theorem ofYaml_ok {source : String} {c : Config} (h : ofYaml source = .ok c) :
    c.validate = .ok () ∧ Follows (entries source) {} c := by
  unfold ofYaml at h
  unfold entries
  cases hdocument : Document.ofText? source.toList with
  | none =>
      rw [hdocument] at h
      obtain ⟨hvalid, rfl⟩ := checked_eq_ok_iff.mp h
      exact ⟨hvalid, fun s => rfl⟩
  | some d =>
      rw [hdocument] at h
      cases hread : ofDocument d with
      | error fault =>
          simp only [hread] at h
          cases h
      | ok c' =>
          simp only [hread] at h
          obtain ⟨hvalid, rfl⟩ := checked_eq_ok_iff.mp h
          exact ⟨hvalid, ofDocument_ok hread⟩

/-- **What a text says about a setting**: the value of the node under its name. -/
def valueIn? (source : String) (s : Setting) : Option s.Value :=
  ((entries source).lookup s).bind s.valueOf?

/-- **What a file says about a setting**; a file without a text says nothing. -/
def givenIn? (file : Found) (s : Setting) : Option s.Value :=
  file.readText.toOption.bind (valueIn? · s)

/-- A configuration that a text gives has each setting from the text, or its default. -/
theorem get_of_ofYaml {source : String} {c : Config} (h : ofYaml source = .ok c) (s : Setting) :
    c.get s = (valueIn? source s).getD (({} : Config).get s) := by
  have hs := (ofYaml_ok h).2 s
  rw [valueIn?]
  cases hentry : (entries source).lookup s with
  | none =>
      rw [hentry] at hs
      exact hs
  | some e =>
      rw [hentry] at hs
      rw [Option.bind_some, hs]
      rfl

/-- A file with a text has that text. -/
theorem readText_ofText (text : String) : (Found.ofText text).readText = .ok text := by
  simp only [Found.ofText, Found.readText, Found.read]
  rw [bind_eq_ok_iff]
  refine ⟨_, rfl, ?_⟩
  rw [Utf8.decode?_encode]
  exact congrArg Except.ok (String.ofList_toList ..)

/-- Where nothing is, there is no text. -/
theorem readText_of_not_isThere {file : Found} (h : file.isThere = false) (source : String) :
    file.readText ≠ .ok source := by
  cases file with
  | nothing | blocked | tooLong | unnameable => nofun
  | directory | denied | file bytes => cases h

/-- A file gives a configuration if it is missing, or if it has a text that is a valid one. -/
theorem ofFile_eq_ok_iff {file : Found} {c : Config} :
    ofFile file = .ok c ↔
      file.isThere = false ∧ c = {} ∨
        ∃ source, file.readText = .ok source ∧ ofYaml source = .ok c := by
  rw [ofFile]
  cases hthere : file.isThere with
  | false => simp [readText_of_not_isThere hthere, eq_comm]
  | true =>
      cases htext : file.readText with
      | ok source => simp
      | error message => simp

/-- **A configuration that a file gives** has each setting from the file, or its default. -/
theorem get_of_ofFile {file : Found} {c : Config} (h : ofFile file = .ok c) (s : Setting) :
    c.get s = (givenIn? file s).getD (({} : Config).get s) := by
  rw [givenIn?]
  rcases ofFile_eq_ok_iff.mp h with ⟨hthere, rfl⟩ | ⟨source, htext, hyaml⟩
  · cases htext : file.readText with
    | ok source => exact absurd htext (readText_of_not_isThere hthere source)
    | error message => rfl
  · rw [htext, Except.toOption, Option.bind_some]
    exact get_of_ofYaml hyaml s

/-- **The configuration of a file and a given base URL**: the one of the file with that base URL, if
it passes the check. -/
theorem load_eq_ok_iff {file : Found} {url? : Option String} {c : Config} :
    load file url? = .ok c ↔
      ∃ base, ofFile file = .ok base ∧ (base.withApiUrl url?).validate = .ok () ∧
        c = base.withApiUrl url? := by
  simp only [load, bind_eq_ok_iff, checked_eq_ok_iff]

end Provisioning.Config
