/-
**Configuration files that are written line by line.**

A file with one setting to a line, in any order, with blank lines and comments between them, says
what it seems to say.  It is refused if a number does not fit its setting, or if a setting is given
twice.  Otherwise the configuration has the settings of the file and is the default elsewhere, and
whether it is accepted depends on the check alone.

Blank lines have nothing but blanks, since a tab is a token where a key may stand, and a comment has
no character that no text may hold and none that ends its line.

Main definitions:

* `Config.Entry` — the settings as they are written, and `Config.sourceOf` — **the text** of lines
  with them;
* `Config.Entry.Fits`, `Config.Entry.value` — whether a value fits, and the value it is;
* `Config.Acceptable`, `Config.Overrides` — settings that can be read, and what comes of them.

Main results:

* `Config.Reading.set_entry` — what an entry gives to its setting;
* `Config.Reading.read_entries` — **reading the entries of a mapping**;
* `Config.overridden_of_perm` — the order of settings does not matter where none is given twice;
* `Config.ofYaml_sourceOf` — **the configuration of a text** that is written line by line.
-/

import Mathlib.Data.List.Nodup
import Provisioning.Proofs.DecimalText
import Provisioning.Proofs.FileSettings
import Provisioning.Proofs.MappingTokens

set_option relaxedAutoImplicit false
set_option autoImplicit false

namespace Provisioning

/-- An integer without superfluous zeros is read as it is written. -/
theorem Yaml.unsigned?_toDigits (n : Nat) : Yaml.unsigned? (Nat.toDigits 10 n) = some n := by
  obtain ⟨d, rest, hdigits, hd⟩ := (Digits.isRun_toDigits n).exists_cons
  have hplus : Yaml.withoutPlus (Nat.toDigits 10 n) = Nat.toDigits 10 n := by
    rw [hdigits, Yaml.withoutPlus]
    rintro _ ⟨⟩
    cases hd
  rw [Yaml.unsigned?, hplus]
  have hread := Digits.some?_toDigits n
  by_cases hzero : d = '0'
  · subst hzero
    obtain rfl := Digits.eq_nil_of_toDigits n hdigits
    rw [hdigits] at hread ⊢
    exact hread
  · rw [hdigits] at hread ⊢
    unfold Yaml.magnitude?
    split
    all_goals
      first
        | exact hread
        | (rename_i heq
           exact absurd (List.cons.inj heq).1 hzero)

namespace Config

open Yaml (Document Event Fault Line Misfit Pair)

/-! ### Entries -/

/-- A setting as it is written. -/
inductive Entry where
  | apiUrl (url : String)
  | requestTimeout (secs : Nat)
  | coordinationTimeout (secs : Nat)
  | pollInterval (ms : Nat)
  | maxRetries (count : Nat)
  | readinessPolicy (p : Readiness.Policy)
  deriving DecidableEq, Repr

namespace Entry

/-- The setting of an entry. -/
def setting : Entry → Setting
  | .apiUrl _ => .apiUrl
  | .requestTimeout _ => .requestTimeout
  | .coordinationTimeout _ => .coordinationTimeout
  | .pollInterval _ => .pollInterval
  | .maxRetries _ => .maxRetries
  | .readinessPolicy _ => .readinessPolicy

/-- The value of an entry, of as many bits as the setting has. -/
def value : (e : Entry) → e.setting.Value
  | .apiUrl url => url
  | .requestTimeout n | .coordinationTimeout n | .pollInterval n => n.toUInt64
  | .maxRetries n => n.toUInt32
  | .readinessPolicy p => p

/-- Whether a number is in the range of its setting. -/
def Fits : Entry → Prop
  | .requestTimeout n | .coordinationTimeout n | .pollInterval n => n < UInt64.size
  | .maxRetries n => n < UInt32.size
  | .apiUrl _ | .readinessPolicy _ => True

instance : DecidablePred Fits := fun e => by
  cases e <;> unfold Fits <;> infer_instance

/-- The name and the value of an entry as they are written: a base URL in double quotes, and a
number without superfluous zeros. -/
def pair (e : Entry) : Pair :=
  match e with
  | .apiUrl url => ⟨e.setting.name.toList, .doubleQuoted, url.toList⟩
  | .requestTimeout n | .coordinationTimeout n | .pollInterval n | .maxRetries n =>
    ⟨e.setting.name.toList, .plain, Nat.toDigits 10 n⟩
  | .readinessPolicy p => ⟨e.setting.name.toList, .plain, p.name.toList⟩

/-- An entry that can be written: a base URL has to stand for itself in double quotes. -/
def IsWritten : Entry → Prop
  | .apiUrl url => Yaml.IsPrintable url.toList
  | _ => True

end Entry

variable {e : Entry} {s : Setting} {r : Reading} {entries : List Entry} {c : Config}

theorem isWord_name (s : Setting) : Yaml.IsWord s.name.toList := by
  cases s <;> exact ⟨⟨_, _, rfl, by decide⟩, List.all_eq_true.mp (by decide)⟩

theorem isWord_toDigits (n : Nat) : Yaml.IsWord (Nat.toDigits 10 n) where
  head := by
    obtain ⟨d, rest, hdigits, hd⟩ := (Digits.isRun_toDigits n).exists_cons
    exact ⟨d, rest, hdigits, by rw [Char.isAlphanum, hd, Bool.or_true]⟩
  all := fun d hd => by
    rw [Yaml.isNameCharacter, Char.isAlphanum, (Digits.isRun_toDigits n).isDigit d hd]
    simp

/-- An entry that can be written is one of a mapping that is written line by line. -/
theorem Entry.IsWritten.isSimple (h : e.IsWritten) : e.pair.IsSimple := by
  have hshort (s : Setting) : s.name.toList.length ≤ 1024 := by cases s <;> decide
  cases e with
  | apiUrl url => exact ⟨isWord_name _, hshort _, .inr ⟨rfl, h⟩⟩
  | requestTimeout n | coordinationTimeout n | pollInterval n | maxRetries n =>
      exact ⟨isWord_name _, hshort _, .inl ⟨rfl, isWord_toDigits n⟩⟩
  | readinessPolicy p =>
      have hpolicy : Yaml.IsWord p.name.toList := by
        cases p <;> exact ⟨⟨_, _, rfl, by decide⟩, List.all_eq_true.mp (by decide)⟩
      exact ⟨isWord_name _, hshort _, .inl ⟨rfl, hpolicy⟩⟩

/-! ### Reading entries -/

/-- **A number** is read if it is below the limit. -/
theorem count_toDigits (limit : Nat) (expected : String) (n : Nat) :
    (n < limit ∧ count limit expected (.scalar ⟨.plain, none, Nat.toDigits 10 n⟩) = .ok n) ∨
      (¬ n < limit ∧ ∃ m,
        count limit expected (.scalar ⟨.plain, none, Nat.toDigits 10 n⟩) = .error m) := by
  unfold count
  simp only [decide_true, Bool.true_or, if_true, Yaml.unsigned?_toDigits]
  by_cases hlimit : n < limit
  · exact .inl ⟨hlimit, by rw [if_pos hlimit]⟩
  · refine .inr ⟨hlimit, ?_⟩
    rw [if_neg hlimit]
    split
    · exact ⟨_, rfl⟩
    · exact ⟨_, rfl⟩

/-- The node of an entry's value. -/
def Entry.node (e : Entry) : Event := .scalar ⟨e.pair.style, none, e.pair.value⟩

/-- **What an entry gives to its setting**: the value, if that fits. -/
theorem Reading.set_entry (r : Reading) (path : String) (e : Entry) :
    (e.Fits ∧ r.set e.setting path false e.node =
      .ok ⟨r.config.put e.setting e.value, e.setting :: r.given⟩) ∨
      (¬ e.Fits ∧ ∃ fault, r.set e.setting path false e.node = .error fault) := by
  unfold Reading.set
  cases e with
  | apiUrl url =>
      have hurl : text (Entry.apiUrl url).node = .ok url :=
        congrArg Except.ok (String.ofList_toList ..)
      refine .inl ⟨trivial, ?_⟩
      simp only [Entry.setting, hurl]
      rfl
  | requestTimeout n | coordinationTimeout n | pollInterval n =>
      obtain ⟨hfits, hread⟩ | ⟨hfits, m, hread⟩ := count_toDigits UInt64.size "u64" n
      · refine .inl ⟨hfits, ?_⟩
        simp only [Entry.setting, Entry.node, Entry.pair, hread]
        rfl
      · refine .inr ⟨hfits, .misfit (some path) m, ?_⟩
        simp only [Entry.setting, Entry.node, Entry.pair, hread]
        rfl
  | maxRetries n =>
      obtain ⟨hfits, hread⟩ | ⟨hfits, m, hread⟩ := count_toDigits UInt32.size "u32" n
      · refine .inl ⟨hfits, ?_⟩
        simp only [Entry.setting, Entry.node, Entry.pair, hread]
        rfl
      · refine .inr ⟨hfits, .misfit (some path) m, ?_⟩
        simp only [Entry.setting, Entry.node, Entry.pair, hread]
        rfl
  | readinessPolicy p =>
      refine .inl ⟨trivial, ?_⟩
      cases p <;> rfl

theorem ofName?_name (s : Setting) : Setting.ofName? s.name = some s := by
  cases s <;> decide

/-- **An entry in a mapping** is read unless its setting was given before or its value is faulty. -/
theorem Reading.read_pair (d : Document) (r : Reading) (e : Entry) (rest : List Event) :
    Reading.read d r .key (e.pair.events ++ rest) =
      if r.given.contains e.setting then
        .error (.misfit none (.duplicateField e.setting.name))
      else
        match r.set e.setting e.setting.name false e.node with
        | .ok r => Reading.read d r .key rest
        | .error fault => .error fault := by
  have hkey : String.ofList e.pair.key = e.setting.name := by
    cases e <;> exact String.ofList_toList ..
  conv => lhs; unfold Reading.read
  simp only [Pair.events, List.cons_append, Document.node, hkey, ofName?_name, Event.isAlias]
  split
  · rfl
  · rfl

/-- **Settings that can be read**: every value fits, and no setting is given twice, or was given
before. -/
structure Acceptable (given : List Setting) (entries : List Entry) : Prop where
  fits : ∀ e ∈ entries, e.Fits
  nodup : (entries.map Entry.setting).Nodup
  fresh : ∀ e ∈ entries, e.setting ∉ given

theorem acceptable_cons {given : List Setting} : Acceptable given (e :: entries) ↔
    e.setting ∉ given ∧ e.Fits ∧ Acceptable (e.setting :: given) entries := by
  constructor
  · rintro ⟨hfits, hnodup, hfresh⟩
    obtain ⟨hfirst, hfits⟩ := List.forall_mem_cons.mp hfits
    obtain ⟨hnew, hfresh⟩ := List.forall_mem_cons.mp hfresh
    rw [List.map_cons, List.nodup_cons] at hnodup
    refine ⟨hnew, hfirst, hfits, hnodup.2, fun f hf => ?_⟩
    rw [List.mem_cons, not_or]
    exact ⟨fun heq => hnodup.1 (heq ▸ List.mem_map_of_mem hf), hfresh f hf⟩
  · rintro ⟨hnew, hfirst, hfits, hnodup, hfresh⟩
    refine ⟨List.forall_mem_cons.mpr ⟨hfirst, hfits⟩, ?_, List.forall_mem_cons.mpr ⟨hnew, ?_⟩⟩
    · rw [List.map_cons, List.nodup_cons]
      refine ⟨fun hmem => ?_, hnodup⟩
      obtain ⟨f, hf, heq⟩ := List.mem_map.mp hmem
      exact hfresh f hf (heq ▸ List.mem_cons_self)
    · exact fun f hf hgiven => hfresh f hf (List.mem_cons_of_mem _ hgiven)

theorem acceptable_nil_iff :
    Acceptable [] entries ↔ (∀ e ∈ entries, e.Fits) ∧ (entries.map Entry.setting).Nodup :=
  ⟨fun h => ⟨h.fits, h.nodup⟩, fun h => ⟨h.1, h.2, fun _ _ => List.not_mem_nil⟩⟩

/-- A configuration with the values of some entries. -/
def overridden (c : Config) (entries : List Entry) : Config :=
  entries.foldl (fun c e => c.put e.setting e.value) c

/-- **Reading the entries of a mapping.** -/
theorem Reading.read_entries (d : Document) (r : Reading) (entries : List Entry) :
    (Acceptable r.given entries ∧
      Reading.read d r .key ((entries.map Entry.pair).flatMap Pair.events ++ [.mappingEnd]) =
        .ok (overridden r.config entries)) ∨
    (¬ Acceptable r.given entries ∧ ∃ fault,
      Reading.read d r .key ((entries.map Entry.pair).flatMap Pair.events ++ [.mappingEnd]) =
        .error fault) := by
  induction entries generalizing r with
  | nil => exact .inl ⟨⟨by simp, List.nodup_nil, by simp⟩, rfl⟩
  | cons e entries ih =>
      rw [List.map_cons, List.flatMap_cons, List.append_assoc, read_pair, acceptable_cons]
      by_cases hgiven : r.given.contains e.setting = true
      · refine .inr ⟨fun h => h.1 (List.contains_iff_mem.mp hgiven), _, if_pos hgiven⟩
      · have hnew : e.setting ∉ r.given := fun hmem => hgiven (List.contains_iff_mem.mpr hmem)
        rw [if_neg hgiven]
        obtain ⟨hfits, hset⟩ | ⟨hfits, fault, hset⟩ := r.set_entry e.setting.name e
        · rw [hset]
          obtain ⟨hrest, hread⟩ | ⟨hrest, fault, hread⟩ :=
            ih ⟨r.config.put e.setting e.value, e.setting :: r.given⟩
          · exact .inl ⟨⟨hnew, hfits, hrest⟩, hread⟩
          · exact .inr ⟨fun h => hrest h.2.2, fault, hread⟩
        · rw [hset]
          exact .inr ⟨fun h => hfits h.2.1, fault, rfl⟩

/-! ### What entries make of a configuration -/

theorem put_comm (c : Config) {s t : Setting} (hne : s ≠ t) (v : s.Value) (w : t.Value) :
    (c.put s v).put t w = (c.put t w).put s v := by
  cases s <;> cases t <;> first | rfl | exact absurd rfl hne

/-- A setting that is not given keeps its value. -/
theorem get_overridden_of_not_mem (h : s ∉ entries.map Entry.setting) (c : Config) :
    (c.overridden entries).get s = c.get s := by
  induction entries generalizing c with
  | nil => rfl
  | cons e entries ih =>
      rw [List.map_cons, List.mem_cons, not_or] at h
      exact (ih h.2 _).trans (get_put_of_ne c h.1 e.value)

/-- **A setting that is given once** has the value of its entry. -/
theorem get_overridden_of_mem (hnodup : (entries.map Entry.setting).Nodup) (he : e ∈ entries)
    (c : Config) : (c.overridden entries).get e.setting = e.value := by
  induction entries generalizing c with
  | nil => cases he
  | cons f entries ih =>
      rw [List.map_cons, List.nodup_cons] at hnodup
      obtain rfl | he := List.mem_cons.mp he
      · exact (get_overridden_of_not_mem hnodup.1 _).trans (get_put c e.setting e.value)
      · exact ih hnodup.2 he _

/-- **The order of entries does not matter** where no setting is given twice. -/
theorem overridden_of_perm {more : List Entry} (hperm : more.Perm entries)
    (hnodup : (entries.map Entry.setting).Nodup) (c : Config) :
    c.overridden more = c.overridden entries := by
  refine (hperm.symm.foldl_eq' (fun e he f hf c => ?_) c).symm
  by_cases hef : e = f
  · rw [hef]
  · exact put_comm c (fun heq => hef (List.inj_on_of_nodup_map hnodup he hf heq)) e.value f.value

/-! ### Texts -/

/-- A line that can be written. -/
def IsWrittenLine : Line Entry → Prop
  | .entry e => e.IsWritten
  | .blank _ => True
  | .comment _ text => Yaml.IsRemark text

/-- **The text** of some lines. -/
def sourceOf (lines : List (Line Entry)) : String :=
  String.ofList (Yaml.source (lines.map (Line.map Entry.pair)))

/-- **What entries say** about a configuration: it has their values, and its defaults elsewhere. -/
structure Overrides (entries : List Entry) (c : Config) : Prop where
  given : ∀ e ∈ entries, c.get e.setting = e.value
  default : ∀ s, s ∉ entries.map Entry.setting → c.get s = ({} : Config).get s

variable {lines : List (Line Entry)}

theorem isSimple_map (h : ∀ l ∈ lines, IsWrittenLine l) :
    ∀ l ∈ lines.map (Line.map Entry.pair), l.IsSimple := by
  rw [List.forall_mem_map]
  intro l hl
  have hwritten := h l hl
  cases l with
  | entry e => exact Entry.IsWritten.isSimple hwritten
  | blank count => trivial
  | comment indent text => exact hwritten

/-- The configuration of a mapping of entries. -/
theorem ofDocument_mappingOf (entries : List Entry) :
    (Acceptable [] entries ∧ ofDocument (Yaml.mappingOf (entries.map Entry.pair)) =
      .ok (({} : Config).overridden entries)) ∨
    (¬ Acceptable [] entries ∧ ∃ fault,
      ofDocument (Yaml.mappingOf (entries.map Entry.pair)) = .error fault) := by
  have hdocument : ofDocument (Yaml.mappingOf (entries.map Entry.pair)) =
      Reading.read (Yaml.mappingOf (entries.map Entry.pair)) {} .key
        ((entries.map Entry.pair).flatMap Pair.events ++ [.mappingEnd]) := by
    rw [ofDocument]
    simp only [Yaml.mappingOf]
    cases Reading.read _ {} .key _ <;> rfl
  rw [hdocument]
  exact Reading.read_entries _ {} entries

/-- **The configuration of a text**: the one of its entries, checked, if they can be read. -/
theorem ofYaml_cases (h : ∀ l ∈ lines, IsWrittenLine l) :
    (Acceptable [] (Yaml.entriesOf lines) ∧ ofYaml (sourceOf lines) =
      (({} : Config).overridden (Yaml.entriesOf lines)).checked) ∨
    (¬ Acceptable [] (Yaml.entriesOf lines) ∧ ∃ fault,
      ofYaml (sourceOf lines) = .error (.parse fault)) := by
  have hdocument := Yaml.ofText?_source (isSimple_map h)
  simp only [Yaml.entriesOf_map, List.map_eq_nil_iff] at hdocument
  rw [ofYaml, sourceOf, String.toList_ofList, hdocument]
  by_cases hnone : Yaml.entriesOf lines = []
  · rw [if_pos hnone, hnone]
    exact .inl ⟨⟨by simp, List.nodup_nil, by simp⟩, rfl⟩
  · rw [if_neg hnone]
    obtain ⟨hentries, hread⟩ | ⟨hentries, fault, hread⟩ :=
      ofDocument_mappingOf (Yaml.entriesOf lines)
    · exact .inl ⟨hentries, by simp only [hread]⟩
    · exact .inr ⟨hentries, fault, by simp only [hread]⟩

/-- What entries that can be read say about a configuration. -/
theorem overrides_overridden (h : (entries.map Entry.setting).Nodup) :
    Overrides entries (({} : Config).overridden entries) where
  given := fun _ he => get_overridden_of_mem h he _
  default := fun _ hs => get_overridden_of_not_mem hs _

/-- The check is no reason for a fault of the text. -/
theorem checked_ne_parse (c : Config) (fault : Fault) : c.checked ≠ .error (.parse fault) := by
  rw [Config.checked]
  intro h
  cases hvalid : c.validate with
  | ok _ | error _ =>
      rw [hvalid] at h
      cases h

/-- **The configuration of a text that is written line by line.**  It is refused for its text if and
only if a number does not fit or a setting is given twice; otherwise it is the default with the
settings of the text, if that passes the check; and the order of the lines does not matter then. -/
theorem ofYaml_sourceOf (h : ∀ l ∈ lines, IsWrittenLine l) :
    ((∃ fault, ofYaml (sourceOf lines) = .error (.parse fault)) ↔
      (∃ e ∈ Yaml.entriesOf lines, ¬ e.Fits) ∨
        ¬ ((Yaml.entriesOf lines).map Entry.setting).Nodup) ∧
    ((∀ fault, ofYaml (sourceOf lines) ≠ .error (.parse fault)) →
      (∃ c, Overrides (Yaml.entriesOf lines) c ∧
        (c.validate = .ok () → ofYaml (sourceOf lines) = .ok c) ∧
        ∀ i, c.validate = .error i → ofYaml (sourceOf lines) = .error (.invalid i)) ∧
      ∀ more, (∀ l ∈ more, IsWrittenLine l) →
        (Yaml.entriesOf more).Perm (Yaml.entriesOf lines) →
          ofYaml (sourceOf more) = ofYaml (sourceOf lines)) := by
  obtain ⟨hentries, hyaml⟩ | ⟨hentries, fault, hyaml⟩ := ofYaml_cases h
  · obtain ⟨hfits, hnodup⟩ := acceptable_nil_iff.mp hentries
    refine ⟨⟨fun ⟨fault, hfault⟩ => ?_, ?_⟩,
      fun _ => ⟨⟨_, overrides_overridden hnodup, ?_, ?_⟩, ?_⟩⟩
    · exact absurd (hyaml.symm.trans hfault) (checked_ne_parse _ fault)
    · rintro (⟨e, he, hrange⟩ | htwice)
      · exact absurd (hfits e he) hrange
      · exact absurd hnodup htwice
    · intro hvalid
      rw [hyaml, checked, hvalid]
      rfl
    · intro i hinvalid
      rw [hyaml, checked, hinvalid]
      rfl
    · intro more hmore hperm
      have hmoreEntries : Acceptable [] (Yaml.entriesOf more) := acceptable_nil_iff.mpr
        ⟨fun e he => hfits e (hperm.mem_iff.mp he), (hperm.map Entry.setting).nodup_iff.mpr hnodup⟩
      obtain ⟨-, hmoreYaml⟩ | ⟨hnot, -⟩ := ofYaml_cases hmore
      · rw [hmoreYaml, hyaml, overridden_of_perm hperm hnodup]
      · exact absurd hmoreEntries hnot
  · rw [acceptable_nil_iff, not_and_or] at hentries
    refine ⟨⟨fun _ => hentries.imp_left fun hrange => ?_, fun _ => ⟨fault, hyaml⟩⟩,
      fun hno => absurd hyaml (hno fault)⟩
    simpa using hrange

theorem ofYaml_sourceOf_of_mixed :
    sourceOf [.comment 0 " waiting".toList, .entry (.maxRetries 3), .blank 2,
      .entry (.apiUrl "https://b #1")] =
        "# waiting\nmax-retries: 3\n  \napi-url: \"https://b #1\"" ∧
    ofYaml (sourceOf [.entry (.apiUrl "https://b #1"), .entry (.maxRetries 3)]) =
      ofYaml (sourceOf [.comment 0 " waiting".toList, .entry (.maxRetries 3), .blank 2,
        .entry (.apiUrl "https://b #1")]) := by
  have hurl : Yaml.IsPrintable "https://b #1".toList := by decide
  have hremark : Yaml.IsRemark " waiting".toList := by decide
  have hlines : ∀ l ∈ [Line.comment 0 " waiting".toList, .entry (.maxRetries 3), .blank 2,
      .entry (.apiUrl "https://b #1")], IsWrittenLine l := by
    simp only [List.forall_mem_cons]
    exact ⟨hremark, trivial, trivial, hurl, nofun⟩
  have hmore : ∀ l ∈ [Line.entry (.apiUrl "https://b #1"), .entry (.maxRetries 3)],
      IsWrittenLine l := by
    simp only [List.forall_mem_cons]
    exact ⟨hurl, trivial, nofun⟩
  refine ⟨by decide, ((ofYaml_sourceOf hlines).2 fun fault hfault => ?_).2 _ hmore ?_⟩
  · have hrefused := (ofYaml_sourceOf hlines).1.mp ⟨fault, hfault⟩
    revert hrefused
    decide
  · exact List.Perm.swap ..

/-- **Other blank lines and comments** may make a text faulty that says nothing wrong. -/
theorem ofYaml_of_tab_line : (Entry.maxRetries 3).Fits ∧
    ofYaml "\t\nmax-retries: 3\n" = .error (.parse .malformed) ∧
    ofYaml "# \x01\nmax-retries: 3\n" = .error (.parse .malformed) :=
  ⟨by decide, rfl, rfl⟩

end Config

end Provisioning
