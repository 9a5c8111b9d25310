/-
**What the words give to an option.**

Three options hold for every command: the configuration, the environment file and the base URL.
Each may stand in front of the command or behind it, with its value behind an equals sign or in the
next word, and no letter stands for it.  Which values the words give to such an option can be told
without reading anything else, since no value begins with two hyphens: a word that looks like the
option is the option, and the word behind it is its value.

The step lemma says what a word changes: the values read so far, with those that the words to come
give, stay the same.

Main definitions:

* `CommandLine.Key.isGlobal` — the options that hold for every command;
* `CommandLine.arguments` — the values that words give to an option;
* `CommandLine.Reading.given` — the values of an option among what was read;
* `CommandLine.Reading.all` — those read so far, and those in the words to come.

Main results:

* `CommandLine.giveWord_all` — **a word of a level** keeps the values of an option;
* `CommandLine.Level.values_of_read_end`, `CommandLine.Level.all_of_read_command` — so do all words;
* `CommandLine.Invocation.globals` — **what an accepted command line gives** to the three options.
-/

import Mathlib.Data.List.TakeDrop
import Provisioning.CommandLine.Reader
import Provisioning.Proofs.DecodedValue

set_option relaxedAutoImplicit false
set_option autoImplicit false

namespace Provisioning.CommandLine

open Json (bind_eq_ok_iff)

/-! ### Options that hold for every command -/

/-- **The options that hold for every command.** -/
def Key.isGlobal : Key → Bool
  | .config | .envFile | .apiUrl => true
  | .name | .port | .node | .plugin => false

/-- The name of an option behind two hyphens. -/
def Key.long : Key → String
  | .config => "config"
  | .envFile => "env-file"
  | .apiUrl => "api-url"
  | .name => "name"
  | .port => "port"
  | .node => "node"
  | .plugin => "plugin"

/-- The option is the one of its name. -/
theorem Level.long?_iff {level : Level} {name : String} {option : Switch} (k : Key)
    (h : level.long? name = some option) : option = .key k ↔ name = k.long := by
  have hentries : ∀ e ∈ entries, e.option = .key k ↔ e.long = k.long := by
    cases k with
    | config | envFile | apiUrl | name | port | node | plugin => decide
  obtain ⟨e, hfind, rfl⟩ := Option.map_eq_some_iff.mp h
  have hname := List.find?_some hfind
  simp only [Bool.and_eq_true, beq_iff_eq] at hname
  rw [hentries e (List.mem_of_find?_eq_some hfind), hname.1]

/-- No letter stands for an option that holds for every command. -/
theorem Level.short?_ne {level : Level} {letter : Char} {option : Switch} {k : Key}
    (hk : k.isGlobal) (h : level.short? letter = some option) : option ≠ .key k := by
  have hentries : ∀ e ∈ entries, e.option = .key k → e.short = none := by
    cases k with
    | config | envFile | apiUrl => decide
    | name | port | node | plugin => cases hk
  obtain ⟨e, hfind, rfl⟩ := Option.map_eq_some_iff.mp h
  intro hoption
  have hletter := List.find?_some hfind
  simp only [Bool.and_eq_true, beq_iff_eq] at hletter
  cases (hentries e (List.mem_of_find?_eq_some hfind) hoption).symm.trans hletter.1

/-! ### Values in words -/

/-- The value behind an equals sign. -/
def attached? (name : List Char) : Option String :=
  match name.dropWhile (· != '=') with
  | _ :: value => some (String.ofList value)
  | [] => none

/-- What stands behind two hyphens is the name of an option, with a value behind an equals sign or
without. -/
theorem attached?_cases (name : List Char) :
    (name = name.takeWhile (· != '=') ∧ attached? name = none) ∨
      ∃ value, name = name.takeWhile (· != '=') ++ '=' :: value ∧
        attached? name = some (String.ofList value) := by
  have hsplit := List.takeWhile_append_dropWhile (p := (· != '=')) (l := name)
  cases hdrop : name.dropWhile (· != '=') with
  | nil =>
      rw [hdrop, List.append_nil] at hsplit
      exact .inl ⟨hsplit.symm, by rw [attached?, hdrop]⟩
  | cons c value =>
      have hc := List.head?_dropWhile_not (· != '=') name
      rw [hdrop] at hc
      obtain rfl : c = '=' := by simpa using hc
      exact .inr ⟨value, by rw [← hdrop, hsplit], by rw [attached?, hdrop]⟩

/-- What a word says about an option: nothing, or that it is given, with its value behind an equals
sign or without. -/
def mention? (k : Key) (word : String) : Option (Option String) :=
  match word.toList with
  | '-' :: '-' :: name =>
    if String.ofList (name.takeWhile (· != '=')) = k.long then some (attached? name) else none
  | _ => none

/-- **The values that words give to an option**, each behind an equals sign or in the next word.
Two hyphens alone end the options. -/
def arguments (k : Key) : List String → List String
  | [] => []
  | word :: rest =>
    if word = "--" then []
    else
      match mention? k word, rest with
      | none, rest => arguments k rest
      | some (some value), rest => value :: arguments k rest
      | some none, [] => []
      | some none, value :: rest => value :: arguments k rest

/-- The values from an option on, which has its value attached or in the next word. -/
def argumentsFrom (k : Key) : Option String → List String → List String
  | some value, rest => value :: arguments k rest
  | none, [] => []
  | none, value :: rest => value :: arguments k rest

variable {k : Key}

theorem arguments_hyphens (rest : List String) : arguments k ("--" :: rest) = [] := by
  unfold arguments
  rw [if_pos rfl]

theorem arguments_of_mention {word : String} {attached : Option String} (hhyphens : word ≠ "--")
    (hword : mention? k word = some attached) (rest : List String) :
    arguments k (word :: rest) = argumentsFrom k attached rest := by
  unfold arguments
  rw [if_neg hhyphens, hword]
  cases attached with
  | some value => rfl
  | none =>
      cases rest with
      | nil => rfl
      | cons value rest => rfl

theorem arguments_of_not_mention {word : String} (hhyphens : word ≠ "--")
    (hword : mention? k word = none) (rest : List String) :
    arguments k (word :: rest) = arguments k rest := by
  conv => lhs; unfold arguments
  rw [if_neg hhyphens, hword]

/-- A word that does not begin with two hyphens is passed over. -/
theorem arguments_cons {word : String} (hword : ∀ name, word.toList ≠ '-' :: '-' :: name)
    (rest : List String) : arguments k (word :: rest) = arguments k rest := by
  refine arguments_of_not_mention ?_ ?_ rest
  · rintro rfl
    exact hword [] (by simp)
  · unfold mention?
    split
    · rename_i name hname
      exact absurd hname (hword name)
    · rfl

/-- **A word behind two hyphens** gives the option a value, or it is passed over. -/
theorem arguments_long {word : String} {name : List Char}
    (hword : word.toList = '-' :: '-' :: name) (hname : name ≠ []) (rest : List String) :
    arguments k (word :: rest) =
      if String.ofList (name.takeWhile (· != '=')) = k.long then
        argumentsFrom k (attached? name) rest
      else arguments k rest := by
  have hhyphens : word ≠ "--" := by
    rintro rfl
    exact hname (by simpa using hword.symm)
  split
  · rename_i hlong
    exact arguments_of_mention hhyphens (by simp only [mention?, hword, if_pos hlong]) rest
  · rename_i hlong
    exact arguments_of_not_mention hhyphens (by simp only [mention?, hword, if_neg hlong]) rest

/-! ### What was read -/

theorem values_append (k : Key) (settings more : List Setting) :
    values k (settings ++ more) = values k settings ++ values k more :=
  List.filterMap_append ..

/-- An option that is given once has the first of its values. -/
theorem value?_eq_head? (k : Key) (settings : List Setting) :
    value? k settings = (values k settings).head? :=
  List.head?_filterMap.symm

/-- The setting of an option has its value, and no other option has it. -/
theorem values_setting {key : Key} {value : String} {setting : Setting} (hk : k.isGlobal)
    (h : key.setting value = .ok setting) :
    values k [setting] = if key = k then [value] else [] := by
  have htext {setting : Setting}
      (h : (.ok (.text key value) : Except Halt Setting) = .ok setting) :
      values k [setting] = if key = k then [value] else [] := by
    obtain rfl := Except.ok.inj h
    by_cases hkey : key = k
    · simp [values, hkey]
    · simp [values, hkey]
  cases key with
  | port =>
      rw [Key.setting] at h
      split at h
      · obtain rfl := Except.ok.inj h
        rw [if_neg]
        · rfl
        · rintro rfl
          cases hk
      · cases h
  | config | envFile =>
      rw [Key.setting] at h
      split at h
      · cases h
      · exact htext h
  | apiUrl | name | node | plugin => exact htext h

namespace Reading

/-- **The values of an option among what was read**, settled or pending. -/
def given (k : Key) (r : Reading) : List String :=
  values k r.settings ++
    (r.pending.bind fun (key, value) => if key = k then value else none).toList

/-- What the words to come give to an option: if the option itself was read already, its value comes
first. -/
def toCome (k : Key) (r : Reading) (words : List String) : List String :=
  if r.awaitsValue = some k then argumentsFrom k none words else arguments k words

/-- **All values of an option**: those read so far, and those in the words to come. -/
def all (k : Key) (r : Reading) (words : List String) : List String := r.given k ++ r.toCome k words

/-- A reading that went on past something else than an option. -/
structure Passes (k : Key) (r s : Reading) : Prop where
  before : r.awaitsValue ≠ some k
  after : s.awaitsValue ≠ some k
  given_eq : s.given k = r.given k

variable {r s t : Reading}

theorem all_nil (k : Key) (r : Reading) : r.all k [] = r.given k := by
  simp [all, toCome, arguments, argumentsFrom]

theorem Passes.refl (h : r.awaitsValue = none) : Passes k r r := ⟨by simp [h], by simp [h], rfl⟩

theorem Passes.trans (h : Passes k r s) (hmore : Passes k s t) : Passes k r t where
  before := h.before
  after := hmore.after
  given_eq := hmore.given_eq.trans h.given_eq

/-- Past something that gives the option no value, its values are the same. -/
theorem Passes.all_eq (h : Passes k r s) {words rest : List String}
    (hwords : arguments k words = arguments k rest) : s.all k rest = r.all k words := by
  rw [all, all, toCome, toCome, if_neg h.before, if_neg h.after, h.given_eq, hwords]

/-- What was added is a setting behind the others. -/
theorem add_ok {option : Switch} {setting : Except Halt Setting}
    (h : r.add option setting = .ok s) :
    ∃ x, setting = .ok x ∧ s = { r with settings := r.settings ++ [x] } := by
  rw [add] at h
  split at h
  · cases h
  · cases setting with
    | error e => cases h
    | ok x => exact ⟨x, rfl, (Except.ok.inj h).symm⟩

/-- The values with a setting more, while nothing is pending. -/
theorem given_of_add {x : Setting} (hpending : r.pending = none) :
    { r with settings := r.settings ++ [x] }.given k = r.given k ++ values k [x] := by
  simp [given, hpending, values_append]

/-- **What is pending can be settled** if it has its value, and then nothing is pending. -/
theorem settle_ok (hk : k.isGlobal) (h : r.settle = .ok s) :
    r.awaitsValue = none ∧ s.pending = none ∧ s.given k = r.given k := by
  rw [settle] at h
  cases hpending : r.pending with
  | none =>
      rw [hpending] at h
      obtain rfl := Except.ok.inj h
      exact ⟨by rw [awaitsValue, hpending], hpending, rfl⟩
  | some pending =>
      obtain ⟨key, value⟩ := pending
      cases value with
      | none =>
          rw [hpending] at h
          cases h
      | some value =>
          rw [hpending] at h
          obtain ⟨x, hx, rfl⟩ := add_ok h
          refine ⟨by rw [awaitsValue, hpending], rfl, ?_⟩
          rw [given_of_add rfl, values_setting hk hx]
          by_cases hkey : key = k
          · simp [given, hpending, hkey]
          · simp [given, hpending, hkey]

/-- Once everything is settled, the values are among the settings. -/
theorem values_of_settle (hk : k.isGlobal) (h : r.settle = .ok s) :
    values k s.settings = r.given k := by
  obtain ⟨-, hpending, hgiven⟩ := settle_ok hk h
  rw [← hgiven]
  simp [given, hpending]

/-- While nothing is pending, an option can be in all words. -/
theorem all_of_pending (h : r.pending = none) (words : List String) :
    r.all k words = r.given k ++ arguments k words := by
  rw [all, toCome, awaitsValue, h, if_neg nofun]

/-- A setting of another option that is added changes nothing. -/
theorem passes_of_add {option : Switch} {setting : Except Halt Setting} (hk : k.isGlobal)
    (hsettle : r.settle = .ok s) (hadd : s.add option setting = .ok t)
    (hother : ∀ x, setting = .ok x → values k [x] = []) : Passes k r t := by
  obtain ⟨hbefore, hpending, hgiven⟩ := settle_ok hk hsettle
  obtain ⟨x, hx, rfl⟩ := add_ok hadd
  refine ⟨by simp [hbefore], by simp [awaitsValue, hpending], ?_⟩
  rw [given_of_add hpending, hother x hx, List.append_nil, hgiven]

theorem giveFlag_passes {f : Flag} (hk : k.isGlobal) (h : r.giveFlag f = .ok s) :
    Passes k r s := by
  rw [giveFlag] at h
  obtain ⟨settled, hsettle, h⟩ := bind_eq_ok_iff.mp h
  have hflag : ∀ x, (.ok (.flag f) : Except Halt Setting) = .ok x → values k [x] = [] := by
    intro x hx
    obtain rfl := Except.ok.inj hx
    rfl
  cases f with
  | help | version => cases h
  | verbose | failOnTimeout | dryRun | json => exact passes_of_add hk hsettle h hflag

/-- **An option is given**: its value, or the next word, is one more of its values. -/
theorem giveKey_all {key : Key} {attached : Option String} (hk : k.isGlobal)
    (h : r.giveKey key attached = .ok s) :
    r.awaitsValue = none ∧ ∀ rest, s.all k rest = r.given k ++
      (if key = k then argumentsFrom k attached rest else arguments k rest) := by
  rw [giveKey] at h
  obtain ⟨settled, hsettle, h⟩ := bind_eq_ok_iff.mp h
  obtain ⟨hbefore, hpending, hgiven⟩ := settle_ok hk hsettle
  refine ⟨hbefore, fun rest => ?_⟩
  cases attached with
  | some value =>
      obtain ⟨x, hx, rfl⟩ := add_ok h
      have hall := all_of_pending (k := k)
        (r := { settled with settings := settled.settings ++ [x] }) hpending rest
      rw [hall, given_of_add hpending, values_setting hk hx, hgiven]
      by_cases hkey : key = k
      · simp [hkey, argumentsFrom]
      · simp [hkey]
  | none =>
      obtain rfl := Except.ok.inj h
      rw [all, toCome, ← hgiven]
      by_cases hkey : key = k
      · simp [hkey, given, hpending, awaitsValue]
      · simp [hkey, given, hpending, awaitsValue]

/-- Another option is given. -/
theorem giveKey_passes {key : Key} {attached : Option String} (hk : k.isGlobal)
    (h : r.giveKey key attached = .ok s) (hkey : key ≠ k) : Passes k r s := by
  rw [giveKey] at h
  obtain ⟨settled, hsettle, h⟩ := bind_eq_ok_iff.mp h
  cases attached with
  | some value =>
      refine passes_of_add hk hsettle h fun x hx => ?_
      rw [values_setting hk hx, if_neg hkey]
  | none =>
      obtain ⟨hbefore, hpending, hgiven⟩ := settle_ok hk hsettle
      obtain rfl := Except.ok.inj h
      refine ⟨by simp [hbefore], by simp [awaitsValue, hkey], ?_⟩
      rw [← hgiven]
      simp [given, hpending, hkey]

theorem givePositional_passes {level : Level} {word : String} (hk : k.isGlobal)
    (h : r.givePositional level word = .ok s) : Passes k r s := by
  unfold givePositional at h
  split at h
  · obtain ⟨settled, hsettle, h⟩ := bind_eq_ok_iff.mp h
    obtain ⟨hbefore, hpending, hgiven⟩ := settle_ok hk hsettle
    obtain rfl := Except.ok.inj h
    exact ⟨by simp [hbefore], by simp [awaitsValue, hpending], hgiven⟩
  · cases h
  · cases h

/-- An option that awaits its value is pending without one. -/
theorem pending_of_awaitsValue {key : Key} (h : r.awaitsValue = some key) :
    r.pending = some (key, none) := by
  rw [awaitsValue] at h
  split at h
  · rename_i hpending
    obtain rfl := Option.some.inj h
    exact hpending
  · cases h

/-- The value of another option is given. -/
theorem giveValue_passes {key : Key} (value : String) (hawaits : r.awaitsValue = some key)
    (hkey : key ≠ k) : Passes k r (r.giveValue key value) := by
  refine ⟨by simp [hawaits, hkey], nofun, ?_⟩
  simp [given, giveValue, pending_of_awaitsValue hawaits, hkey]

/-- **The value of the option is given.** -/
theorem giveValue_all (value : String) (hawaits : r.awaitsValue = some k) (rest : List String) :
    (r.giveValue k value).all k rest = r.all k (value :: rest) := by
  simp [all, toCome, argumentsFrom, given, giveValue, awaitsValue, pending_of_awaitsValue hawaits]

end Reading

/-! ### Words -/

variable {level : Level} {r s : Reading}

/-- Reading a word behind two hyphens, by its name and its value. -/
theorem giveLong_eq (name : List Char) : giveLong level r name =
    match level.long? (String.ofList (name.takeWhile (· != '='))), attached? name with
    | none, _ => .error .unknownArgument
    | some (.key key), attached => r.giveKey key attached
    | some (.flag _), some _ => .error .tooManyValues
    | some (.flag f), none => r.giveFlag f := by
  simp only [giveLong, List.span_eq_takeWhile_dropWhile, attached?]
  cases level.long? (String.ofList (name.takeWhile (· != '='))) with
  | none => rfl
  | some option =>
      cases option with
      | key k => rfl
      | flag f =>
          cases name.dropWhile (· != '=') with
          | nil => rfl
          | cons c value => rfl

/-- **A word behind two hyphens** keeps the values of an option. -/
theorem giveLong_all {word : String} {name : List Char} (hk : k.isGlobal)
    (hword : word.toList = '-' :: '-' :: name) (hname : name ≠ [])
    (h : giveLong level r name = .ok s) (rest : List String) :
    s.all k rest = r.all k (word :: rest) := by
  have hwords := arguments_long (k := k) hword hname rest
  rw [giveLong_eq] at h
  split at h
  · cases h
  · rename_i key hlong
    obtain ⟨hbefore, hall⟩ := Reading.giveKey_all hk h
    have hkey : key = k ↔ _ := Switch.key.injEq .. ▸ Level.long?_iff k hlong
    rw [hall, Reading.all, Reading.toCome, hbefore, hwords]
    simp [hkey]
  · cases h
  · rename_i f hlong _
    rw [if_neg (by simp [← Level.long?_iff k hlong])] at hwords
    exact (Reading.giveFlag_passes hk h).all_eq hwords

/-- Letters behind one hyphen are no such option, and no value of one. -/
theorem giveLetters_passes {letters : List Char} (hk : k.isGlobal)
    (h : giveLetters level letters r = .ok s) : letters = [] ∧ s = r ∨ r.Passes k s := by
  induction letters generalizing r with
  | nil => exact .inl ⟨rfl, (Except.ok.inj h).symm⟩
  | cons letter rest ih =>
      right
      rw [giveLetters] at h
      split at h
      · cases h
      · obtain ⟨t, hflag, h⟩ := bind_eq_ok_iff.mp h
        have hpasses := Reading.giveFlag_passes hk hflag
        rcases ih h with ⟨-, rfl⟩ | hmore
        · exact hpasses
        · exact hpasses.trans hmore
      · rename_i key hshort
        have hkey : key ≠ k := fun hkey => Level.short?_ne hk hshort (congrArg Switch.key hkey)
        split at h
        · exact Reading.giveKey_passes hk h hkey
        · exact Reading.giveKey_passes hk h hkey
        · exact Reading.giveKey_passes hk h hkey

/-- **A word of a level** keeps the values of an option. -/
theorem giveWord_all {word : String} (hk : k.isGlobal) (hword : word ≠ "--")
    (h : giveWord level r word = .ok s) (rest : List String) :
    s.all k rest = r.all k (word :: rest) := by
  have hletters {letter : Char} {letters : List Char} (hletter : letter ≠ '-')
      (hchars : word.toList = '-' :: letter :: letters)
      (hgiven : giveLetters level (letter :: letters) r = .ok s) :
      s.all k rest = r.all k (word :: rest) := by
    rcases giveLetters_passes hk hgiven with ⟨hnil, -⟩ | hpasses
    · cases hnil
    · exact hpasses.all_eq (arguments_cons (by simp [hchars, hletter]) rest)
  -- The reader looks at the hyphens first: two of them, then one, and then none.
  unfold giveWord at h
  split at h
  case h_1 name hchars =>
    refine giveLong_all hk hchars ?_ h rest
    rintro rfl
    exact hword (String.toList_inj.mp (hchars.trans (by simp)))
  case h_2 letter letters hletter hchars hawaits =>
    split at h
    · obtain rfl := Except.ok.inj h
      have hport : Key.port ≠ k := by
        rintro rfl
        cases hk
      have hpasses := Reading.giveValue_passes word hawaits hport
      exact hpasses.all_eq (arguments_cons (by simpa [hchars] using hletter) rest)
    · exact hletters hletter hchars h
  case h_3 letter letters hletter hchars _ => exact hletters hletter hchars h
  case h_4 key hawaits hlong _ _ =>
    obtain rfl := Except.ok.inj h
    by_cases hkey : key = k
    · subst hkey
      exact Reading.giveValue_all word hawaits rest
    · exact (Reading.giveValue_passes word hawaits hkey).all_eq (arguments_cons hlong rest)
  case h_5 hlong _ =>
    exact (Reading.givePositional_passes hk h).all_eq (arguments_cons hlong rest)

/-- The words behind two hyphens are no options, and no values of them. -/
theorem giveTrailing_passes {words : List String} (hk : k.isGlobal)
    (h : giveTrailing level words r = .ok s) : words = [] ∧ s = r ∨ r.Passes k s := by
  induction words generalizing r with
  | nil => exact .inl ⟨rfl, (Except.ok.inj h).symm⟩
  | cons word rest ih =>
      right
      rw [giveTrailing] at h
      split at h
      · cases h
      · obtain ⟨t, hgiven, h⟩ := bind_eq_ok_iff.mp h
        have hpasses := Reading.givePositional_passes hk hgiven
        rcases ih h with ⟨-, rfl⟩ | hmore
        · exact hpasses
        · exact hpasses.trans hmore

/-! ### Levels -/

/-- A word that names a command does not begin with two hyphens. -/
theorem Level.not_hyphens_of_ofCommand? {word : String} {command : Level}
    (h : Level.ofCommand? word = some command) (name : List Char) :
    word.toList ≠ '-' :: '-' :: name := by
  unfold Level.ofCommand? at h
  split at h
  · simp
  · simp
  · simp
  · cases h

theorem Level.ofCommand?_ne_program (word : String) : Level.ofCommand? word ≠ some .program := by
  unfold Level.ofCommand?
  split
  · nofun
  · nofun
  · nofun
  · nofun

/-- **A level that no command ends**: what was read, once it is settled, has the values that the
words give. -/
theorem Level.values_of_read_end {words : List String} (hk : k.isGlobal)
    (h : level.read words r = .ok (s, none)) {settled : Reading}
    (hsettle : s.settle = .ok settled) :
    values k settled.settings = r.all k words := by
  have hawaits := (Reading.settle_ok hk hsettle).1
  rw [Reading.values_of_settle hk hsettle]
  induction words generalizing r with
  | nil =>
      obtain ⟨rfl, -⟩ := Prod.mk.inj (Except.ok.inj h)
      exact (r.all_nil k).symm
  | cons word rest ih =>
      rw [Level.read] at h
      split at h
      · rename_i hhyphens
        -- No option awaits its value here: it would not have been settled.
        obtain rfl := beq_iff_eq.mp hhyphens
        have hpasses : r.Passes k s := by
          cases htrailing : giveTrailing level rest r with
          | error e =>
              rw [htrailing] at h
              cases h
          | ok t =>
              rw [htrailing] at h
              obtain ⟨rfl, -⟩ := Prod.mk.inj (Except.ok.inj h)
              rcases giveTrailing_passes hk htrailing with ⟨-, rfl⟩ | hpasses
              · exact Reading.Passes.refl hawaits
              · exact hpasses
        rw [← s.all_nil]
        exact hpasses.all_eq (arguments_hyphens rest)
      · rename_i hhyphens
        split at h
        · cases h
        · split at h
          · cases h
          · obtain ⟨t, hword, h⟩ := bind_eq_ok_iff.mp h
            rw [ih h, giveWord_all hk (by simpa using hhyphens) hword]

/-- **A level that a command ends**: what was read has the values that the words in front of the
command give, and an option can be in the words behind it. -/
theorem Level.all_of_read_command {words behind : List String} {command : Level}
    (h : level.read words r = .ok (s, some (command, behind))) :
    level = .program ∧ ∃ front word, words = front ++ word :: behind ∧
      Level.ofCommand? word = some command ∧ s.awaitsValue = none ∧
        ∀ k : Key, k.isGlobal → ∀ more, s.all k more = r.all k (front ++ more) := by
  induction words generalizing r with
  | nil => cases h
  | cons word rest ih =>
      rw [Level.read] at h
      split at h
      · cases htrailing : giveTrailing level rest r with
        | ok t =>
            rw [htrailing] at h
            cases h
        | error e =>
            rw [htrailing] at h
            cases h
      · rename_i hhyphens
        split at h
        · cases h
        · split at h
          · rename_i hcommand
            obtain ⟨rfl, hsome⟩ := Prod.mk.inj (Except.ok.inj h)
            obtain ⟨rfl, rfl⟩ := Prod.mk.inj (Option.some.inj hsome)
            split at hcommand
            · rename_i houter
              simp only [Bool.and_eq_true, beq_iff_eq, Option.isNone_iff_eq_none] at houter
              exact ⟨houter.1, [], word, rfl, hcommand, houter.2, fun k _ more => rfl⟩
            · cases hcommand
          · obtain ⟨t, hword, h⟩ := bind_eq_ok_iff.mp h
            obtain ⟨hlevel, front, other, rfl, hother, hawaits, hmore⟩ := ih h
            refine ⟨hlevel, word :: front, other, rfl, hother, hawaits, fun k hk more => ?_⟩
            rw [hmore k hk, giveWord_all hk (by simpa using hhyphens) hword]
            rfl

/-! ### Invocations -/

/-- The setting of an option that holds for every command. -/
def Invocation.global? (i : Invocation) : Key → Option String
  | .config => i.config
  | .envFile => i.envFile
  | .apiUrl => i.apiUrl
  | .name | .port | .node | .plugin => none

/-- **The parts of an accepted command line**: the level in front of the command, and the one behind
it, both settled, with the value of each option that holds for every command. -/
theorem Invocation.ofArguments_parts {apiUrl : Option String} {words : List String} {i : Invocation}
    (h : Invocation.ofArguments apiUrl words = .ok i) :
    ∃ outer level behind inner next outerSettled innerSettled,
      Level.program.read words {} = .ok (outer, some (level, behind)) ∧
      level.read behind {} = .ok (inner, next) ∧ inner.settle = .ok innerSettled ∧
      outer.settle = .ok outerSettled ∧
      ∀ k : Key, k.isGlobal → i.global? k =
        ((value? k innerSettled.settings).or (value? k outerSettled.settings)).or
          (if k = .apiUrl then apiUrl else none) := by
  rw [Invocation.ofArguments] at h
  obtain ⟨⟨outer, command⟩, houter, h⟩ := bind_eq_ok_iff.mp h
  cases command with
  | none =>
      obtain ⟨settled, -, h⟩ := bind_eq_ok_iff.mp h
      split at h
      · cases h
      · cases h
  | some command =>
      obtain ⟨level, behind⟩ := command
      obtain ⟨⟨inner, next⟩, hinner, h⟩ := bind_eq_ok_iff.mp h
      obtain ⟨innerSettled, hinnerSettle, h⟩ := bind_eq_ok_iff.mp h
      obtain ⟨command, -, h⟩ := bind_eq_ok_iff.mp h
      obtain ⟨outerSettled, houterSettle, h⟩ := bind_eq_ok_iff.mp h
      obtain rfl := Except.ok.inj h
      refine ⟨outer, level, behind, inner, next, outerSettled, innerSettled, houter, hinner,
        hinnerSettle, houterSettle, fun k hk => ?_⟩
      cases k with
      | config | envFile => exact (Option.or_none ..).symm
      | apiUrl => rfl
      | name | port | node | plugin => cases hk

/-- **What an accepted command line gives** to an option that holds for every command: the value
behind the command, or else the one in front of it.  The base URL may come from elsewhere. -/
theorem Invocation.globals {apiUrl : Option String} {words : List String} {i : Invocation}
    (h : Invocation.ofArguments apiUrl words = .ok i) :
    ∃ front command behind, words = front ++ command :: behind ∧
      (Level.ofCommand? command).isSome ∧ ∀ k : Key, k.isGlobal →
        arguments k words = arguments k front ++ arguments k behind ∧
        i.global? k = ((arguments k behind).head?.or (arguments k front).head?).or
          (if k = .apiUrl then apiUrl else none) := by
  obtain ⟨outer, level, behind, inner, next, outerSettled, innerSettled, houter, hinner,
    hinnerSettle, houterSettle, hglobal⟩ := Invocation.ofArguments_parts h
  obtain ⟨-, front, command, rfl, hcommand, hawaits, hmore⟩ := Level.all_of_read_command houter
  -- A command stands in front of the words of its level, and there is none among them.
  obtain rfl : next = none := by
    cases next with
    | none => rfl
    | some more =>
        obtain ⟨rfl, -⟩ := Level.all_of_read_command hinner
        exact absurd hcommand (Level.ofCommand?_ne_program command)
  refine ⟨front, command, behind, rfl, by rw [hcommand]; rfl, fun k hk => ?_⟩
  have hstart (words : List String) : Reading.all k {} words = arguments k words := rfl
  have hinner_eq : values k innerSettled.settings = arguments k behind :=
    Level.values_of_read_end hk hinner hinnerSettle
  have houter_eq : outer.given k = arguments k front := by
    rw [← outer.all_nil, hmore k hk [], List.append_nil, hstart]
  constructor
  · have hall := hmore k hk (command :: behind)
    rw [Reading.all, Reading.toCome, hawaits, if_neg nofun, houter_eq, hstart,
      arguments_cons (Level.not_hyphens_of_ofCommand? hcommand)] at hall
    exact hall.symm
  · rw [hglobal k hk, value?_eq_head?, value?_eq_head?, hinner_eq,
      Reading.values_of_settle hk houterSettle, houter_eq]

/-- An option that is given once has its only value. -/
theorem Invocation.global?_of_once {apiUrl : Option String} {words : List String} {i : Invocation}
    (h : Invocation.ofArguments apiUrl words = .ok i) (hk : k.isGlobal)
    (honce : (arguments k words).length ≤ 1) :
    i.global? k = (arguments k words).head?.or (if k = .apiUrl then apiUrl else none) := by
  obtain ⟨front, command, behind, -, -, hglobals⟩ := Invocation.globals h
  obtain ⟨hwords, hglobal⟩ := hglobals k hk
  rw [hglobal]
  rw [hwords] at honce ⊢
  cases hfront : arguments k front with
  | nil => simp
  | cons value more =>
      have hbehind : arguments k behind = [] := by
        rw [hfront, List.length_append, List.length_cons] at honce
        exact List.length_eq_zero_iff.mp (by omega)
      simp [hbehind]

end Provisioning.CommandLine
