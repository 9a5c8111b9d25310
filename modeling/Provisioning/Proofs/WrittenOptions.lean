/-
**Command lines as they are written.**

Every option can be written as one word, with its value behind an equals sign.  A value that is
written like this may be any text, one that looks like an option or like an assignment included: all
that is looked at in the word is the name of the option, which ends at the first equals sign.  So a
command line can be put together from options without a look at their values, and what is read of it
is what was put in.

The options of a request stand behind the command.  Those that hold for every command may stand on
either side of it, and where they are given once it does not matter on which.

Main definitions:

* `CommandLine.Setting.word` — **how an option is written**;
* `CommandLine.GivesRequest` — options that give a request, among others;
* `CommandLine.Globals` — the options that hold for every command.

Main results:

* `CommandLine.integer?_toString` — a port is read as it is written;
* `CommandLine.Level.read_words` — **options are read as they are written**, whatever follows;
* `CommandLine.ofArguments_written` — so is a whole command line.
-/

import Provisioning.Proofs.GivenOption
import Provisioning.Proofs.NumberText

set_option relaxedAutoImplicit false
set_option autoImplicit false

namespace Provisioning.CommandLine

open Json (NumberText)

/-! ### How an option is written -/

/-- How an option without a value is written. -/
def Flag.word : Flag → String
  | .verbose => "-v"
  | .failOnTimeout => "--fail-on-timeout"
  | .dryRun => "--dry-run"
  | .json => "--json"
  | .help => "--help"
  | .version => "--version"

/-- How an option with a value is written. -/
def Key.word (k : Key) (value : String) : String := "--" ++ k.long ++ "=" ++ value

/-- **How an option is written** with its value. -/
def Setting.word : Setting → String
  | .flag f => f.word
  | .text k value => k.word value
  | .port p => Key.port.word (toString p.toInt)

/-- The options that hold for every command. -/
def Setting.isGlobal : Setting → Bool
  | .flag .verbose => true
  | .flag _ => false
  | .text k _ => k.isGlobal
  | .port _ => false

/-- The options of a request. -/
def Setting.isOfRequest : Setting → Bool
  | .text .name _ | .text .node _ | .text .plugin _ | .port _ => true
  | _ => false

/-- Whether an option may be given at a level. -/
def Setting.isAt (level : Level) (s : Setting) : Bool :=
  s.isGlobal || (s.isOfRequest && level.hasRequest)

/-- Whether an option has a value that it can have: a path must not be empty. -/
def Setting.hasValue : Setting → Bool
  | .text .config path | .text .envFile path => !path.isEmpty
  | _ => true

/-! ### Ports -/

/-- **A port is read as it is written.** -/
theorem integer?_toString (p : Int64) : integer? (toString p.toInt) = some p := by
  have hrun := Digits.isRun_toDigits p.toInt.natAbs
  have hsome := Digits.some?_toDigits p.toInt.natAbs
  have hfits : (Int64.minValue.toInt ≤ p.toInt && p.toInt ≤ Int64.maxValue.toInt) = true := by
    rw [Bool.and_eq_true, decide_eq_true_eq, decide_eq_true_eq]
    exact ⟨p.minValue_le_toInt, p.toInt_le⟩
  have hunsigned : (NumberText.ofInt p.toInt).unsigned = Nat.toDigits 10 p.toInt.natAbs :=
    List.append_nil _
  rw [integer?, NumberText.toList_toString, NumberText.chars, hunsigned]
  by_cases hsign : p.toInt < 0
  · have hvalue : -(p.toInt.natAbs : Int) = p.toInt := by omega
    rw [show (NumberText.ofInt p.toInt).negative = true from decide_eq_true hsign]
    simp only [if_true, hsome, Option.bind_some, hvalue, hfits, Int64.ofInt_toInt]
  · have hvalue : (p.toInt.natAbs : Int) = p.toInt := by omega
    obtain ⟨d, digits, hdigits, hd⟩ := hrun.exists_cons
    rw [show (NumberText.ofInt p.toInt).negative = false from decide_eq_false hsign]
    rw [hdigits] at hsome ⊢
    -- A digit is no sign.
    have hminus : d ≠ '-' := by
      rintro rfl
      cases hd
    have hplus : d ≠ '+' := by
      rintro rfl
      cases hd
    simp [hminus, hplus, hsome, hvalue, p.toInt_le]

/-! ### One word -/

variable {level : Level} {r : Reading}

/-- An option is found by its name at a level where it may be given. -/
theorem Level.long?_long {k : Key} (h : (k.isGlobal || level.hasRequest) = true) :
    level.long? k.long = some (.key k) := by
  cases k <;> cases level <;> first | rfl | cases h

/-- No name of an option has an equals sign. -/
theorem Key.ne_of_mem_long (k : Key) : ∀ c ∈ k.long.toList, (c != '=') = true :=
  List.all_eq_true.mp (by cases k <;> decide)

/-- **A word with a value** gives the value to its option, whatever the value is. -/
theorem giveWord_key {k : Key} (h : (k.isGlobal || level.hasRequest) = true)
    (hpending : r.pending = none) (value : String) :
    giveWord level r (k.word value) = r.add (.key k) (k.setting value) := by
  have hword : (k.word value).toList = '-' :: '-' :: (k.long.toList ++ '=' :: value.toList) := by
    simp [Key.word]
  have hspan : (k.long.toList ++ '=' :: value.toList).span (· != '=') =
      (k.long.toList, '=' :: value.toList) := span_append k.ne_of_mem_long rfl
  have hsettle : r.settle = .ok r := by rw [Reading.settle, hpending]
  rw [giveWord, hword]
  simp only [giveLong, hspan, String.ofList_toList, Level.long?_long h, Reading.giveKey, hsettle]
  rfl

/-- **One more flag** to show notices. -/
theorem giveWord_verbose (hpending : r.pending = none) :
    giveWord level r "-v" = .ok { r with settings := r.settings ++ [.flag .verbose] } := by
  have hawaits : r.awaitsValue = none := by rw [Reading.awaitsValue, hpending]
  have hsettle : r.settle = .ok r := by rw [Reading.settle, hpending]
  rw [giveWord, hawaits]
  simp only [giveLetters, Reading.giveFlag, hsettle]
  rfl

/-- Of two options that are given, the second one is another option or may be given again. -/
def Setting.Allows (s t : Setting) : Prop := s.option = t.option → t.option.isRepeatable = true

/-- An option that all options given before allow is added. -/
theorem Reading.add_of_allowed {s : Setting} (hallowed : ∀ t ∈ r.settings, t.Allows s) :
    r.add s.option (.ok s) = .ok { r with settings := r.settings ++ [s] } := by
  rw [Reading.add, if_neg]
  · rfl
  · rw [Bool.and_eq_true, Bool.not_eq_true', List.any_eq_true]
    rintro ⟨honce, t, ht, hoption⟩
    rw [hallowed t ht (beq_iff_eq.mp hoption)] at honce
    cases honce

/-- An option that has the value it can have. -/
theorem Key.setting_text {k : Key} {value : String} (hat : (Setting.text k value).isAt level = true)
    (hvalue : (Setting.text k value).hasValue = true) :
    k.setting value = .ok (.text k value) := by
  cases k with
  | config | envFile => simpa [Key.setting, Setting.hasValue] using hvalue
  | apiUrl | name | node | plugin => rfl
  | port => simp [Setting.isAt, Setting.isGlobal, Setting.isOfRequest, Key.isGlobal] at hat

/-- An option with a value is one of its level. -/
theorem Key.isAt_of_text {k : Key} {value : String}
    (hat : (Setting.text k value).isAt level = true) :
    (k.isGlobal || level.hasRequest) = true := by
  rw [Setting.isAt, Bool.or_eq_true, Bool.and_eq_true] at hat
  exact Bool.or_eq_true_iff.mpr (hat.imp id And.right)

/-- **A word is read** as the option that is written. -/
theorem giveWord_word {s : Setting} (hat : s.isAt level = true) (hvalue : s.hasValue = true)
    (hpending : r.pending = none) (hallowed : ∀ t ∈ r.settings, t.Allows s) :
    giveWord level r s.word = .ok { r with settings := r.settings ++ [s] } := by
  have hadd := Reading.add_of_allowed hallowed
  cases s with
  | flag f =>
      cases f with
      | verbose => exact giveWord_verbose hpending
      | failOnTimeout | dryRun | json | help | version => cases hat
  | port p =>
      have hlevel : (Key.port.isGlobal || level.hasRequest) = true := by
        simpa [Setting.isAt, Setting.isGlobal, Setting.isOfRequest, Key.isGlobal] using hat
      rw [Setting.word, giveWord_key hlevel hpending, Key.setting, integer?_toString]
      exact hadd
  | text k value =>
      rw [Setting.word, giveWord_key (Key.isAt_of_text hat) hpending, Key.setting_text hat hvalue]
      exact hadd

/-! ### Levels -/

/-- A word that begins with a hyphen names no command. -/
theorem Level.ofCommand?_of_hyphen {word : String} (h : word.toList.head? = some '-') :
    Level.ofCommand? word = none := by
  unfold Level.ofCommand?
  split
  · simp at h
  · simp at h
  · simp at h
  · rfl

theorem Setting.head?_word (s : Setting) : s.word.toList.head? = some '-' := by
  cases s with
  | flag f => cases f <;> rfl
  | text k value => simp [Setting.word, Key.word]
  | port p => simp [Setting.word, Key.word]

theorem Key.word_ne (k : Key) (value : String) : k.word value ≠ "--" := by
  intro h
  have hlength := congrArg (fun word => word.toList.length) h
  simp [Key.word] at hlength

theorem Setting.word_ne (s : Setting) : s.word ≠ "--" := by
  cases s with
  | flag f => cases f <;> decide
  | text k value => exact k.word_ne value
  | port p => exact Key.port.word_ne _

/-- **A word of a level** that is an option. -/
theorem Level.read_word {s : Setting} (hat : s.isAt level = true) (hvalue : s.hasValue = true)
    (hpending : r.pending = none) (hallowed : ∀ t ∈ r.settings, t.Allows s) (rest : List String) :
    level.read (s.word :: rest) r = level.read rest { r with settings := r.settings ++ [s] } := by
  have hhelp : s.word ≠ "help" := by
    intro h
    have hhead := s.head?_word
    rw [h] at hhead
    simp at hhead
  rw [Level.read, if_neg (by simpa using s.word_ne), if_neg (by simp [hhelp]),
    Level.ofCommand?_of_hyphen s.head?_word, ite_self, giveWord_word hat hvalue hpending hallowed]
  rfl

/-- **Options are read as they are written**, whatever follows. -/
theorem Level.read_words {settings : List Setting} (hat : ∀ s ∈ settings, s.isAt level = true)
    (hvalue : ∀ s ∈ settings, s.hasValue = true) (hpending : r.pending = none)
    (hallowed : (r.settings ++ settings).Pairwise Setting.Allows) (rest : List String) :
    level.read (settings.map Setting.word ++ rest) r =
      level.read rest { r with settings := r.settings ++ settings } := by
  induction settings generalizing r with
  | nil => rw [List.map_nil, List.nil_append, List.append_nil]
  | cons s settings ih =>
      obtain ⟨hs, hat⟩ := List.forall_mem_cons.mp hat
      obtain ⟨hsvalue, hvalue⟩ := List.forall_mem_cons.mp hvalue
      have hbefore : ∀ t ∈ r.settings, t.Allows s := fun t ht =>
        (List.pairwise_append.mp hallowed).2.2 t ht s List.mem_cons_self
      rw [List.append_cons] at hallowed
      rw [List.map_cons, List.cons_append, Level.read_word hs hsvalue hpending hbefore,
        @ih { r with settings := r.settings ++ [s] } hat hvalue hpending hallowed,
        List.append_assoc, List.singleton_append]

/-- **A command** ends the level of the program. -/
theorem Level.read_command_word {word : String} {command : Level}
    (hcommand : Level.ofCommand? word = some command) (hpending : r.pending = none)
    (rest : List String) :
    Level.program.read (word :: rest) r = .ok (r, some (command, rest)) := by
  have hhyphens : word ≠ "--" := by
    rintro rfl
    cases hcommand
  have hhelp : word ≠ "help" := by
    rintro rfl
    cases hcommand
  have hawaits : r.awaitsValue = none := by rw [Reading.awaitsValue, hpending]
  rw [Level.read, if_neg (by simpa using hhyphens), if_neg (by simp [hhelp]), hawaits, hcommand]
  rfl

/-! ### Command lines -/

/-- The ports that are given. -/
def ports (settings : List Setting) : List Int64 :=
  settings.filterMap fun
    | .port p => some p
    | _ => none

/-- **Options give a request**, among others: its name and its port once, and its nodes and plugins
in their order. -/
structure GivesRequest (settings : List Setting) (r : Request) : Prop where
  name : values .name settings = [r.serviceName]
  port : ports settings = r.clientPort.toList
  nodes : values .node settings = r.nodes
  plugins : values .plugin settings = r.plugins

/-- **The options that hold for every command.** -/
structure Globals where
  verbose : Bool := false
  config : Option String := none
  envFile : Option String := none
  apiUrl : Option String := none
  deriving DecidableEq, Repr

/-- Options give those that hold for every command, each of them at most once. -/
structure GivesGlobals (settings : List Setting) (g : Globals) : Prop where
  verbose : settings.count (.flag .verbose) = g.verbose.toNat
  config : values .config settings = g.config.toList
  envFile : values .envFile settings = g.envFile.toList
  apiUrl : values .apiUrl settings = g.apiUrl.toList

/-- The arguments that are read as a request. -/
def argumentsOf (r : Request) : RequestArguments where
  name := r.serviceName
  port := r.clientPort
  nodes := r.nodes
  plugins := r.plugins

/-- The command of a level that takes a request and nothing else. -/
def Level.asking (level : Level) (a : RequestArguments) : Command :=
  if level = .provision then .provision { request := a } else .validate a

section Given

variable {settings front behind : List Setting} {k : Key} {request : Request} {g : Globals}

/-- A port is given by its own option only. -/
theorem Setting.port_of_isAt {level : Level} {s : Setting} (hat : s.isAt level = true)
    (h : s.option = .key .port) : ∃ p, s = .port p := by
  cases s with
  | flag f => cases h
  | port p => exact ⟨p, rfl⟩
  | text k value =>
      obtain rfl : k = .port := Switch.key.inj h
      cases hat

/-- An option whose values are given at most once is allowed by all options before it. -/
theorem pairwise_allows {level : Level} (hat : ∀ s ∈ settings, s.isAt level = true)
    (hkeys : ∀ k : Key, k ≠ .port → (Switch.key k).isRepeatable = false →
      (values k settings).length ≤ 1)
    (hports : (ports settings).length ≤ 1) : settings.Pairwise Setting.Allows := by
  rw [List.pairwise_iff_forall_sublist]
  intro s t hsub hoption
  have hs := hat s (hsub.subset List.mem_cons_self)
  have ht := hat t (hsub.subset (List.mem_cons_of_mem _ List.mem_cons_self))
  cases t with
  | flag f =>
      cases f with
      | verbose => rfl
      | failOnTimeout | dryRun | json | help | version => cases ht
  | port p =>
      -- Two ports would be two values.
      obtain ⟨q, rfl⟩ := Setting.port_of_isAt hs hoption
      have htwo : (ports [.port q, .port p]).length ≤ (ports settings).length :=
        (hsub.filterMap _).length_le
      have hlength : (ports [.port q, .port p]).length = 2 := rfl
      omega
  | text k value =>
      cases hrepeatable : (Switch.key k).isRepeatable with
      | true => exact hrepeatable
      | false =>
          cases s with
          | flag f => cases hoption
          | port q =>
              obtain ⟨p, hp⟩ := Setting.port_of_isAt ht hoption.symm
              cases hp
          | text other word =>
              obtain rfl : other = k := Switch.key.inj hoption
              have htwo : (values other [.text other word, .text other value]).length ≤
                  (values other settings).length := (hsub.filterMap _).length_le
              have hlength : (values other [.text other word, .text other value]).length = 2 := by
                simp [values]
              have hport : other ≠ .port := by
                rintro rfl
                cases ht
              have hone := hkeys other hport hrepeatable
              omega

/-- The options of a request are not given in front of the command. -/
theorem values_of_isGlobal (hglobal : ∀ s ∈ settings, s.isGlobal = true) (hk : k.isGlobal = false) :
    values k settings = [] := by
  refine List.filterMap_eq_nil_iff.mpr fun s hs => ?_
  have hs := hglobal s hs
  cases s with
  | flag f => rfl
  | port p => rfl
  | text key value =>
      have hne : key ≠ k := by
        rintro rfl
        cases hk.symm.trans hs
      simp [hne]

theorem ports_of_isGlobal (hglobal : ∀ s ∈ settings, s.isGlobal = true) : ports settings = [] := by
  refine List.filterMap_eq_nil_iff.mpr fun s hs => ?_
  have hs := hglobal s hs
  cases s with
  | flag f => rfl
  | port p => cases hs
  | text key value => rfl

/-- **What is given to a request** is the request. -/
theorem requestArguments_eq (h : GivesRequest settings request) :
    requestArguments settings = argumentsOf request := by
  have hport : port? settings = request.clientPort := by
    have hhead : port? settings = (ports settings).head? := List.head?_filterMap.symm
    rw [hhead, h.port]
    cases request.clientPort <;> rfl
  rw [requestArguments, value?_eq_head?, h.name, hport, h.nodes, h.plugins]
  rfl

/-- **What a command is asked for** when nothing but a request is given to it. -/
theorem commandOf_eq {level : Level} (hlevel : level.hasRequest = true)
    (hbehind : ∀ s ∈ behind, s.isGlobal = true ∨ s.isOfRequest = true)
    (h : GivesRequest behind request) :
    commandOf level { settings := behind } = .ok (level.asking (argumentsOf request)) := by
  have hflag {f : Flag} (hf : f ≠ .verbose) : Setting.flag f ∉ behind := by
    intro hmem
    obtain hglobal | hof := hbehind _ hmem
    · cases f <;> first | exact hf rfl | cases hglobal
    · cases hof
  cases level with
  | provision => simp [commandOf, hflag, requestArguments_eq h, Level.asking]
  | validate => simp [commandOf, requestArguments_eq h, Level.asking]
  | program | status => cases hlevel

/-- **A value that is given once** is found on whichever side it is. -/
theorem value?_or_eq {value : Option String}
    (h : values k (front ++ behind) = value.toList) :
    (value? k behind).or (value? k front) = value := by
  rw [value?_eq_head?, value?_eq_head?]
  rw [values_append] at h
  cases hbehind : values k behind with
  | nil =>
      rw [hbehind, List.append_nil] at h
      rw [h]
      cases value <;> rfl
  | cons word rest =>
      rw [hbehind] at h
      cases value with
      | none => simp at h
      | some v =>
          obtain ⟨-, hword, -⟩ : values k front = [] ∧ word = v ∧ rest = [] := by
            cases hfront : values k front with
            | nil =>
                rw [hfront] at h
                simpa using h
            | cons other more =>
                rw [hfront] at h
                simp at h
          rw [hword]
          rfl

/-- The flag to show notices is found on whichever side it is. -/
theorem verbosity?_or_eq {verbose : Bool}
    (h : (front ++ behind).count (.flag .verbose) = verbose.toNat) :
    ((verbosity? behind).or (verbosity? front)).getD 0 = verbose.toNat := by
  have hcount (settings : List Setting) : verbosity? settings =
      if settings.count (.flag .verbose) = 0 then none
      else some (min (settings.count (.flag .verbose)) 255) := by
    rw [verbosity?, List.count_eq_length_filter]
  have hle := verbose.toNat_le
  rw [List.count_append] at h
  rw [hcount, hcount]
  by_cases hbehind : behind.count (.flag .verbose) = 0
  · by_cases hfront : front.count (.flag .verbose) = 0
    · simp [hbehind, hfront] at h ⊢
      exact h
    · simp [hbehind, hfront]
      omega
  · simp [hbehind]
    omega

/-- An option that holds for every command is given at most once on either side. -/
theorem GivesGlobals.length_le (h : GivesGlobals (front ++ behind) g) (hk : k.isGlobal = true) :
    (values k front).length ≤ 1 ∧ (values k behind).length ≤ 1 := by
  have hone : (values k (front ++ behind)).length ≤ 1 := by
    cases k with
    | config => exact h.config ▸ Option.length_toList_le
    | envFile => exact h.envFile ▸ Option.length_toList_le
    | apiUrl => exact h.apiUrl ▸ Option.length_toList_le
    | name | port | node | plugin => cases hk
  rw [values_append, List.length_append] at hone
  omega

/-- No path that is given is empty. -/
theorem GivesGlobals.hasValue (h : GivesGlobals settings g)
    (hpaths : g.config ≠ some "" ∧ g.envFile ≠ some "") : ∀ s ∈ settings, s.hasValue = true := by
  intro s hs
  have hmem {k : Key} {value : String} (hs : Setting.text k value ∈ settings) :
      value ∈ values k settings := List.mem_filterMap.mpr ⟨_, hs, by simp⟩
  cases s with
  | flag f => rfl
  | port p => rfl
  | text k value =>
      have hvalue := hmem hs
      cases k with
      | config =>
          rw [h.config, Option.mem_toList] at hvalue
          rw [hvalue] at hpaths
          simpa [Setting.hasValue] using hpaths.1
      | envFile =>
          rw [h.envFile, Option.mem_toList] at hvalue
          rw [hvalue] at hpaths
          simpa [Setting.hasValue] using hpaths.2
      | apiUrl | name | port | node | plugin => rfl

/-- What stands in front of the command is allowed there. -/
theorem isAt_program (hfront : ∀ s ∈ front, s.isGlobal = true) :
    ∀ s ∈ front, s.isAt .program = true := fun s hs => by
  rw [Setting.isAt, hfront s hs, Bool.true_or]

/-- What stands behind a command that takes a request is allowed there. -/
theorem isAt_of_hasRequest {level : Level} (hlevel : level.hasRequest = true)
    (hbehind : ∀ s ∈ behind, s.isGlobal = true ∨ s.isOfRequest = true) :
    ∀ s ∈ behind, s.isAt level = true := fun s hs => by
  rw [Setting.isAt, hlevel, Bool.and_true, Bool.or_eq_true]
  exact hbehind s hs

/-- In front of the command nothing is given twice. -/
theorem pairwise_allows_front (hfront : ∀ s ∈ front, s.isGlobal = true)
    (h : GivesGlobals (front ++ behind) g) : front.Pairwise Setting.Allows := by
  refine pairwise_allows (isAt_program hfront) (fun k _ _ => ?_) ?_
  · cases hk : k.isGlobal with
    | true => exact (h.length_le hk).1
    | false => rw [values_of_isGlobal hfront hk]; exact Nat.zero_le 1
  · rw [ports_of_isGlobal hfront]
    exact Nat.zero_le 1

/-- Behind the command nothing is given twice that must not be. -/
theorem pairwise_allows_behind {level : Level} (hat : ∀ s ∈ behind, s.isAt level = true)
    (hrequest : GivesRequest behind request) (h : GivesGlobals (front ++ behind) g) :
    behind.Pairwise Setting.Allows := by
  refine pairwise_allows hat (fun k hport honce => ?_) (hrequest.port ▸ Option.length_toList_le)
  cases k with
  | config | envFile | apiUrl => exact (h.length_le rfl).2
  | name => rw [hrequest.name]; exact Nat.le_refl 1
  | port => exact absurd rfl hport
  | node | plugin => cases honce

end Given

/-- **A command line is read as it is written.**  The options of a request behind the command, and
those that hold for every command on either side of it, come back as they were put in, whatever
their values are. -/
theorem ofArguments_written {request : Request} {g : Globals} {front behind : List Setting}
    {level : Level} {command : String} (hlevel : level.hasRequest = true)
    (hcommand : Level.ofCommand? command = some level)
    (hfront : ∀ s ∈ front, s.isGlobal = true)
    (hbehind : ∀ s ∈ behind, s.isGlobal = true ∨ s.isOfRequest = true)
    (hrequest : GivesRequest behind request) (hglobals : GivesGlobals (front ++ behind) g)
    (hpaths : g.config ≠ some "" ∧ g.envFile ≠ some "") (environment : Option String) :
    Invocation.ofArguments environment
        (front.map Setting.word ++ command :: behind.map Setting.word) =
      .ok {
        verbose := g.verbose.toNat
        config := g.config
        envFile := g.envFile
        apiUrl := g.apiUrl.or environment
        command := level.asking (argumentsOf request) } ∧
      (argumentsOf request).toRequest = request := by
  have hvalue := hglobals.hasValue hpaths
  have hfrontread : Level.program.read
      (front.map Setting.word ++ command :: behind.map Setting.word) {} =
        .ok ({ settings := front }, some (level, behind.map Setting.word)) := by
    rw [Level.read_words (r := {}) (isAt_program hfront)
      (fun s hs => hvalue s (List.mem_append_left _ hs)) rfl
      (pairwise_allows_front hfront hglobals), Level.read_command_word hcommand rfl]
    rfl
  have hbehindread : level.read (behind.map Setting.word) {} =
      .ok ({ settings := behind }, none) := by
    have hread := Level.read_words (isAt_of_hasRequest hlevel hbehind)
      (fun s hs => hvalue s (List.mem_append_right _ hs)) (r := {}) rfl
      (pairwise_allows_behind (isAt_of_hasRequest hlevel hbehind) hrequest hglobals) []
    rw [List.append_nil] at hread
    rw [hread]
    rfl
  refine ⟨?_, rfl⟩
  rw [Invocation.ofArguments, hfrontread]
  simp only [bind, Except.bind]
  rw [hbehindread]
  simp only [Reading.settle, commandOf_eq hlevel hbehind hrequest,
    verbosity?_or_eq hglobals.verbose, value?_or_eq hglobals.config,
    value?_or_eq hglobals.envFile, value?_or_eq hglobals.apiUrl]
  rfl

theorem ofArguments_written_of_mixed :
    Invocation.ofArguments (some "http://b")
        ["-v", "--env-file=.env", "provision", "--node=a=b", "--port=-7", "--name=--name",
          "--config=c", "--node=-n", "--plugin="] =
      .ok {
        verbose := 1
        config := some "c"
        envFile := some ".env"
        apiUrl := some "http://b"
        command := .provision { request := {
          name := "--name", port := some (-7), nodes := ["a=b", "-n"], plugins := [""] } } } ∧
      (argumentsOf ⟨"--name", some (-7), ["a=b", "-n"], [""]⟩).toRequest =
        ⟨"--name", some (-7), ["a=b", "-n"], [""]⟩ :=
  have hrequest : GivesRequest
      [.text .node "a=b", .port (-7), .text .name "--name", .text .config "c", .text .node "-n",
        .text .plugin ""] ⟨"--name", some (-7), ["a=b", "-n"], [""]⟩ :=
    ⟨by decide, by decide, by decide, by decide⟩
  have hglobals : GivesGlobals
      ([.flag .verbose, .text .envFile ".env"] ++
        [.text .node "a=b", .port (-7), .text .name "--name", .text .config "c", .text .node "-n",
          .text .plugin ""])
      { verbose := true, config := some "c", envFile := some ".env" } :=
    ⟨by decide, by decide, by decide, by decide⟩
  have hcommand : Level.ofCommand? "provision" = some .provision := rfl
  ofArguments_written rfl hcommand (by decide) (by decide) hrequest hglobals (by decide)
    (some "http://b")

end Provisioning.CommandLine
