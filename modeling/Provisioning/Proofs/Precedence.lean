/-
**Where the settings come from.**

Most settings have one source, the configuration file, and a default.  The base URL has five: the
command line, the environment, the environment file, the configuration file and the default, and the
first of them that has one decides.  Three mechanisms bring this about.  The environment file is
loaded before the command line is read, and does not change what is set; the command line falls back
to the environment; and what it has takes the place of the configuration file's.  An empty base URL
counts as given.

The configuration file is checked on its own, and the configuration is checked again with the base
URL that was given.  A given base URL therefore does not make up for a wrong one in the file, and a
valid file not for a wrong one that was given.

All this is so if the program has a name that is no option.  The environment file is looked for in
all words, the name of the program included, where the reader of the command line begins behind it;
so a program that is called by the name of an option loads a file that nobody has given.

Main definitions:

* `Program.World.envFileValue?` — what the environment file gives to a variable;
* `Program.World.givenUrl?` — the base URL that is given outside the configuration file.

Main results:

* `Program.World.get?_of_environment` — the variables after the environment file was loaded;
* `Program.World.apiUrl_of_invocation` — **the base URL of an invocation**;
* `Program.setting_precedence` — **where the settings come from**, and when there is a
  configuration;
* `Program.setting_precedence_needs_name` — a program with the name of an option.
-/

import Provisioning.Proofs.EnvFileOption
import Provisioning.Proofs.EnvFileVariables
import Provisioning.Proofs.Executions
import Provisioning.Proofs.FileSettings

set_option relaxedAutoImplicit false
set_option autoImplicit false

namespace Provisioning.Program

open CommandLine (Invocation arguments envFileArgument envFileArgument_cons
  envFileArgument_eq_head?)

/-! ### The environment -/

/-- **The program has a name**, which is no option. -/
def Start.NamesProgram (start : Start) : Prop :=
  ∀ program ∈ start.words.head?, ¬ "--".toList <+: program.toList

namespace World

variable {w : World} {start : Start} {environment : Environment} {i : Invocation}

/-- **What the environment file gives to a variable**; without such a file, nothing.  The file is
the first one that is given behind the name of the program, and its definitions are read with the
environment of the start. -/
def envFileValue? (w : World) (start : Start) (name : String) : Option String :=
  (arguments .envFile start.words.tail).head?.bind fun path =>
    (EnvFile.definitions (w.files path) start.environment).toOption.bind
      (EnvFile.firstValue? · name)

/-- A name is passed over when the environment file is looked for. -/
theorem envFileArgument_words (hprogram : start.NamesProgram) :
    envFileArgument start.words = (arguments .envFile start.words.tail).head? := by
  rw [← envFileArgument_eq_head?]
  rcases hwords : start.words with - | ⟨program, words⟩
  · rfl
  · exact envFileArgument_cons (by simpa using hprogram program (by rw [hwords]; rfl)) words

/-- **The variables after the environment file was loaded**: each has the value of the start, or
else the one of the file. -/
theorem get?_of_environment (hprogram : start.NamesProgram)
    (h : w.environment start = .ok environment) (name : String) :
    environment.get? name = (start.environment.get? name).or (w.envFileValue? start name) := by
  rw [World.environment, envFileArgument_words hprogram] at h
  rw [envFileValue?]
  cases hpath : (arguments .envFile start.words.tail).head? with
  | none =>
      rw [hpath] at h
      obtain rfl := Except.ok.inj h
      exact (Option.or_none ..).symm
  | some path =>
      simp only [hpath] at h
      rcases hload : EnvFile.load (w.files path) start.environment with ⟨loaded, ⟨⟩ | ⟨⟨⟩⟩⟩
      · rw [hload] at h
        cases h
      · rw [hload] at h
        obtain rfl := Except.ok.inj h
        exact EnvFile.get?_of_load hload name

/-! ### The base URL -/

/-- **The base URL that is given** outside the configuration file: on the command line, or else in
the environment, or else in the environment file. -/
def givenUrl? (w : World) (start : Start) : Option String :=
  (arguments .apiUrl start.words.tail).head?.or
    ((start.environment.get? "PROVISIONER_API_URL").or
      (w.envFileValue? start "PROVISIONER_API_URL"))

/-- **The base URL of an invocation** is the one that is given. -/
theorem apiUrl_of_invocation (hprogram : start.NamesProgram)
    (henvironment : w.environment start = .ok environment)
    (hinvocation : invocation start environment = .ok i)
    (honce : (arguments .apiUrl start.words.tail).length ≤ 1) : i.apiUrl = w.givenUrl? start := by
  have hurl := Invocation.global?_of_once hinvocation rfl honce
  rw [if_pos rfl, get?_of_environment hprogram henvironment] at hurl
  exact hurl

/-! ### The configuration -/

/-- The configuration of an invocation is the one of its file, with the base URL of the
invocation. -/
theorem config_eq_ok_iff {c : Config} :
    w.config start environment i = .ok c ↔
      Config.load (w.files (ConfigPath.resolve (environment.home? start.accountHome) i.config))
        i.apiUrl = .ok c := by
  rw [World.config]
  cases Config.load (w.files (ConfigPath.resolve (environment.home? start.accountHome) i.config))
      i.apiUrl with
  | ok loaded => simp [Except.mapError]
  | error e => simp [Except.mapError]

end World

/-- **Where the settings come from**, for every command line of a program with a name that is
accepted, and every environment file that is loaded.  There is a configuration if the file is
missing or holds a valid one, and it is still valid with the base URL that is given.  Then the base
URL is the given one, or else the one of the file, or else the default; every other setting is the
one of the file, or else its default; and the configuration is valid. -/
theorem setting_precedence (w : World) (start : Start) (environment : Environment) (i : Invocation)
    (hprogram : start.NamesProgram) (henvironment : w.environment start = .ok environment)
    (hinvocation : invocation start environment = .ok i)
    (honce : (arguments .apiUrl start.words.tail).length ≤ 1) :
    let file := w.files (ConfigPath.resolve (environment.home? start.accountHome) i.config)
    ((∃ c, w.config start environment i = .ok c) ↔
      ∃ base, (file.isThere = false ∧ base = {} ∨
          ∃ source, file.readText = .ok source ∧ Config.ofYaml source = .ok base) ∧
        (base.withApiUrl (w.givenUrl? start)).validate = .ok ()) ∧
    ∀ c, w.config start environment i = .ok c →
      c.apiUrl = ((w.givenUrl? start).or (Config.givenIn? file .apiUrl)).getD
        ({} : Config).apiUrl ∧
      (∀ s ≠ .apiUrl, c.get s = (Config.givenIn? file s).getD (({} : Config).get s)) ∧
      c.validate = .ok () := by
  intro file
  -- The second check says when there is a configuration; the first one is part of reading the file.
  have hconfig (c : Config) : w.config start environment i = .ok c ↔
      ∃ base, Config.ofFile file = .ok base ∧
        (base.withApiUrl (w.givenUrl? start)).validate = .ok () ∧
        c = base.withApiUrl (w.givenUrl? start) := by
    rw [World.config_eq_ok_iff, Config.load_eq_ok_iff,
      World.apiUrl_of_invocation hprogram henvironment hinvocation honce]
  constructor
  · constructor
    · rintro ⟨c, hc⟩
      obtain ⟨base, hbase, hvalid, -⟩ := (hconfig c).mp hc
      exact ⟨base, Config.ofFile_eq_ok_iff.mp hbase, hvalid⟩
    · rintro ⟨base, hbase, hvalid⟩
      exact ⟨_, (hconfig _).mpr ⟨base, Config.ofFile_eq_ok_iff.mpr hbase, hvalid, rfl⟩⟩
  · intro c hc
    obtain ⟨base, hbase, hvalid, rfl⟩ := (hconfig c).mp hc
    refine ⟨?_, fun s hs => ?_, hvalid⟩
    · have hurl : base.apiUrl = _ := Config.get_of_ofFile hbase .apiUrl
      rw [Config.apiUrl_withApiUrl, hurl]
      cases w.givenUrl? start with
      | none => rfl
      | some url => rfl
    · rw [Config.get_withApiUrl base _ hs, Config.get_of_ofFile hbase s]

/-! ### A world with files -/

/-- A file with one line that defines a variable. -/
theorem load_envLine :
    EnvFile.load (.ofText "PROVISIONER_API_URL=https://a.example") [] =
      ([("PROVISIONER_API_URL", "https://a.example")], .ok ()) := by
  let line := "PROVISIONER_API_URL=https://a.example".toList
  have hlines : EnvFile.physicalLines (EnvFile.dropEncodingMark (Utf8.encode line)) =
      [Utf8.encode line] := by decide +kernel
  have hnext : EnvFile.nextLine? [Utf8.encode line] [] .plain = .ok (some (line, [])) := by
    rw [EnvFile.nextLine?, Utf8.decode?_encode]
    rfl
  have hdefinition : EnvFile.definition (EnvFile.substitute [] []) line =
      .ok (some ⟨"PROVISIONER_API_URL", "https://a.example"⟩) := rfl
  change EnvFile.loadLines (EnvFile.physicalLines (EnvFile.dropEncodingMark (Utf8.encode line)))
    [] [] = _
  rw [hlines, EnvFile.loadLines_next, hnext]
  simp only [hdefinition]
  rw [EnvFile.loadLines_next]
  rfl

/-- A silent world with an environment file and a configuration file, which both give a base URL. -/
def worldWithFiles : World := { silentWorld with
  files := fun path =>
    if path = "local.env" then .ofText "PROVISIONER_API_URL=https://a.example"
    else if path = "local.yaml" then .ofText "api-url: http://b.example\nmax-retries: 9"
    else .nothing }

/-- What the environment file leaves of an empty environment. -/
theorem environment_worldWithFiles {words : List String}
    (hwords : envFileArgument words = some "local.env") :
    worldWithFiles.environment { words, environment := [] } =
      .ok [("PROVISIONER_API_URL", "https://a.example")] := by
  have hload : EnvFile.load (worldWithFiles.files "local.env") [] =
      ([("PROVISIONER_API_URL", "https://a.example")], .ok ()) := load_envLine
  rw [World.environment, hwords]
  simp only [hload]

/-- In that world the environment file gives the base URL, and the configuration file another
setting. -/
theorem setting_precedence_of_env_file :
    let start : Start := { words := ["provisioner", "--env-file=local.env", "status", "zk",
      "--config", "local.yaml"], environment := [] }
    ∃ environment i c, worldWithFiles.environment start = .ok environment ∧
      invocation start environment = .ok i ∧
      worldWithFiles.config start environment i = .ok c ∧ c.apiUrl = "https://a.example" ∧
      c.maxRetries = 9 ∧ c.validate = .ok () := by
  intro start
  let environment : Environment := [("PROVISIONER_API_URL", "https://a.example")]
  let i : Invocation := {
    config := some "local.yaml", envFile := some "local.env", apiUrl := some "https://a.example"
    command := .status "zk" }
  let base : Config := { apiUrl := "http://b.example", maxRetries := 9 }
  have henvironment : worldWithFiles.environment start = .ok environment :=
    environment_worldWithFiles (by decide +kernel)
  have hinvocation : invocation start environment = .ok i := by decide +kernel
  have hprogram : start.NamesProgram := by
    rintro program hprogram
    obtain rfl := Option.some.inj hprogram
    simp
  have hurl : worldWithFiles.givenUrl? start = some "https://a.example" :=
    (World.apiUrl_of_invocation hprogram henvironment hinvocation (by decide +kernel)).symm
  have htext : (worldWithFiles.files (ConfigPath.resolve (environment.home? start.accountHome)
      i.config)).readText = .ok "api-url: http://b.example\nmax-retries: 9" :=
    Config.readText_ofText ..
  have hyaml : Config.ofYaml "api-url: http://b.example\nmax-retries: 9" = .ok base := by
    decide +kernel
  obtain ⟨hwhen, hsettings⟩ := setting_precedence worldWithFiles start environment i hprogram
    henvironment hinvocation (by decide +kernel)
  rw [hurl] at hwhen hsettings
  obtain ⟨c, hc⟩ := hwhen.mpr ⟨base, .inr ⟨_, htext, hyaml⟩, by decide +kernel⟩
  obtain ⟨hapiUrl, hothers, hvalid⟩ := hsettings c hc
  refine ⟨environment, i, c, henvironment, hinvocation, hc, hapiUrl, ?_, hvalid⟩
  have hmaxRetries := hothers .maxRetries nofun
  rw [Config.givenIn?, htext] at hmaxRetries
  exact hmaxRetries.trans (Config.get_of_ofYaml hyaml .maxRetries).symm

/-- **A name is needed.**  In that world a program that is called by the name of the option takes
its base URL from a file that is not given. -/
theorem setting_precedence_needs_name :
    ¬ ∀ (w : World) (start : Start) (environment : Environment) (i : Invocation) (c : Config),
      w.environment start = .ok environment → invocation start environment = .ok i →
      (arguments .apiUrl start.words.tail).length ≤ 1 →
      (arguments .envFile start.words.tail).length ≤ 1 →
      w.config start environment i = .ok c →
        let file := w.files (ConfigPath.resolve (environment.home? start.accountHome) i.config)
        c.apiUrl = ((w.givenUrl? start).or (Config.givenIn? file .apiUrl)).getD
          ({} : Config).apiUrl := by
  intro hall
  let start : Start := { words := ["--env-file=local.env", "status", "zk"], environment := [] }
  let environment : Environment := [("PROVISIONER_API_URL", "https://a.example")]
  let i : Invocation := { apiUrl := some "https://a.example", command := .status "zk" }
  have henvironment : worldWithFiles.environment start = .ok environment :=
    environment_worldWithFiles (by decide +kernel)
  have hinvocation : invocation start environment = .ok i := by decide +kernel
  have hnothing : worldWithFiles.files
      (ConfigPath.resolve (environment.home? start.accountHome) i.config) = .nothing := by
    decide +kernel
  have hload : Config.load .nothing i.apiUrl = .ok { apiUrl := "https://a.example" } := by
    decide +kernel
  have hconfig : worldWithFiles.config start environment i =
      .ok { apiUrl := "https://a.example" } := by
    rw [World.config_eq_ok_iff, hnothing, hload]
  have hnone : worldWithFiles.givenUrl? start = none := by decide +kernel
  have hurl := hall worldWithFiles start environment i _ henvironment hinvocation
    (by decide +kernel) (by decide +kernel) hconfig
  simp only [hnothing, hnone] at hurl
  exact absurd hurl (by decide +kernel)

end Provisioning.Program
