/-
**One option, read twice.**

The environment file has to be loaded before the command line is read, so its name is looked for in
the words first, by a search that knows one option only.  Later the reader of the command line finds
the same option again.  That the search does not take something else for the option is owed to what
the reader accepts: the search finds the first of the values that the words give to the option, and
these are the values that the reader finds.

Where the option is given once, both therefore find the same file.  It may be given twice, in front
of the command and behind it, and then they part: the search stops at the first one, and the reader
takes the one behind the command, like every option of the program.

Main definitions:

* `CommandLine.Reading.envFile` — the environment file among what was read;
* `CommandLine.Reading.first` — the one read so far, or else the first one in the words to come.

Main results:

* `CommandLine.envFileArgument_eq_head?` — **what the search finds**, in any words;
* `CommandLine.Level.read_end`, `CommandLine.Level.read_command` — the words of a level keep the
  first environment file;
* `CommandLine.env_file_readers` — **what the search and the reader find**;
* `CommandLine.env_file_readers_part` — a command line on which they part.
-/

import Provisioning.Proofs.GivenOption

set_option relaxedAutoImplicit false
set_option autoImplicit false

namespace Provisioning.CommandLine

/-! ### The search -/

/-- A word that does not begin with two hyphens is passed over. -/
theorem envFileArgument_cons {word : String} (hword : ¬ ['-', '-'] <+: word.toList)
    (rest : List String) : envFileArgument (word :: rest) = envFileArgument rest := by
  have hhyphens : word ≠ "--" := by
    rintro rfl
    exact hword (by simp)
  have hoption : word ≠ "--env-file" := by
    rintro rfl
    exact hword (by simp)
  have hattached : ¬ "--env-file=".toList <+: word.toList := fun h =>
    hword (List.IsPrefix.trans (by simp) h)
  rw [envFileArgument, if_neg (by simpa using hhyphens), if_neg (by simpa using hoption),
    if_neg (by rwa [List.isPrefixOf_iff_prefix])]

/-- **A word behind two hyphens** is the option, with its value attached or behind it, or it is
passed over. -/
theorem envFileArgument_long {word : String} {name : List Char}
    (hword : word.toList = '-' :: '-' :: name) (hname : name ≠ []) (rest : List String) :
    envFileArgument (word :: rest) =
      if String.ofList (name.takeWhile (· != '=')) = "env-file" then (attached? name).or rest.head?
      else envFileArgument rest := by
  have hhyphens : word ≠ "--" := by
    rintro rfl
    exact hname (by simpa using hword.symm)
  have hprefix : "--env-file=".toList <+: word.toList ↔ "env-file=".toList <+: name := by
    rw [hword]
    simp [List.cons_prefix_cons]
  have hword_eq : word = "--env-file" ↔ name = "env-file".toList := by
    rw [← String.toList_inj, hword]
    simp
  rw [envFileArgument, if_neg (by simpa using hhyphens)]
  simp only [beq_iff_eq, hword_eq, List.isPrefixOf_iff_prefix, hprefix, ← String.toList_inj,
    String.toList_ofList]
  by_cases hoption : name.takeWhile (· != '=') = "env-file".toList
  · rw [if_pos hoption]
    rcases attached?_cases name with ⟨hbare, hnone⟩ | ⟨value, hsplit, hsome⟩
    · rw [if_pos (hbare.trans hoption), hnone, Option.none_or]
    · rw [hoption] at hsplit
      rw [if_neg, if_pos, hsome, Option.some_or, hword, hsplit]
      · rfl
      · exact ⟨value, by simp [hsplit]⟩
      · simp [hsplit]
  · rw [if_neg hoption, if_neg, if_neg]
    · rintro ⟨value, rfl⟩
      exact hoption (by simp)
    · rintro rfl
      exact hoption (by simp)

/-- **The search finds the first value** that the words give to the option. -/
theorem envFileArgument_eq_head? (words : List String) :
    envFileArgument words = (arguments .envFile words).head? := by
  induction words with
  | nil => rfl
  | cons word rest ih =>
      by_cases hhyphens : word = "--"
      · subst hhyphens
        rw [arguments_hyphens]
        rfl
      · by_cases hlong : ∃ name, word.toList = '-' :: '-' :: name
        · obtain ⟨name, hword⟩ := hlong
          have hname : name ≠ [] := by
            rintro rfl
            exact hhyphens (String.toList_inj.mp (hword.trans (by simp)))
          rw [envFileArgument_long hword hname, arguments_long hword hname, Key.long]
          split
          · cases attached? name with
            | some value => rfl
            | none =>
                cases rest with
                | nil => rfl
                | cons value rest => rfl
          · exact ih
        · rw [not_exists] at hlong
          rw [envFileArgument_cons, arguments_cons hlong, ih]
          rintro ⟨name, hname⟩
          exact hlong name hname.symm

/-! ### What was read -/

namespace Reading

/-- **The environment file among what was read**, settled or pending. -/
def envFile (r : Reading) : Option String :=
  (value? .envFile r.settings).or
    (r.pending.bind fun (k, value) => if k = .envFile then value else none)

/-- What the search finds in the words to come: if the option itself was read already, the next
word. -/
def search (r : Reading) (words : List String) : Option String :=
  if r.awaitsValue = some .envFile then words.head? else envFileArgument words

/-- **The first environment file**: the one that was read, or else what the search finds. -/
def first (r : Reading) (words : List String) : Option String := r.envFile.or (r.search words)

variable {r s : Reading}

theorem first_nil (r : Reading) : r.first [] = r.envFile := by
  simp [first, search, envFileArgument]

theorem envFile_eq_head? (r : Reading) : r.envFile = (r.given .envFile).head? := by
  rw [envFile, given, List.head?_append, value?_eq_head?, Option.head?_toList]

/-- **The first environment file** is the first of the option's values. -/
theorem first_eq_head? (r : Reading) (words : List String) :
    r.first words = (r.all .envFile words).head? := by
  rw [first, all, List.head?_append, envFile_eq_head?, search, toCome]
  split
  · cases words with
    | nil => rfl
    | cons value rest => rfl
  · rw [envFileArgument_eq_head?]

/-- Once everything is settled, the environment file is among the settings. -/
theorem value?_of_settle (h : r.settle = .ok s) : value? .envFile s.settings = r.envFile := by
  rw [value?_eq_head?, values_of_settle rfl h, envFile_eq_head?]

end Reading

/-! ### Levels -/

variable {level : Level} {r s : Reading}

/-- A word that names a command. -/
theorem envFileArgument_command {word : String} {command : Level}
    (h : Level.ofCommand? word = some command) (rest : List String) :
    envFileArgument (word :: rest) = envFileArgument rest := by
  rw [envFileArgument_eq_head?, arguments_cons (Level.not_hyphens_of_ofCommand? h),
    envFileArgument_eq_head?]

/-- **A level that no command ends**: what was read, once it is settled, has the first environment
file. -/
theorem Level.read_end {words : List String} (h : level.read words r = .ok (s, none))
    {settled : Reading} (hsettle : s.settle = .ok settled) :
    value? .envFile settled.settings = r.first words := by
  rw [value?_eq_head?, Level.values_of_read_end rfl h hsettle, Reading.first_eq_head?]

/-- **A level that a command ends**: what was read has the environment file of the words in front
of the command, and the search goes on behind it. -/
theorem Level.read_command {words behind : List String} {command : Level}
    (h : level.read words r = .ok (s, some (command, behind))) :
    level = .program ∧ ∃ front word, words = front ++ word :: behind ∧
      Level.ofCommand? word = some command ∧ s.awaitsValue = none ∧
        ∀ more, s.first more = r.first (front ++ more) := by
  obtain ⟨hlevel, front, word, hwords, hcommand, hawaits, hall⟩ := Level.all_of_read_command h
  refine ⟨hlevel, front, word, hwords, hcommand, hawaits, fun more => ?_⟩
  rw [Reading.first_eq_head?, hall .envFile rfl, Reading.first_eq_head?]

/-! ### Invocations -/

/-- The parts of an accepted command line, with its environment file. -/
theorem Invocation.ofArguments_ok {apiUrl : Option String} {words : List String} {i : Invocation}
    (h : Invocation.ofArguments apiUrl words = .ok i) :
    ∃ outer level behind inner next outerSettled innerSettled,
      Level.program.read words {} = .ok (outer, some (level, behind)) ∧
      level.read behind {} = .ok (inner, next) ∧ inner.settle = .ok innerSettled ∧
      outer.settle = .ok outerSettled ∧
      i.envFile = (value? .envFile innerSettled.settings).or
        (value? .envFile outerSettled.settings) := by
  obtain ⟨outer, level, behind, inner, next, outerSettled, innerSettled, houter, hinner,
    hinnerSettle, houterSettle, hglobal⟩ := Invocation.ofArguments_parts h
  refine ⟨outer, level, behind, inner, next, outerSettled, innerSettled, houter, hinner,
    hinnerSettle, houterSettle, ?_⟩
  have hfile := hglobal .envFile rfl
  rwa [if_neg nofun, Option.or_none] at hfile

/-- **What the search and the reader find.**  An accepted command line has a command.  The search
finds the environment file in front of it, or else the one behind it; the reader takes the one
behind it, or else the one in front.  So both find a file or neither does, and it is the same one
unless two different ones are given, on both sides of the command. -/
theorem env_file_readers (apiUrl : Option String) (program : String) (words : List String)
    (i : Invocation) (hprogram : ¬ "--".toList <+: program.toList)
    (hread : Invocation.ofArguments apiUrl words = .ok i) :
    ∃ outer level front command behind,
      Level.program.read words {} = .ok (outer, some (level, behind)) ∧
      words = front ++ command :: behind ∧ Level.ofCommand? command = some level ∧
      envFileArgument (program :: words) = (envFileArgument front).or (envFileArgument behind) ∧
      i.envFile = (envFileArgument behind).or (envFileArgument front) ∧
      (envFileArgument (program :: words) = none ↔ i.envFile = none) ∧
      (envFileArgument (program :: words) = i.envFile ↔
        ∀ path other, envFileArgument front = some path → envFileArgument behind = some other →
          path = other) := by
  obtain ⟨outer, level, behind, inner, next, outerSettled, innerSettled, houter, hinner,
    hinnerSettle, houterSettle, hfile⟩ := Invocation.ofArguments_ok hread
  obtain ⟨-, front, command, rfl, hcommand, hawaits, hmore⟩ := Level.read_command houter
  -- A command stands in front of the words of its level, and there is none among them.
  obtain rfl : next = none := by
    cases next with
    | none => rfl
    | some more =>
        obtain ⟨rfl, -⟩ := Level.read_command hinner
        exact absurd hcommand (Level.ofCommand?_ne_program command)
  have hinner_eq : value? .envFile innerSettled.settings = envFileArgument behind :=
    Level.read_end hinner hinnerSettle
  have houter_eq : outer.envFile = envFileArgument front := by
    rw [← outer.first_nil, hmore [], List.append_nil]
    rfl
  have hsearch : envFileArgument (program :: (front ++ command :: behind)) =
      (envFileArgument front).or (envFileArgument behind) := by
    have hfirst := hmore (command :: behind)
    rw [Reading.first, Reading.search, hawaits, if_neg nofun, houter_eq,
      envFileArgument_command hcommand] at hfirst
    rw [envFileArgument_cons (by simpa using hprogram), hfirst]
    rfl
  rw [hinner_eq, Reading.value?_of_settle houterSettle, houter_eq] at hfile
  refine ⟨outer, level, front, command, behind, houter, rfl, hcommand, hsearch, hfile, ?_, ?_⟩
  · rw [hsearch, hfile, Option.or_eq_none_iff, Option.or_eq_none_iff, and_comm]
  · rw [hsearch, hfile]
    cases envFileArgument front with
    | none => simp
    | some path =>
        cases envFileArgument behind with
        | none => simp
        | some other => simp

/-- An option behind the command, next to a value that begins with a hyphen. -/
theorem env_file_readers_behind_command :
    let words := ["-v", "provision", "--port", "-5", "--env-file=a.env"]
    ∃ i front command behind, Invocation.ofArguments none words = .ok i ∧
      words = front ++ command :: behind ∧
      envFileArgument ("wp" :: words) = (envFileArgument front).or (envFileArgument behind) ∧
      i.envFile = (envFileArgument behind).or (envFileArgument front) ∧
      i.envFile = some "a.env" := by
  intro words
  let i : Invocation := {
    verbose := 1, envFile := some "a.env"
    command := .provision { request := { port := some (-5) } } }
  have hread : Invocation.ofArguments none words = .ok i := by decide +kernel
  obtain ⟨_, _, front, command, behind, -, hwords, -, hsearch, hfile, -⟩ :=
    env_file_readers none "wp" words i (by simp) hread
  exact ⟨i, front, command, behind, hread, hwords, hsearch, hfile, rfl⟩

/-- **A command line on which they part**: the option is given on both sides of the command. -/
theorem env_file_readers_part :
    ¬ ∀ (apiUrl : Option String) (program : String) (words : List String) (i : Invocation),
      ¬ "-".toList <+: program.toList → Invocation.ofArguments apiUrl words = .ok i →
        envFileArgument (program :: words) = i.envFile := by
  intro hall
  have hread : Invocation.ofArguments none
      ["--env-file", "a.env", "status", "zk", "--env-file", "b.env"] =
        .ok { envFile := some "b.env", command := .status "zk" } := by
    decide +kernel
  have hsame := hall none "wp" _ _ (by simp) hread
  have hfound : envFileArgument
      ["wp", "--env-file", "a.env", "status", "zk", "--env-file", "b.env"] = some "a.env" := rfl
  exact absurd (hfound.symm.trans hsame) (by decide)

end Provisioning.CommandLine
