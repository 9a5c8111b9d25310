/-
**What an environment file gives to a variable.**

Loading a file changes the environment definition by definition, and each definition is read with
the environment as it is then.  What comes of it can be said without the steps in between.  The file
has a list of definitions, each read with the variables of the start and the definitions in front of
it; and afterwards a variable has the value it had at the start, or else the first that the file
gives to it.  Loading succeeds if all the definitions can be read.

Main definitions:

* `EnvFile.definitions` — the definitions of a file;
* `EnvFile.firstValue?` — the value that definitions give to a variable.

Main results:

* `EnvFile.loadLines_eq` — the lines of a file, behind those that were loaded already;
* `EnvFile.load_eq_ok_iff` — **loading a file**, all at once;
* `EnvFile.get?_of_load` — **the variables afterwards**.
-/

import Provisioning.EnvFile.Load

set_option relaxedAutoImplicit false
set_option autoImplicit false

namespace Provisioning

/-! ### Variables -/

namespace Environment

theorem get?_provide (env : Environment) (name value other : String) :
    (env.provide name value).get? other =
      (env.get? other).or (if other = name then some value else none) := by
  rw [provide]
  split
  · rename_i old hset
    split
    · rename_i hname
      subst hname
      rw [hset, Option.some_or]
    · rw [Option.or_none]
  · rw [get?, List.lookup_append, List.lookup_cons, List.lookup_nil]
    by_cases hother : other = name
    · simp [get?, hother]
    · simp [get?, hother, beq_eq_false_iff_ne.mpr hother]

end Environment

namespace EnvFile

/-- The value that definitions give to a variable: the first one. -/
def firstValue? (definitions : List Definition) (name : String) : Option String :=
  (definitions.find? (·.name == name)).map (·.value)

/-- The environment after definitions were taken, one after the other. -/
def provideAll (env : Environment) (definitions : List Definition) : Environment :=
  definitions.foldl (fun env d => env.provide d.name d.value) env

/-- **A variable after definitions were taken** has the value it had, or else the first one that
they give to it. -/
theorem get?_provideAll (env : Environment) (definitions : List Definition) (name : String) :
    (provideAll env definitions).get? name = (env.get? name).or (firstValue? definitions name) := by
  induction definitions generalizing env with
  | nil => exact (Option.or_none ..).symm
  | cons d rest ih =>
      rw [provideAll, List.foldl_cons, ← provideAll, ih, Environment.get?_provide, Option.or_assoc]
      congr 1
      by_cases hname : name = d.name
      · simp [firstValue?, hname]
      · simp [firstValue?, hname, Ne.symm hname]

/-! ### Definitions -/

/-- What stands for a variable in a substitution: its value at the start, or else the first one of
the definitions so far. -/
def visible (start : Environment) (earlier : List Definition) (name : List Char) : List Char :=
  (((start.get? (String.ofList name)).or (firstValue? earlier (String.ofList name))).getD "").toList

/-- The definitions of lines, behind those read so far, or the first fault. -/
def definitionsFrom (start : Environment) (lines : List (List UInt8)) (earlier : List Definition) :
    Except Error (List Definition) :=
  match found : nextLine? lines [] .plain with
  | .error e => .error e
  | .ok none => .ok earlier
  | .ok (some (line, rest)) =>
    have := length_lt_of_nextLine? found
    match definition (visible start earlier) line with
    | .error e => .error e
    | .ok none => definitionsFrom start rest earlier
    | .ok (some d) => definitionsFrom start rest (earlier ++ [d])
termination_by lines.length

/-- **The definitions of a file**, which is loaded into an environment. -/
def definitions (file : Found) (start : Environment) : Except Error (List Definition) :=
  match file.read with
  | .error message => .error (.io message)
  | .ok bytes => definitionsFrom start (physicalLines (dropEncodingMark bytes)) []

/-! ### Loading -/

/-- Loading by the next line, which is looked for once. -/
theorem loadLines_next (lines : List (List UInt8)) (latest : List Definition) (env : Environment) :
    loadLines lines latest env = match nextLine? lines [] .plain with
      | .error e => (env, .error e)
      | .ok none => (env, .ok ())
      | .ok (some (line, rest)) =>
        match definition (substitute env latest) line with
        | .error e => (env, .error e)
        | .ok none => loadLines rest latest env
        | .ok (some d) => loadLines rest (d :: latest) (env.provide d.name d.value) := by
  rw [loadLines]
  split
  · rename_i found
    rw [found]
  · rename_i found
    rw [found]
  · rename_i line rest found
    rcases hline : definition (substitute env latest) line with e | _ | d
    · simp only [found, hline]
    · simp only [found, hline]
    · simp only [found, hline]

/-- A substitution sees what the file defines through the environment. -/
theorem substitute_provideAll (start : Environment) (earlier : List Definition) :
    substitute (provideAll start earlier) earlier.reverse = visible start earlier := by
  funext name
  rw [substitute, visible, ← get?_provideAll]
  cases hvalue : (provideAll start earlier).get? (String.ofList name) with
  | some value => rfl
  | none =>
      rw [get?_provideAll, Option.or_eq_none_iff, firstValue?, Option.map_eq_none_iff,
        List.find?_eq_none] at hvalue
      -- What the environment does not have, no definition so far has given, in whatever order.
      have hreverse : earlier.reverse.find? (·.name == String.ofList name) = none :=
        List.find?_eq_none.mpr fun d hd => hvalue.2 d (List.mem_reverse.mp hd)
      simp only [hreverse]
      rfl

/-- **The lines of a file**, behind those that were loaded already. -/
theorem loadLines_eq (start : Environment) (lines : List (List UInt8)) (earlier : List Definition) :
    (loadLines lines earlier.reverse (provideAll start earlier)).2 =
        (definitionsFrom start lines earlier).map (fun _ => ()) ∧
      ∀ all, definitionsFrom start lines earlier = .ok all →
        (loadLines lines earlier.reverse (provideAll start earlier)).1 = provideAll start all := by
  fun_induction definitionsFrom start lines earlier with
  | case1 lines earlier e found =>
      rw [loadLines_next, found]
      exact ⟨rfl, nofun⟩
  | case2 lines earlier found =>
      rw [loadLines_next, found]
      refine ⟨rfl, fun all hall => ?_⟩
      obtain rfl := Except.ok.inj hall
      rfl
  | case3 lines earlier line rest found _ e hline =>
      rw [loadLines_next, found]
      simp only [substitute_provideAll, hline]
      exact ⟨rfl, nofun⟩
  | case4 lines earlier line rest found _ hline ih =>
      rw [loadLines_next, found]
      simp only [substitute_provideAll, hline]
      exact ih
  | case5 lines earlier line rest found _ d hline ih =>
      rw [loadLines_next, found]
      simp only [substitute_provideAll, hline]
      -- The loader has the latest definition in front, and the file's list has it at the end.
      rwa [List.reverse_append, List.reverse_singleton, List.singleton_append, provideAll,
        List.foldl_append, List.foldl_cons, List.foldl_nil, ← provideAll] at ih

/-- **Loading a file**, all at once: it succeeds if the definitions can be read, and then they are
what changes the environment. -/
theorem load_eq_ok_iff {file : Found} {start environment : Environment} :
    load file start = (environment, .ok ()) ↔
      ∃ all, definitions file start = .ok all ∧ environment = provideAll start all := by
  rw [load, definitions]
  cases file.read with
  | error message => simp
  | ok bytes =>
      obtain ⟨hfault, henvironment⟩ :=
        loadLines_eq start (physicalLines (dropEncodingMark bytes)) []
      rw [List.reverse_nil, provideAll, List.foldl_nil] at hfault henvironment
      simp only [Prod.ext_iff, hfault]
      cases hall : definitionsFrom start (physicalLines (dropEncodingMark bytes)) [] with
      | error e => simp [Except.map]
      | ok all => simp [Except.map, henvironment all hall, eq_comm]

/-- **The variables after a file was loaded**: each has the value it had, or else the first one that
the file gives to it. -/
theorem get?_of_load {file : Found} {start environment : Environment}
    (h : load file start = (environment, .ok ())) (name : String) :
    environment.get? name = (start.get? name).or
      ((definitions file start).toOption.bind (firstValue? · name)) := by
  obtain ⟨all, hall, rfl⟩ := load_eq_ok_iff.mp h
  rw [get?_provideAll, hall]
  rfl

end EnvFile

end Provisioning
