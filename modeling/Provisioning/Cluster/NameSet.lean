/-
**Sets of names.**

The nodes of a cluster are a set: they are kept in ascending order of their code points, each once,
whatever order and repetitions a request gave them in.

Main definition:

* `Cluster.NameSet.ofList` — the ascending list of the names in a list.
-/

set_option autoImplicit false
set_option relaxedAutoImplicit false

namespace Provisioning.Cluster.NameSet

/-- Put a name into its place in an ascending list, unless it is there. -/
def insert (name : String) : List String → List String
  | [] => [name]
  | other :: rest =>
    if name < other then name :: other :: rest
    else if name = other then other :: rest
    else other :: insert name rest

/-- The ascending list of the names in a list, each once. -/
def ofList (names : List String) : List String := names.foldr insert []

theorem mem_insert {name x : String} (names : List String) :
    x ∈ insert name names ↔ x = name ∨ x ∈ names := by
  induction names with
  | nil => simp [insert]
  | cons other rest ih =>
    unfold insert
    split
    · simp
    · split
      · rename_i heq
        subst heq
        simp
      · simp only [List.mem_cons, ih]
        constructor
        · rintro (h | h | h) <;> simp [h]
        · rintro (h | h | h) <;> simp [h]

/-- The set has the names of the list. -/
theorem mem_ofList {x : String} (names : List String) : x ∈ ofList names ↔ x ∈ names := by
  induction names with
  | nil => simp [ofList]
  | cons name rest ih =>
    have hcons : ofList (name :: rest) = insert name (ofList rest) := rfl
    rw [hcons, mem_insert, ih, List.mem_cons]

end Provisioning.Cluster.NameSet
