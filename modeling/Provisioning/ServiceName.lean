/-
**Service names.**

The backend accepts names of lower-case letters and digits of the basic alphabet, at most thirty of
them.  A name chosen by a user is brought into this form by leaving out every other character and
cutting what is too long; nothing is replaced, so what is kept stands in its order.

Main definitions:

* `ServiceName.isAllowed` — the characters of a name;
* `ServiceName.sanitize` — **the accepted form** of a wish, which may be empty;
* `ServiceName.alphabet`, `ServiceName.generatedLength` — what generated names are made of.
-/

set_option autoImplicit false
set_option relaxedAutoImplicit false

namespace Provisioning.ServiceName

/-- The longest name that is accepted. -/
def maxLength : Nat := 30

/-- The length of a generated name. -/
def generatedLength : Nat := 10

/-- The characters of a name. -/
def isAllowed (c : Char) : Bool := c.isLower || c.isDigit

/-- The characters of a generated name, by number. -/
def alphabet : List Char := "abcdefghijklmnopqrstuvwxyz0123456789".toList

/-- **The accepted form** of a wish: its allowed characters, at most thirty. -/
def sanitize (wish : String) : String :=
  String.ofList ((wish.toList.filter isAllowed).take maxLength)

theorem alphabet_length : alphabet.length = 36 := by decide

/-- A generated name is made of allowed characters. -/
theorem isAllowed_of_mem_alphabet {c : Char} (h : c ∈ alphabet) : isAllowed c = true := by
  have hall : alphabet.all isAllowed = true := by decide
  exact List.all_eq_true.mp hall c h

@[simp] theorem toList_sanitize (wish : String) :
    (sanitize wish).toList = (wish.toList.filter isAllowed).take maxLength := by
  simp [sanitize]

/-- The accepted form is made of allowed characters. -/
theorem isAllowed_of_mem_sanitize {wish : String} {c : Char} (h : c ∈ (sanitize wish).toList) :
    isAllowed c = true := by
  rw [toList_sanitize] at h
  exact (List.mem_filter.mp (List.mem_of_mem_take h)).2

/-- It is not too long. -/
theorem length_sanitize_le (wish : String) : (sanitize wish).length ≤ maxLength := by
  rw [← String.length_toList, toList_sanitize]
  exact List.length_take_le _ _

end Provisioning.ServiceName
