/-
**The accepted form of a wish.**

Two things are done to a wish for a name: other characters than the basic lower-case letters and
digits are left out, and what is too long is cut.  It is the kept characters that are counted for
the cut, not those of the wish, so where a wish is cut depends on all of it: a character that is
left out makes room for one at the end.  Therefore the accepted form of a long wish cannot be read
off its first thirty characters, and that of a wish in two parts is not one of the parts with the
other behind it.

Everything there is to say follows from what is **kept** of a text.  This is compatible with putting
texts together, it does not change what consists of basic characters already, and two texts have the
same kept characters just if one becomes the other by putting other characters in and taking other
characters out, one at a time and in any place.

Main definitions:

* `ServiceName.IsBasic` — the characters that are kept, and `ServiceName.kept` — those of a text;
* `IsLongestBeginning` — **the longest beginning** of a list with a limit to its length;
* `ServiceName.SameButOthers` — **the same text** but for other characters.

Main results:

* `take_append_take` — a list in two parts may be cut in both of them first;
* `ServiceName.kept_sanitize`, `ServiceName.sanitize_eq_self` — what has the accepted form;
* `ServiceName.sameButOthers_iff` — texts of which the same is kept;
* `ServiceName.sanitize_laws` — **the laws of the accepted form**.
-/

import Mathlib.Logic.Relation
import Provisioning.ServiceName

set_option relaxedAutoImplicit false
set_option autoImplicit false

namespace Provisioning

/-! ### Beginnings -/

section Beginnings

variable {α : Type}

/-- **The longest beginning** of a list that has at most `n` elements. -/
structure IsLongestBeginning (n : Nat) (front whole : List α) : Prop where
  begins : front <+: whole
  length_le : front.length ≤ n
  longest : ∀ other, other <+: whole → other.length ≤ n → other <+: front

theorem isLongestBeginning_take (n : Nat) (whole : List α) :
    IsLongestBeginning n (whole.take n) whole where
  begins := List.take_prefix n whole
  length_le := List.length_take_le n whole
  longest _ hbegins hle := List.prefix_take_iff.mpr ⟨hbegins, hle⟩

/-- **A list in two parts may be cut in both of them first**: what the cuts take away would not have
been left in the end. -/
theorem take_append_take (n : Nat) (front back : List α) :
    (front.take n ++ back.take n).take n = (front ++ back).take n := by
  have hroom : min (n - min n front.length) n = n - front.length := by omega
  rw [List.take_append, List.take_append, List.take_take, List.take_take, List.length_take,
    Nat.min_self, hroom]

end Beginnings

namespace ServiceName

/-! ### Kept characters -/

/-- A lower-case letter or a digit of the basic alphabet. -/
def IsBasic (c : Char) : Prop := '0' ≤ c ∧ c ≤ '9' ∨ 'a' ≤ c ∧ c ≤ 'z'

instance : DecidablePred IsBasic := fun c =>
  inferInstanceAs (Decidable ('0' ≤ c ∧ c ≤ '9' ∨ 'a' ≤ c ∧ c ≤ 'z'))

theorem isBasic_iff_toNat {c : Char} : IsBasic c ↔
    48 ≤ c.toNat ∧ c.toNat ≤ 57 ∨ 97 ≤ c.toNat ∧ c.toNat ≤ 122 := Iff.rfl

/-- These are the allowed characters of a name. -/
theorem isAllowed_eq_decide (c : Char) : isAllowed c = decide (IsBasic c) := by
  have hdigit : c.isDigit = true ↔ '0' ≤ c ∧ c ≤ '9' :=
    Bool.and_eq_true_iff.trans (and_congr decide_eq_true_iff decide_eq_true_iff)
  have hletter : c.isLower = true ↔ 'a' ≤ c ∧ c ≤ 'z' :=
    Bool.and_eq_true_iff.trans (and_congr decide_eq_true_iff decide_eq_true_iff)
  rw [Bool.eq_iff_iff, decide_eq_true_iff, isAllowed, Bool.or_eq_true, hletter, hdigit, or_comm]
  rfl

/-- Capital letters and all letters and digits of other alphabets are no basic characters. -/
theorem not_isBasic {c : Char} (h : c.isUpper = true ∨ 128 ≤ c.toNat) : ¬ IsBasic c := by
  rw [isBasic_iff_toNat]
  rcases h with hupper | hother
  · have hcapital : 65 ≤ c.toNat ∧ c.toNat ≤ 90 := of_decide_eq_true hupper
    omega
  · omega

/-- **What is kept** of a text. -/
def kept (text : List Char) : List Char := text.filter fun c => decide (IsBasic c)

@[simp] theorem kept_nil : kept [] = [] := rfl

@[simp] theorem kept_append (text more : List Char) :
    kept (text ++ more) = kept text ++ kept more := List.filter_append text more

theorem kept_cons_of_isBasic {c : Char} (h : IsBasic c) (text : List Char) :
    kept (c :: text) = c :: kept text := List.filter_cons_of_pos (decide_eq_true h)

theorem kept_cons_of_not_isBasic {c : Char} (h : ¬ IsBasic c) (text : List Char) :
    kept (c :: text) = kept text := List.filter_cons_of_neg (by simpa using h)

theorem kept_eq_self {text : List Char} (h : ∀ c ∈ text, IsBasic c) : kept text = text :=
  List.filter_eq_self.mpr fun c hc => decide_eq_true (h c hc)

/-! ### The accepted form -/

/-- The accepted form is the beginning of what is kept. -/
theorem toList_sanitize_eq (wish : String) :
    (sanitize wish).toList = (kept wish.toList).take maxLength := by
  rw [toList_sanitize, kept, funext isAllowed_eq_decide]

/-- Nothing but the kept characters matters. -/
theorem sanitize_congr {wish other : String} (h : kept wish.toList = kept other.toList) :
    sanitize wish = sanitize other := by
  rw [← String.toList_inj, toList_sanitize_eq, toList_sanitize_eq, h]

theorem isBasic_of_mem_sanitize {wish : String} {c : Char} (h : c ∈ (sanitize wish).toList) :
    IsBasic c := by
  have hallowed := isAllowed_of_mem_sanitize h
  rw [isAllowed_eq_decide] at hallowed
  exact of_decide_eq_true hallowed

/-- All of an accepted form is kept. -/
theorem kept_sanitize (wish : String) :
    kept (sanitize wish).toList = (kept wish.toList).take maxLength := by
  rw [kept_eq_self fun c hc => isBasic_of_mem_sanitize hc, toList_sanitize_eq]

/-- **What has the accepted form already** stays as it is. -/
theorem sanitize_eq_self {name : String} (hlength : name.length ≤ maxLength)
    (hbasic : ∀ c ∈ name.toList, IsBasic c) : sanitize name = name := by
  rw [← String.length_toList] at hlength
  rw [← String.toList_inj, toList_sanitize_eq, kept_eq_self hbasic, List.take_of_length_le hlength]

theorem sanitize_append (wish more : String) :
    sanitize (sanitize wish ++ sanitize more) = sanitize (wish ++ more) := by
  rw [← String.toList_inj, toList_sanitize_eq, toList_sanitize_eq, String.toList_append,
    String.toList_append, kept_append, kept_append, kept_sanitize, kept_sanitize, take_append_take]

/-! ### Other characters -/

/-- The second text is the first one with one other character somewhere in it. -/
def OneOtherIn (text more : String) : Prop :=
  ∃ front back : String, ∃ c, ¬ IsBasic c ∧ text = front ++ back ∧
    more = front ++ String.singleton c ++ back

/-- **The same text** but for other characters, which may have been put in or taken out anywhere. -/
def SameButOthers : String → String → Prop := Relation.EqvGen OneOtherIn

theorem kept_of_oneOtherIn {text more : String} (h : OneOtherIn text more) :
    kept text.toList = kept more.toList := by
  obtain ⟨front, back, c, hother, rfl, rfl⟩ := h
  simp [kept_cons_of_not_isBasic hother]

/-- All other characters may be taken out.  The induction goes along the text; what it has passed
already stands in front. -/
theorem sameButOthers_kept (front text : List Char) :
    SameButOthers (String.ofList (front ++ text)) (String.ofList (front ++ kept text)) := by
  induction text generalizing front with
  | nil => exact .refl _
  | cons c text ih =>
      by_cases hbasic : IsBasic c
      · have hmore := ih (front ++ [c])
        rwa [List.append_assoc, List.append_assoc, List.singleton_append, List.singleton_append,
          ← kept_cons_of_isBasic hbasic] at hmore
      · rw [kept_cons_of_not_isBasic hbasic]
        refine .trans _ _ _ (.symm _ _ (.rel _ _ ⟨.ofList front, .ofList text, c, hbasic, ?_, ?_⟩))
          (ih front)
        · exact String.ofList_append
        · rw [← String.toList_inj]
          simp

/-- **The texts of which the same is kept** are the same but for other characters. -/
theorem sameButOthers_iff {text more : String} :
    SameButOthers text more ↔ kept text.toList = kept more.toList := by
  constructor
  · intro h
    induction h with
    | rel text more h => exact kept_of_oneOtherIn h
    | refl text => rfl
    | symm text more _ ih => exact ih.symm
    | trans text between more _ _ first second => exact first.trans second
  · intro h
    have htext := sameButOthers_kept [] text.toList
    have hmore := sameButOthers_kept [] more.toList
    rw [List.nil_append, List.nil_append, String.ofList_toList] at htext hmore
    rw [h] at htext
    exact .trans _ _ _ htext (.symm _ _ hmore)

/-! ### The laws -/

/-- **The laws of the accepted form.**  It is the longest beginning of the kept characters that is
not longer than thirty.  It is its own accepted form, and only texts like it are theirs.  The
accepted form of two texts is that of their accepted forms.  Other characters never matter, and
capital letters and whatever stands outside the basic alphabet are among them. -/
theorem sanitize_laws (a b : String) :
    IsLongestBeginning 30 (sanitize a).toList
      (a.toList.filter fun c => '0' ≤ c ∧ c ≤ '9' ∨ 'a' ≤ c ∧ c ≤ 'z') ∧
    sanitize (sanitize a) = sanitize a ∧
    (sanitize a = a ↔ a.length ≤ 30 ∧ ∀ c ∈ a.toList, '0' ≤ c ∧ c ≤ '9' ∨ 'a' ≤ c ∧ c ≤ 'z') ∧
    sanitize (a ++ b) = sanitize (sanitize a ++ sanitize b) ∧
    (SameButOthers a b → sanitize a = sanitize b) ∧
    ∀ c : Char, c.isUpper = true ∨ 128 ≤ c.toNat → ¬ IsBasic c := by
  refine ⟨?_, ?_, ?_, (sanitize_append a b).symm, ?_, fun c => not_isBasic⟩
  · rw [toList_sanitize_eq]
    exact isLongestBeginning_take maxLength (kept a.toList)
  · exact sanitize_eq_self (length_sanitize_le a) fun c hc => isBasic_of_mem_sanitize hc
  · constructor
    · intro hself
      rw [← hself]
      exact ⟨length_sanitize_le a, fun c hc => isBasic_of_mem_sanitize hc⟩
    · rintro ⟨hlength, hbasic⟩
      exact sanitize_eq_self hlength hbasic
  · intro hsame
    exact sanitize_congr (sameButOthers_iff.mp hsame)

/-- A wish with capital letters, a hyphen and a low line, and what is kept of it. -/
theorem sanitize_laws_of_mixed :
    SameButOthers "My-Cluster_01" "yluster01" ∧ sanitize "My-Cluster_01" = "yluster01" := by
  have hsame : SameButOthers "My-Cluster_01" "yluster01" := sameButOthers_iff.mpr (by decide)
  obtain ⟨-, -, -, -, hkept, -⟩ := sanitize_laws "My-Cluster_01" "yluster01"
  obtain ⟨-, -, hfixed, -⟩ := sanitize_laws "yluster01" ""
  have hbasic : "yluster01".toList.all (fun c => decide (IsBasic c)) = true := by decide
  have hall : ∀ c ∈ "yluster01".toList, IsBasic c := fun c hc =>
    of_decide_eq_true (List.all_eq_true.mp hbasic c hc)
  exact ⟨hsame, (hkept hsame).trans (hfixed.mpr ⟨by decide, hall⟩)⟩

end ServiceName

end Provisioning
