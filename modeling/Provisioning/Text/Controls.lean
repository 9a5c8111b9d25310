/-
**Characters that a terminal obeys.**

Some control characters move the cursor of a terminal, change its colours or sound its bell.  A text
from elsewhere is written with these characters written out, so that it is only shown.

Main definitions:

* `Text.isObeyed` — the characters that a terminal obeys;
* `Text.withoutControls` — **a text** with these characters written out.

Main statement: none of them is left (`isHarmless_withoutControls`).
-/

set_option autoImplicit false
set_option relaxedAutoImplicit false

namespace Provisioning.Text

/-- The short forms of the basic characters that a terminal obeys. -/
def shortControls : List (Char × String) :=
  [('\x1b', "\\x1b"), ('\x07', "\\x07"), ('\x08', "\\x08"), ('\x0c', "\\x0c"),
    ('\x7f', "\\x7f")]

/-- Whether a character is one of the controls beyond the basic alphabet. -/
def isFurtherControl (c : Char) : Bool := 0x80 ≤ c.toNat && c.toNat ≤ 0x9f

/-- The characters that a terminal obeys. -/
def isObeyed (c : Char) : Bool := (shortControls.lookup c).isSome || isFurtherControl c

/-- A character, written out if a terminal would obey it. -/
def shownChar (c : Char) : List Char :=
  match shortControls.lookup c with
  | some form => form.toList
  | none =>
    if isFurtherControl c then "\\u\x7b".toList ++ Nat.toDigits 16 c.toNat ++ ['\x7d'] else [c]

/-- **A text** with the characters written out that a terminal would obey. -/
def withoutControls (s : String) : String := String.ofList (s.toList.flatMap shownChar)

/-- Whether a text has no characters that a terminal obeys. -/
def isHarmless (text : List Char) : Bool := text.all (!isObeyed ·)

theorem isHarmless_shortControls :
    (shortControls.all fun (_, form) => isHarmless form.toList) = true := by decide

theorem isHarmless_toDigits {n : Nat} (hlow : 0x80 ≤ n) (hhigh : n ≤ 0x9f) :
    isHarmless (Nat.toDigits 16 n) = true := by
  have hall : ((List.range 0x20).all fun k => isHarmless (Nat.toDigits 16 (0x80 + k))) = true := by
    decide
  have := List.all_eq_true.1 hall (n - 0x80) (List.mem_range.2 (by omega))
  rwa [Nat.add_sub_cancel' hlow] at this

theorem isHarmless_append (a b : List Char) :
    isHarmless (a ++ b) = (isHarmless a && isHarmless b) := by simp [isHarmless]

/-- A character as it is shown is harmless. -/
theorem isHarmless_shownChar (c : Char) : isHarmless (shownChar c) = true := by
  unfold shownChar
  split
  case h_1 form hform =>
    obtain ⟨_, _, hsplit, _⟩ := List.lookup_eq_some_iff.1 hform
    exact List.all_eq_true.1 isHarmless_shortControls (c, form) (by simp [hsplit])
  case h_2 hnone =>
    split
    case isTrue hfurther =>
      simp only [isFurtherControl, Bool.and_eq_true, decide_eq_true_eq] at hfurther
      have hopen : isHarmless "\\u\x7b".toList = true := by decide
      have hclose : isHarmless ['\x7d'] = true := by decide
      rw [isHarmless_append, isHarmless_append, hopen, hclose,
        isHarmless_toDigits hfurther.1 hfurther.2]
      rfl
    case isFalse hplain => simp [isHarmless, isObeyed, hnone, hplain]

/-- What is shown has no characters that a terminal obeys. -/
theorem isHarmless_withoutControls (s : String) :
    isHarmless (withoutControls s).toList = true := by
  have hshown := isHarmless_shownChar
  simp only [isHarmless, List.all_eq_true] at hshown
  simp only [withoutControls, String.toList_ofList, isHarmless, List.all_eq_true,
    List.mem_flatMap]
  rintro d ⟨c, _, hd⟩
  exact hshown c d hd

end Provisioning.Text
