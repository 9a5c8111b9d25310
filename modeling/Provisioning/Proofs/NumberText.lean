/-
**Numbers as they are written.**

A number is written with a sign, a whole part without a superfluous zero in front, perhaps a point
and digits behind it, and perhaps a power of ten.  The parts are laid out here with what the format
asks of them, so that only well-formed numbers can be built, and the reader is followed over them.
It needs to see where the number ends: a text may follow that does not go on with a digit, a point
or an `e`.

What is read is an integer where only a sign and a whole part are written, and where the number fits
the 64-bit ranges; a negative zero is none.  Every other number becomes a float, or nothing if it is
too large, and is read to its end all the same.

Main definitions:

* `Json.NumberText`, `Json.NumberText.chars` — **a number as it is written**;
* `Json.NumberText.integer?` — the integer that is written, if one is;
* `Json.NumberText.value` — what is read;
* `Json.Ends` — no number goes on.

Main results:

* `Json.NumberText.number?_append` — **every number that is written is read**;
* `Json.NumberText.toList_toString` — the text of an integer is a number that spells it.
-/

import Mathlib.Tactic.SplitIfs
import Provisioning.Json.Raw
import Provisioning.Proofs.DecimalText

set_option relaxedAutoImplicit false
set_option autoImplicit false

namespace Provisioning.Json

/-! ### The parts of a number -/

/-- A power of ten as it is written behind a number. -/
structure ExponentText where
  mark : Char
  sign : List Char
  digits : List Char
  mark_eq : mark = 'e' ∨ mark = 'E'
  sign_eq : sign = [] ∨ sign = ['+'] ∨ sign = ['-']
  digits_run : Digits.IsRun digits

/-- The float of some digits with a power of ten behind them.  A power beyond all bounds leaves
nothing of the number, or nothing of the range. -/
def ExponentText.shifted (e : ExponentText) (negative : Bool) (significand : Nat) (power : Int) :
    Option Number :=
  let down := e.sign == ['-']
  let shift := Digits.decimal e.digits
  if powerLimit ≤ shift then
    if down || significand = 0 then some (.float (.zero negative)) else none
  else floatOf negative significand (if down then power - shift else power + shift)

/-- **A number as it is written.** -/
structure NumberText where
  negative : Bool
  whole : List Char
  /-- The digits behind the point, if there is one. -/
  fraction : Option (List Char)
  exponent : Option ExponentText
  whole_run : Digits.IsRun whole
  /-- No superfluous zero stands in front. -/
  whole_zero : ∀ rest, whole = '0' :: rest → rest = []
  fraction_run : ∀ digits ∈ fraction, Digits.IsRun digits

namespace NumberText

variable (n : NumberText)

/-- The point and the digits behind it. -/
def fractionChars : List Char :=
  match n.fraction with
  | none => []
  | some digits => '.' :: digits

/-- The power of ten with its mark. -/
def exponentChars : List Char :=
  match n.exponent with
  | none => []
  | some e => e.mark :: (e.sign ++ e.digits)

/-- The number without its sign. -/
def unsigned : List Char := n.whole ++ (n.fractionChars ++ n.exponentChars)

/-- How the number is written. -/
def chars : List Char := if n.negative then '-' :: n.unsigned else n.unsigned

/-- The sign and the whole part. -/
def signed : Int := if n.negative then -(Digits.decimal n.whole : Int) else Digits.decimal n.whole

/-- **The integer that is written**, if one is that fits 64 bits and is no negative zero. -/
def integer? : Option Int :=
  if n.fraction.isSome || n.exponent.isSome then none
  else if n.negative && n.signed = 0 then none
  else if -(Nat.pow 2 63 : Int) ≤ n.signed && n.signed < significandLimit then some n.signed
  else none

/-- The digits that are kept of the number without its power of ten, and the power of ten that makes
up for the point and for the digits that are not kept. -/
def scaled : Nat × Int :=
  let (significand, _, left) := fitting 0 n.whole
  match n.fraction with
  | none => (significand, left.length)
  | some digits =>
    let (significand, taken, _) := fitting significand digits
    (significand, (left.length : Int) - taken)

/-- The float that is read, if it is in range. -/
def float? : Option Number :=
  match n.exponent with
  | none => floatOf n.negative n.scaled.1 n.scaled.2
  | some e => e.shifted n.negative n.scaled.1 n.scaled.2

/-- **What is read** of a number that is written. -/
def value : Option Number :=
  match n.integer? with
  | some i => some (.integer i)
  | none => n.float?

end NumberText

/-- **No number goes on** here. -/
def Ends (rest : List Char) : Prop :=
  ∀ c, rest.head? = some c → c.isDigit = false ∧ c ∉ ['.', 'e', 'E']

theorem ends_nil : Ends [] := nofun

theorem ends_cons {c : Char} (hdigit : c.isDigit = false) (hc : c ∉ ['.', 'e', 'E'])
    (rest : List Char) : Ends (c :: rest) := by
  rintro d hd
  obtain rfl := Option.some.inj hd
  exact ⟨hdigit, hc⟩

/-! ### Reading the parts -/

section Parts

variable {digits rest : List Char}

theorem digitRun_append (hdigits : ∀ c ∈ digits, c.isDigit = true)
    (hrest : rest.head?.any Char.isDigit = false) : digitRun (digits ++ rest) = (digits, rest) :=
  span_append hdigits hrest

theorem Ends.head?_any (h : Ends rest) : rest.head?.any Char.isDigit = false := by
  cases rest with
  | nil => rfl
  | cons c rest => exact (h c rfl).1

/-- **Digits are kept** as long as their number fits. -/
theorem fitting_cases (digits : List Char) (significand : Nat) :
    let number := digits.foldl (fun n d => n * 10 + Digits.decimalValue d) significand
    (number < significandLimit ∧ fitting significand digits = (number, digits.length, [])) ∨
      (significandLimit ≤ number ∧
        (significand < significandLimit → (fitting significand digits).2.2 ≠ [])) := by
  induction digits generalizing significand with
  | nil =>
      rcases Nat.lt_or_ge significand significandLimit with hlt | hge
      · exact .inl ⟨hlt, rfl⟩
      · exact .inr ⟨hge, fun hlt => absurd hlt (Nat.not_lt.mpr hge)⟩
  | cons d digits ih =>
      have hle := Digits.le_foldl digits (significand * 10 + Digits.decimalValue d)
      rw [List.foldl_cons, fitting]
      by_cases hfits : significandLimit ≤ significand * 10 + Digits.decimalValue d
      · refine .inr ⟨Nat.le_trans hfits hle, fun _ => ?_⟩
        rw [if_pos hfits]
        exact List.cons_ne_nil _ _
      · rw [if_neg hfits]
        rcases ih (significand * 10 + Digits.decimalValue d) with ⟨hlt, hread⟩ | ⟨hge, hleft⟩
        · rw [hread]
          exact .inl ⟨hlt, rfl⟩
        · exact .inr ⟨hge, fun _ => hleft (Nat.lt_of_not_le hfits)⟩

theorem fitting_zero (digits : List Char) :
    (Digits.decimal digits < significandLimit ∧
        fitting 0 digits = (Digits.decimal digits, digits.length, [])) ∨
      (significandLimit ≤ Digits.decimal digits ∧ (fitting 0 digits).2.2 ≠ []) :=
  (fitting_cases digits 0).imp id (And.imp id fun h => h (by decide))

/-- **The power of ten** is read up to its last digit. -/
theorem exponentPart?_append (e : ExponentText) (hrest : Ends rest) :
    exponentPart? (e.sign ++ e.digits ++ rest) =
      some (e.sign == ['-'], Digits.decimal e.digits, rest) := by
  have hrun := digitRun_append e.digits_run.isDigit hrest.head?_any
  obtain ⟨d, ds, hdigits, hd⟩ := e.digits_run.exists_cons
  rw [hdigits] at hrun ⊢
  rw [List.cons_append] at hrun
  rcases e.sign_eq with hsign | hsign | hsign
  · -- Without a sign the first digit is looked at, which is none.
    have hplus : d ≠ '+' := by
      rintro rfl
      cases hd
    have hminus : d ≠ '-' := by
      rintro rfl
      cases hd
    rw [hsign, List.nil_append, List.cons_append, exponentPart?]
    · simp only [hrun]
      rfl
    · exact fun _ h => hplus (List.cons.inj h).1
    · exact fun _ h => hminus (List.cons.inj h).1
  · rw [hsign, List.singleton_append, List.cons_append, List.cons_append, exponentPart?]
    simp only [hrun]
    rfl
  · rw [hsign, List.singleton_append, List.cons_append, List.cons_append, exponentPart?]
    simp only [hrun]
    rfl

/-- Where no power of ten stands, none is read. -/
theorem withExponent_of_ends (negative : Bool) (significand : Nat) (power : Int)
    (hrest : Ends rest) :
    withExponent negative significand power rest =
      some (floatOf negative significand power, rest) := by
  cases rest with
  | nil => rfl
  | cons c rest =>
      have hc := (hrest c rfl).2
      simp only [List.mem_cons, List.not_mem_nil, or_false, not_or] at hc
      rw [withExponent]
      · exact fun _ h => hc.2.1 (List.cons.inj h).1
      · exact fun _ h => hc.2.2 (List.cons.inj h).1

/-- **A power of ten** is applied. -/
theorem withExponent_append (negative : Bool) (significand : Nat) (power : Int)
    (e : ExponentText) (hrest : Ends rest) :
    withExponent negative significand power (e.mark :: (e.sign ++ e.digits) ++ rest) =
      some (e.shifted negative significand power, rest) := by
  have hread : withExponent negative significand power (e.mark :: (e.sign ++ e.digits) ++ rest) =
      if powerLimit ≤ Digits.decimal e.digits then
        some (if (e.sign == ['-']) || significand = 0 then some (.float (.zero negative))
          else none, rest)
      else some (floatOf negative significand (if e.sign == ['-'] then
        power - Digits.decimal e.digits else power + Digits.decimal e.digits), rest) := by
    rcases e.mark_eq with hmark | hmark <;>
    · rw [hmark, List.cons_append, withExponent, exponentPart?_append e hrest]
      rfl
  rw [hread, ExponentText.shifted]
  split
  · rfl
  · rfl

end Parts

/-! ### Reading a number -/

namespace NumberText

variable (n : NumberText) {rest : List Char}

theorem fractionChars_none (h : n.fraction = none) : n.fractionChars = [] := by
  rw [fractionChars, h]

theorem fractionChars_some {digits : List Char} (h : n.fraction = some digits) :
    n.fractionChars = '.' :: digits := by
  rw [fractionChars, h]

theorem exponentChars_none (h : n.exponent = none) : n.exponentChars = [] := by
  rw [exponentChars, h]

theorem exponentChars_some {e : ExponentText} (h : n.exponent = some e) :
    n.exponentChars = e.mark :: (e.sign ++ e.digits) := by
  rw [exponentChars, h]

/-- A power of ten does not begin with a digit. -/
theorem any_exponentChars (hrest : Ends rest) :
    (n.exponentChars ++ rest).head?.any Char.isDigit = false := by
  cases hexponent : n.exponent with
  | none =>
      rw [n.exponentChars_none hexponent]
      exact hrest.head?_any
  | some e =>
      rw [n.exponentChars_some hexponent]
      rcases e.mark_eq with hmark | hmark
      · rw [hmark]
        rfl
      · rw [hmark]
        rfl

/-- What stands behind the whole part is no digit. -/
theorem digitRun_unsigned (hrest : Ends rest) : digitRun (n.unsigned ++ rest) =
    (n.whole, n.fractionChars ++ (n.exponentChars ++ rest)) := by
  rw [unsigned, List.append_assoc, List.append_assoc]
  refine digitRun_append n.whole_run.isDigit ?_
  cases hfraction : n.fraction with
  | none =>
      rw [n.fractionChars_none hfraction]
      exact n.any_exponentChars hrest
  | some digits =>
      rw [n.fractionChars_some hfraction]
      rfl

theorem withExponent_scaled (hrest : Ends rest) :
    withExponent n.negative n.scaled.1 n.scaled.2 (n.exponentChars ++ rest) =
      some (n.float?, rest) := by
  cases hexponent : n.exponent with
  | none =>
      rw [n.exponentChars_none hexponent, float?, hexponent]
      exact withExponent_of_ends _ _ _ hrest
  | some e =>
      rw [n.exponentChars_some hexponent, float?, hexponent]
      exact withExponent_append _ _ _ e hrest

theorem integer?_eq_signed (hfraction : n.fraction = none) (hexponent : n.exponent = none)
    (hzero : n.negative = true → n.signed ≠ 0) (hlow : -(Nat.pow 2 63 : Int) ≤ n.signed)
    (hhigh : n.signed < significandLimit) : n.integer? = some n.signed := by
  have hplain : (n.fraction.isSome || n.exponent.isSome) = false := by
    rw [hfraction, hexponent]
    rfl
  have hnonzero : (n.negative && n.signed = 0) = false := by simpa using hzero
  have hfits : (-(Nat.pow 2 63 : Int) ≤ n.signed && n.signed < significandLimit) = true := by
    rw [decide_eq_true hlow, decide_eq_true hhigh]
    rfl
  rw [integer?, hplain, hnonzero, hfits]
  rfl

theorem integer?_eq_none (h : n.negative = true ∧ n.signed = 0 ∨
    n.signed < -(Nat.pow 2 63 : Int) ∨ (significandLimit : Int) ≤ n.signed) :
    n.integer? = none := by
  rw [integer?]
  split_ifs with hparts hzero hfits
  · rfl
  · rfl
  · rw [Bool.and_eq_true, decide_eq_true_eq, decide_eq_true_eq] at hfits
    rcases h with h | h | h
    · exact absurd (by simpa using h) hzero
    · exact absurd hfits.1 (Int.not_le.mpr h)
    · exact absurd hfits.2 (Int.not_lt.mpr h)
  · rfl

/-- **A whole number** is an integer if it fits, and else a float. -/
theorem value_whole (hfraction : n.fraction = none) (hexponent : n.exponent = none) :
    n.value =
      if !(fitting 0 n.whole).2.2.isEmpty then
        floatOf n.negative (fitting 0 n.whole).1 (fitting 0 n.whole).2.2.length
      else if !n.negative then some (.integer (fitting 0 n.whole).1)
      else if (fitting 0 n.whole).1 = 0 || Nat.pow 2 63 < (fitting 0 n.whole).1 then
        floatOf true (fitting 0 n.whole).1 0
      else some (.integer (-((fitting 0 n.whole).1 : Int))) := by
  have hfloat : n.float? =
      floatOf n.negative (fitting 0 n.whole).1 (fitting 0 n.whole).2.2.length := by
    rw [float?, hexponent, scaled, hfraction]
  rw [value, hfloat]
  rcases fitting_zero n.whole with ⟨hlt, hread⟩ | ⟨hge, hleft⟩
  · -- All digits are kept, so the number that is looked at is the one that is written.
    rw [hread]
    cases hsign : n.negative with
    | false =>
        have hsigned : n.signed = Digits.decimal n.whole := by simp [signed, hsign]
        rw [n.integer?_eq_signed hfraction hexponent (by simp [hsign]) (by omega) (by omega),
          hsigned]
        rfl
    | true =>
        have hsigned : n.signed = -(Digits.decimal n.whole : Int) := by simp [signed, hsign]
        by_cases hfits : Digits.decimal n.whole = 0 || Nat.pow 2 63 < Digits.decimal n.whole
        · have hnone : n.integer? = none := by
            rw [Bool.or_eq_true, decide_eq_true_eq, decide_eq_true_eq] at hfits
            exact n.integer?_eq_none
              (hfits.imp (fun h => ⟨hsign, by omega⟩) fun h => .inl (by omega))
          simp only [hnone, hfits]
          rfl
        · have hsome : n.integer? = some n.signed := by
            rw [Bool.or_eq_true, decide_eq_true_eq, decide_eq_true_eq] at hfits
            exact n.integer?_eq_signed hfraction hexponent (by omega) (by omega) (by omega)
          simp only [hsome, hsigned, hfits]
          rfl
  · have hmissing : (!(fitting 0 n.whole).2.2.isEmpty) = true := by simpa using hleft
    have hnone : n.integer? = none := by
      refine n.integer?_eq_none ?_
      rw [signed]
      have hlimit : Nat.pow 2 63 < significandLimit := by decide
      split_ifs
      · omega
      · omega
    rw [if_pos hmissing, hnone]

/-- **Every number that is written is read.** -/
theorem number?_append (hrest : Ends rest) :
    number? n.negative (n.unsigned ++ rest) = some (n.value, rest) := by
  have hfloat := n.withExponent_scaled hrest
  rw [number?, n.digitRun_unsigned hrest]
  simp only []
  split
  · rename_i hnil
    exact absurd hnil n.whole_run.ne_nil
  · rename_i hspare
    cases n.whole_zero _ hspare
  · cases hfraction : n.fraction with
    | some digits =>
        have hdigits := n.fraction_run digits hfraction
        have hrun := digitRun_append hdigits.isDigit (n.any_exponentChars hrest)
        obtain ⟨d, ds, rfl, -⟩ := hdigits.exists_cons
        have hvalue : n.value = n.float? := by simp [value, integer?, hfraction]
        rw [scaled, hfraction] at hfloat
        rw [n.fractionChars_some hfraction, List.cons_append, hvalue]
        simp only [hrun]
        exact hfloat
    | none =>
        rw [n.fractionChars_none hfraction, List.nil_append]
        rw [scaled, hfraction] at hfloat
        cases hexponent : n.exponent with
        | some e =>
            have hvalue : n.value = n.float? := by simp [value, integer?, hexponent]
            rw [hvalue, ← hfloat, n.exponentChars_some hexponent]
            rcases e.mark_eq with hmark | hmark
            · rw [hmark]
              rfl
            · rw [hmark]
              rfl
        | none =>
            rw [n.exponentChars_none hexponent, List.nil_append, n.value_whole hfraction hexponent]
            split
            · cases (hrest '.' rfl).2 List.mem_cons_self
            · cases (hrest 'e' rfl).2 (List.mem_cons_of_mem _ List.mem_cons_self)
            · cases (hrest 'E' rfl).2
                (List.mem_cons_of_mem _ (List.mem_cons_of_mem _ List.mem_cons_self))
            · split
              · rfl
              · split
                · rfl
                · split
                  · rfl
                  · rfl

/-! ### The text of an integer -/

/-- How an integer is written. -/
def ofInt (i : Int) : NumberText where
  negative := i < 0
  whole := Nat.toDigits 10 i.natAbs
  fraction := none
  exponent := none
  whole_run := Digits.isRun_toDigits i.natAbs
  whole_zero _ := Digits.eq_nil_of_toDigits i.natAbs
  fraction_run := nofun

theorem toList_toString (i : Int) : (toString i).toList = (ofInt i).chars := by
  have hunsigned : (ofInt i).unsigned = Nat.toDigits 10 i.natAbs := List.append_nil _
  rw [Int.toString_eq_repr, Int.repr_eq_if, chars, hunsigned]
  by_cases hi : 0 ≤ i
  · have hsign : (ofInt i).negative = false := decide_eq_false (by omega)
    rw [if_pos hi, hsign, Nat.toList_repr, ← Int.toNat_of_nonneg hi]
    rfl
  · have hsign : (ofInt i).negative = true := decide_eq_true (by omega)
    have hsize : (-i).toNat = i.natAbs := by omega
    rw [if_neg hi, hsign, String.toList_append, Nat.toList_repr, hsize]
    rfl

/-- **An integer that fits 64 bits is read as it is written.** -/
theorem value_ofInt {i : Int} (hlow : -(Nat.pow 2 63 : Int) ≤ i) (hhigh : i < significandLimit) :
    (ofInt i).value = some (.integer i) := by
  have hdecimal : Digits.decimal (ofInt i).whole = i.natAbs := Digits.decimal_toDigits i.natAbs
  have hsigned : (ofInt i).signed = i := by
    rw [signed, hdecimal]
    by_cases hi : i < 0
    · have hsign : (ofInt i).negative = true := decide_eq_true hi
      rw [if_pos hsign]
      omega
    · have hsign : ¬ (ofInt i).negative = true := fun h => hi (of_decide_eq_true h)
      rw [if_neg hsign]
      omega
  have hzero : (ofInt i).negative = true → (ofInt i).signed ≠ 0 := by
    intro hnegative
    have hi : i < 0 := of_decide_eq_true hnegative
    omega
  rw [value, (ofInt i).integer?_eq_signed rfl rfl hzero (by omega) (by omega), hsigned]

/-! ### Floats are no integers -/

theorem floatOf_ne_integer (negative : Bool) (significand : Nat) (power i : Int) :
    floatOf negative significand power ≠ some (.integer i) := by
  intro h
  obtain ⟨x, -, hx⟩ := Option.map_eq_some_iff.mp h
  cases hx

theorem float?_ne_integer (n : NumberText) (i : Int) : n.float? ≠ some (.integer i) := by
  intro h
  rw [float?] at h
  split at h
  · exact floatOf_ne_integer _ _ _ _ h
  · rw [ExponentText.shifted] at h
    split_ifs at h
    all_goals first
      | cases h
      | exact floatOf_ne_integer _ _ _ _ h

/-- **An integer is read** if and only if one is written. -/
theorem value_eq_integer_iff {n : NumberText} {i : Int} :
    n.value = some (.integer i) ↔ n.integer? = some i := by
  rw [value]
  cases n.integer? with
  | some j => simp
  | none => exact ⟨fun h => absurd h (n.float?_ne_integer i), nofun⟩

end NumberText

end Provisioning.Json
