/-
**What is written is read.**

The bytes of a text are read with care: a first byte says how many bytes follow and narrows down the
second one, so that overlong forms, halves of surrogate pairs and numbers beyond the last character
are kept out.  This must not keep out anything that was written.  A character of two bytes or more
is cut into groups of six bits, and a byte behind the first is always in range, but for the second
one that depends on the character: it has to be seen that every character meets the range that its
own first byte asks for.

Main results:

* `Utf8.scalars_encode` — **a text that was written is read again**, character by character;
* `Utf8.decodeLossy_encode`, `Utf8.decode?_encode` — and nothing in it is replaced or faulty.
-/

import Provisioning.Text.Utf8

set_option relaxedAutoImplicit false
set_option autoImplicit false

namespace Provisioning.Utf8

/-! ### Bytes behind the first -/

theorem toNat_ofNat {n : Nat} (h : n < 256) : (UInt8.ofNat n).toNat = n :=
  UInt8.toNat_ofNat_of_lt' h

/-- A byte in the range of a pending character gives six bits more. -/
theorem scalarsFrom_pending {p : Pending} {k : Nat} (hk : k < 64) (hlow : p.low.toNat ≤ k + 0x80)
    (hhigh : k + 0x80 ≤ p.high.toNat) (rest : List UInt8) :
    scalarsFrom (some p) (UInt8.ofNat (k + 0x80) :: rest) =
      if p.missing = 1 then some (Char.ofNat (p.bits * 64 + k)) :: scalarsFrom none rest
      else scalarsFrom (some { bits := p.bits * 64 + k, missing := p.missing - 1 }) rest := by
  have hbyte : (UInt8.ofNat (k + 0x80)).toNat = k + 0x80 := toNat_ofNat (by omega)
  have hrange : (p.low ≤ UInt8.ofNat (k + 0x80) && UInt8.ofNat (k + 0x80) ≤ p.high) = true := by
    rw [Bool.and_eq_true, decide_eq_true_eq, decide_eq_true_eq, UInt8.le_iff_toNat_le,
      UInt8.le_iff_toNat_le, hbyte]
    exact ⟨hlow, hhigh⟩
  rw [scalarsFrom, if_pos hrange, hbyte, Nat.add_sub_cancel]

/-- Any six bits are in the range that a byte has by default. -/
theorem scalarsFrom_bits (bits missing : Nat) {k : Nat} (hk : k < 64) (rest : List UInt8) :
    scalarsFrom (some { bits, missing }) (UInt8.ofNat (k + 0x80) :: rest) =
      if missing = 1 then some (Char.ofNat (bits * 64 + k)) :: scalarsFrom none rest
      else scalarsFrom (some { bits := bits * 64 + k, missing := missing - 1 }) rest := by
  let p : Pending := { bits, missing }
  have hlow : p.low.toNat ≤ k + 0x80 := Nat.le_add_left 0x80 k
  have hhigh : k + 0x80 ≤ p.high.toNat := Nat.add_le_add_right (Nat.le_of_lt_succ hk) 0x80
  exact scalarsFrom_pending hk hlow hhigh rest

/-! ### First bytes -/

/-- What a first byte begins with the bits of a character, so that the next six bits are in
range. -/
def Begins (b : UInt8) (bits missing next : Nat) : Prop :=
  ∃ p : Pending, start b = .pending p ∧ p.bits = bits ∧ p.missing = missing ∧
    p.low.toNat ≤ next + 0x80 ∧ next + 0x80 ≤ p.high.toNat

/-- The first two bytes of a character of two bytes or more. -/
theorem Begins.scalars {b : UInt8} {bits missing next : Nat} (h : Begins b bits missing next)
    (hnext : next < 64) (rest : List UInt8) :
    scalars (b :: UInt8.ofNat (next + 0x80) :: rest) =
      if missing = 1 then some (Char.ofNat (bits * 64 + next)) :: Utf8.scalars rest
      else scalarsFrom (some { bits := bits * 64 + next, missing := missing - 1 }) rest := by
  obtain ⟨p, hstart, rfl, rfl, hlow, hhigh⟩ := h
  rw [Utf8.scalars, scalarsFrom, scalarsFrom.begin, hstart]
  exact scalarsFrom_pending hnext hlow hhigh rest

/-- A character of two bytes is not one of the first 128. -/
theorem begins_two {v : Nat} (hlow : 0x80 ≤ v) (hhigh : v < 0x800) :
    Begins (UInt8.ofNat (v / 64 % 0x20 + 0xc0)) (v / 64) 1 (v % 64) := by
  have hbyte : (UInt8.ofNat (v / 64 % 0x20 + 0xc0)).toNat = v / 64 + 0xc0 := by
    rw [toNat_ofNat (by omega), Nat.mod_eq_of_lt (by omega)]
  refine ⟨{ bits := v / 64, missing := 1 }, ?_, rfl, rfl, Nat.le_add_left _ _, ?_⟩
  · rw [start, hbyte, if_neg (by omega), if_neg (by omega), if_pos (by omega), Nat.add_sub_cancel]
  · change v % 64 + 0x80 ≤ 0xbf
    omega

/-- A character of three bytes is no overlong form, and no half of a surrogate pair. -/
theorem begins_three {v : Nat} (hlow : 0x800 ≤ v) (hhigh : v < 0x10000)
    (hvalid : v < 0xd800 ∨ 0xe000 ≤ v) :
    Begins (UInt8.ofNat (v / 4096 % 0x10 + 0xe0)) (v / 4096) 2 (v / 64 % 64) := by
  have hbyte : (UInt8.ofNat (v / 4096 % 0x10 + 0xe0)).toNat = v / 4096 + 0xe0 := by
    rw [toNat_ofNat (by omega), Nat.mod_eq_of_lt (by omega)]
  rw [Begins, start, hbyte, if_neg (by omega), if_neg (by omega), if_neg (by omega)]
  by_cases hfirst : v / 4096 + 0xe0 = 0xe0
  · have hbits : 0 = v / 4096 := by omega
    refine ⟨{ bits := 0, missing := 2, low := 0xa0 }, if_pos hfirst, hbits, rfl, ?_, ?_⟩
    · change 0xa0 ≤ v / 64 % 64 + 0x80
      omega
    · change v / 64 % 64 + 0x80 ≤ 0xbf
      omega
  · rw [if_neg hfirst]
    by_cases hsurrogate : v / 4096 + 0xe0 = 0xed
    · have hbits : 0xd = v / 4096 := by omega
      refine ⟨{ bits := 0xd, missing := 2, high := 0x9f }, if_pos hsurrogate, hbits, rfl, ?_, ?_⟩
      · exact Nat.le_add_left _ _
      · change v / 64 % 64 + 0x80 ≤ 0x9f
        omega
    · rw [if_neg hsurrogate, if_pos (by omega), Nat.add_sub_cancel]
      refine ⟨{ bits := v / 4096, missing := 2 }, rfl, rfl, rfl, Nat.le_add_left _ _, ?_⟩
      change v / 64 % 64 + 0x80 ≤ 0xbf
      omega

/-- A character of four bytes is no overlong form, and not beyond the last character. -/
theorem begins_four {v : Nat} (hlow : 0x10000 ≤ v) (hhigh : v < 0x110000) :
    Begins (UInt8.ofNat (v / 262144 % 0x08 + 0xf0)) (v / 262144) 3 (v / 4096 % 64) := by
  have hbyte : (UInt8.ofNat (v / 262144 % 0x08 + 0xf0)).toNat = v / 262144 + 0xf0 := by
    rw [toNat_ofNat (by omega), Nat.mod_eq_of_lt (by omega)]
  rw [Begins, start, hbyte, if_neg (by omega), if_neg (by omega), if_neg (by omega),
    if_neg (by omega), if_neg (by omega), if_neg (by omega)]
  by_cases hfirst : v / 262144 + 0xf0 = 0xf0
  · have hbits : 0 = v / 262144 := by omega
    refine ⟨{ bits := 0, missing := 3, low := 0x90 }, if_pos hfirst, hbits, rfl, ?_, ?_⟩
    · change 0x90 ≤ v / 4096 % 64 + 0x80
      omega
    · change v / 4096 % 64 + 0x80 ≤ 0xbf
      omega
  · rw [if_neg hfirst]
    by_cases hlast : v / 262144 + 0xf0 = 0xf4
    · have hbits : 4 = v / 262144 := by omega
      refine ⟨{ bits := 4, missing := 3, high := 0x8f }, if_pos hlast, hbits, rfl, ?_, ?_⟩
      · exact Nat.le_add_left _ _
      · change v / 4096 % 64 + 0x80 ≤ 0x8f
        omega
    · rw [if_neg hlast, if_pos (by omega), Nat.add_sub_cancel]
      refine ⟨{ bits := v / 262144, missing := 3 }, rfl, rfl, rfl, Nat.le_add_left _ _, ?_⟩
      change v / 4096 % 64 + 0x80 ≤ 0xbf
      omega

/-! ### Characters -/

/-- The numbers of characters. -/
theorem toNat_cases (c : Char) :
    c.toNat < 0x80 ∨ (0x80 ≤ c.toNat ∧ c.toNat < 0x800) ∨
      (0x800 ≤ c.toNat ∧ c.toNat < 0x10000 ∧ (c.toNat < 0xd800 ∨ 0xe000 ≤ c.toNat)) ∨
        (0x10000 ≤ c.toNat ∧ c.toNat < 0x110000) := by
  have hvalid : c.toNat < 0xd800 ∨ 0xdfff < c.toNat ∧ c.toNat < 0x110000 := c.valid
  omega

/-- The bits of a character, put together again. -/
theorem ofNat_of_bits {c : Char} {n : Nat} (h : n = c.toNat) : Char.ofNat n = c := by
  rw [h, Char.ofNat_toNat]

/-- **A character that was written is read**, whatever follows. -/
theorem scalars_utf8EncodeChar (c : Char) (rest : List UInt8) :
    scalars (String.utf8EncodeChar c ++ rest) = some c :: scalars rest := by
  rw [String.utf8EncodeChar, Char.toNat_val]
  rcases toNat_cases c with h | ⟨hlow, hhigh⟩ | ⟨hlow, hhigh, hvalid⟩ | ⟨hlow, hhigh⟩
  · have hbyte : (UInt8.ofNat c.toNat).toNat = c.toNat := toNat_ofNat (by omega)
    have hstart : start (UInt8.ofNat c.toNat) = .complete c := by
      rw [start, hbyte, if_pos h, Char.ofNat_toNat]
    rw [if_pos (by omega), List.singleton_append, scalars, scalarsFrom, scalarsFrom.begin, hstart]
    rfl
  · have hchar : Char.ofNat (c.toNat / 64 * 64 + c.toNat % 64) = c := ofNat_of_bits (by omega)
    rw [if_neg (by omega), if_pos (by omega)]
    refine ((begins_two hlow hhigh).scalars (by omega) rest).trans ?_
    rw [if_pos rfl, hchar]
  · have hchar : Char.ofNat ((c.toNat / 4096 * 64 + c.toNat / 64 % 64) * 64 + c.toNat % 64) = c :=
      ofNat_of_bits (by omega)
    rw [if_neg (by omega), if_neg (by omega), if_pos (by omega)]
    refine ((begins_three hlow hhigh hvalid).scalars (by omega) _).trans ?_
    rw [if_neg (by decide)]
    refine (scalarsFrom_bits _ _ (by omega) rest).trans ?_
    rw [if_pos rfl, hchar]
    rfl
  · have hchar : Char.ofNat (((c.toNat / 262144 * 64 + c.toNat / 4096 % 64) * 64 +
        c.toNat / 64 % 64) * 64 + c.toNat % 64) = c := ofNat_of_bits (by omega)
    rw [if_neg (by omega), if_neg (by omega), if_neg (by omega)]
    refine ((begins_four hlow hhigh).scalars (by omega) _).trans ?_
    rw [if_neg (by decide)]
    refine (scalarsFrom_bits _ _ (by omega) _).trans ?_
    rw [if_neg (by decide)]
    refine (scalarsFrom_bits _ _ (by omega) rest).trans ?_
    rw [if_pos rfl, hchar]
    rfl

/-- **A text that was written is read again.** -/
theorem scalars_encode (text : List Char) : scalars (encode text) = text.map some := by
  induction text with
  | nil => simp [scalars, scalarsFrom]
  | cons c rest ih => rw [encode_cons, scalars_utf8EncodeChar, ih, List.map_cons]

/-- What was written is the text of its bytes. -/
theorem decode?_encode (text : List Char) : decode? (encode text) = some text := by
  rw [decode?, scalars_encode]
  induction text with
  | nil => rfl
  | cons c rest ih =>
      rw [List.map_cons, List.mapM_cons, ih]
      rfl

end Provisioning.Utf8
