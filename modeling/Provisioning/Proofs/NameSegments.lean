/-
**Names as segments of a path.**

A name that becomes a segment of a path may hold what has a meaning in a URL: slashes, marks that
begin a query or a fragment, percent signs with two digits behind them.  Each is written by its
bytes, and the percent sign as well, which makes the bytes of the name readable again.  Everything
else follows from that.  A written name is no dot segment, since the bytes of a dot segment in any
of its spellings are dots, and a name of one or two dots is not written at all.

Main definitions:

* `Url.IsMark` — the characters that end a segment;
* `Url.kept` — what a URL holds of a name.

Main results:

* `Url.Percent.decode_encode` — **the bytes of what was written are those of the name**, where
  percent signs are written by their byte;
* `Url.not_isMark_of_mem_encode` — no mark is left in what was written;
* `Url.decode_of_isSingleDot`, `Url.decode_of_isDoubleDot` — the bytes of dot segments;
* `Url.push?_of_kept` — **a URL with one more segment**, for every name of which more is kept than
  dots.
-/

import Provisioning.Url.Basic
import Provisioning.Proofs.WrittenText

set_option relaxedAutoImplicit false
set_option autoImplicit false

namespace Provisioning.Url

/-! ### Bytes -/

namespace Percent

/-- The value of a digit that was written. -/
theorem value?_hexDigit {n : Nat} (hn : n < 16) : Digits.value? (hexDigit n) = some n := by
  have hall : ∀ m : Fin 16, Digits.value? (hexDigit m) = some m.val := by decide
  exact hall ⟨n, hn⟩

/-- The number of two digits. -/
theorem number?_pair {a b : Char} {high low : Nat} (ha : Digits.value? a = some high)
    (hb : Digits.value? b = some low) (hhigh : high < 16) (hlow : low < 16) :
    Digits.number? 16 [a, b] = some (high * 16 + low) := by
  simp [Digits.number?, ha, hb, hhigh, hlow]

/-- A percent sign with two digits behind it stands for a byte. -/
theorem decode_pair {a b : Char} {high low : Nat} (ha : Digits.value? a = some high)
    (hb : Digits.value? b = some low) (hhigh : high < 16) (hlow : low < 16) (rest : List Char) :
    decode ('%' :: a :: b :: rest) = .ofNat (high * 16 + low) :: decode rest := by
  rw [decode, number?_pair ha hb hhigh hlow]

/-- Any other character stands for its own bytes. -/
theorem decode_cons_of_ne {c : Char} (hne : c ≠ '%') (rest : List Char) :
    decode (c :: rest) = String.utf8EncodeChar c ++ decode rest := by
  rw [decode]
  intro a b rest hc
  exact absurd hc hne

/-- A byte that was written is read, whatever follows. -/
theorem decode_byte (b : UInt8) (rest : List Char) :
    decode (byte b ++ rest) = b :: decode rest := by
  have hlt := b.toNat_lt
  have hhigh : b.toNat / 16 < 16 := by omega
  have hlow : b.toNat % 16 < 16 := by omega
  have hbits : b.toNat / 16 * 16 + b.toNat % 16 = b.toNat := by omega
  refine (decode_pair (value?_hexDigit hhigh) (value?_hexDigit hlow) hhigh hlow rest).trans ?_
  rw [hbits, UInt8.ofNat_toNat]

theorem decode_bytes (bytes : List UInt8) (rest : List Char) :
    decode (bytes.flatMap byte ++ rest) = bytes ++ decode rest := by
  induction bytes with
  | nil => rfl
  | cons b bytes ih => rw [List.flatMap_cons, List.append_assoc, decode_byte, ih, List.cons_append]

/-- **The bytes of what was written** are those of the text, if percent signs are not left as they
are. -/
theorem decode_encode {set : Char → Bool} (hset : set '%' = true) (text : List Char) :
    decode (encode set text) = Utf8.encode text := by
  induction text with
  | nil => simp [decode]
  | cons c rest ih =>
      rw [encode_cons, Utf8.encode_cons, char]
      by_cases hc : set c = true
      · rw [if_pos hc, decode_bytes, ih]
      · have hne : c ≠ '%' := by
          rintro rfl
          exact hc hset
        rw [if_neg hc, List.singleton_append, decode_cons_of_ne hne, ih]

/-- The characters of a byte that was written. -/
theorem mem_byte {c : Char} {b : UInt8} (hc : c ∈ byte b) : c = '%' ∨ ∃ n < 16, c = hexDigit n := by
  have hlt := b.toNat_lt
  simp only [byte, List.mem_cons, List.not_mem_nil, or_false] at hc
  rcases hc with rfl | rfl | rfl
  · exact .inl rfl
  · exact .inr ⟨b.toNat / 16, by omega, rfl⟩
  · exact .inr ⟨b.toNat % 16, by omega, rfl⟩

/-- What was written has percent signs, digits, and characters that are left as they are. -/
theorem mem_encode {set : Char → Bool} {text : List Char} {c : Char} (hc : c ∈ encode set text) :
    (c = '%' ∨ ∃ n < 16, c = hexDigit n) ∨ set c = false := by
  obtain ⟨d, _, hd⟩ := List.mem_flatMap.mp hc
  rw [char] at hd
  split at hd
  · obtain ⟨b, _, hb⟩ := List.mem_flatMap.mp hd
    exact .inl (mem_byte hb)
  · rename_i hleft
    obtain rfl := List.mem_singleton.mp hd
    exact .inr (Bool.eq_false_iff.mpr hleft)

end Percent

/-! ### Marks -/

/-- The characters that end a segment. -/
def IsMark (c : Char) : Prop := c ∈ "/?#\\".toList

instance (c : Char) : Decidable (IsMark c) := inferInstanceAs (Decidable (c ∈ _))

/-- **No mark is left** in a name that was written as a segment. -/
theorem not_isMark_of_mem_encode {text : List Char} {c : Char}
    (hc : c ∈ Percent.encode inSpecialSegment text) : ¬ IsMark c := by
  have hmarks : "/?#\\".toList.all inSpecialSegment = true := by decide
  have hdigits : ∀ n : Fin 16, ¬ IsMark (Percent.hexDigit n) := by decide
  rcases Percent.mem_encode hc with (rfl | ⟨n, hn, rfl⟩) | hleft
  · decide
  · exact hdigits ⟨n, hn⟩
  · intro hmark
    rw [List.all_eq_true.mp hmarks c hmark] at hleft
    cases hleft

/-! ### Dot segments -/

/-- An upper-case letter is moved by the distance of the cases. -/
theorem val_toLower {c : Char} (h : 'A'.val ≤ c.val ∧ c.val ≤ 'Z'.val) :
    c.toLower.val = c.val + ('a'.val - 'A'.val) := by
  have hlower : c.toLower = ⟨c.val + ('a'.val - 'A'.val), _⟩ := dif_pos h
  rw [hlower]

/-- And a lower-case letter back by it. -/
theorem val_toUpper {c : Char} (h : 'a'.val ≤ c.val ∧ c.val ≤ 'z'.val) :
    c.toUpper.val = c.val + ('A'.val - 'a'.val) := by
  have hupper : c.toUpper = ⟨c.val + ('A'.val - 'a'.val), _⟩ := dif_pos h
  rw [hupper]

/-- A character that is `d` in lower case is `d`, or `d` in upper case. -/
theorem eq_of_toLower {c d : Char} (h : c.toLower = d) : c = d ∨ c = d.toUpper := by
  subst h
  by_cases hupper : 'A'.val ≤ c.val ∧ c.val ≤ 'Z'.val
  · right
    have hlower : 'a'.val ≤ c.toLower.val ∧ c.toLower.val ≤ 'z'.val := by
      rw [val_toLower hupper]
      simp only [UInt32.le_iff_toNat_le, Char.reduceVal, UInt32.toNat_add, UInt32.reduceSub,
        UInt32.reduceToNat] at hupper ⊢
      omega
    apply Char.ext
    rw [val_toUpper hlower, val_toLower hupper, UInt32.add_assoc]
    exact (UInt32.add_zero _).symm
  · left
    have hsame : c.toLower = c := dif_neg hupper
    exact hsame.symm

/-- The spellings of a dot. -/
def IsDot (piece : List Char) : Prop :=
  piece = ['.'] ∨ piece = ['%', '2', 'e'] ∨ piece = ['%', '2', 'E']

/-- What is a dot in lower case is a dot. -/
theorem isDot_of_toLower {piece : List Char}
    (h : piece.map Char.toLower = ['.'] ∨ piece.map Char.toLower = ['%', '2', 'e']) :
    IsDot piece := by
  rcases h with h | h
  · obtain ⟨a, rfl, ha⟩ := List.map_eq_singleton_iff.mp h
    obtain rfl : a = '.' := (eq_of_toLower ha).elim id id
    exact .inl rfl
  · obtain ⟨a, rest, rfl, ha, hrest⟩ := List.map_eq_cons_iff.mp h
    obtain ⟨b, rest, rfl, hb, hrest⟩ := List.map_eq_cons_iff.mp hrest
    obtain ⟨c, rfl, hc⟩ := List.map_eq_singleton_iff.mp hrest
    obtain rfl : a = '%' := (eq_of_toLower ha).elim id id
    obtain rfl : b = '2' := (eq_of_toLower hb).elim id id
    rcases eq_of_toLower hc with rfl | rfl
    · exact .inr (.inl rfl)
    · exact .inr (.inr rfl)

/-- The byte of a dot, in any spelling. -/
theorem IsDot.decode {piece : List Char} (h : IsDot piece) (rest : List Char) :
    Percent.decode (piece ++ rest) = Utf8.encode ['.'] ++ Percent.decode rest := by
  rcases h with rfl | rfl | rfl
  · exact Percent.decode_cons_of_ne (by decide) rest
  · exact @Percent.decode_pair '2' 'e' 2 14 (by decide) (by decide) (by decide) (by decide) rest
  · exact @Percent.decode_pair '2' 'E' 2 14 (by decide) (by decide) (by decide) (by decide) rest

/-- The byte of a segment that stands for its own level. -/
theorem decode_of_isSingleDot {segment : List Char} (h : isSingleDot segment = true) :
    Percent.decode segment = Utf8.encode ['.'] := by
  have hdot : IsDot segment := by
    rw [isSingleDot, Bool.or_eq_true, beq_iff_eq, beq_iff_eq] at h
    rcases h with rfl | h
    · exact .inl rfl
    · exact isDot_of_toLower (.inr h)
  have hdecode := hdot.decode []
  rwa [List.append_nil] at hdecode

/-- The bytes of a segment that stands for the level above. -/
theorem decode_of_isDoubleDot {segment : List Char} (h : isDoubleDot segment = true) :
    Percent.decode segment = Utf8.encode ['.', '.'] := by
  have hforms : ∃ front back, segment.map Char.toLower = front ++ back ∧
      (front = ['.'] ∨ front = ['%', '2', 'e']) ∧ (back = ['.'] ∨ back = ['%', '2', 'e']) := by
    simp only [isDoubleDot, List.any_cons, List.any_nil, Bool.or_false, Bool.or_eq_true,
      beq_iff_eq] at h
    rcases h with h | h | h | h
    · exact ⟨_, _, h, .inl rfl, .inl rfl⟩
    · exact ⟨_, _, h, .inr rfl, .inl rfl⟩
    · exact ⟨_, _, h, .inl rfl, .inr rfl⟩
    · exact ⟨_, _, h, .inr rfl, .inr rfl⟩
  obtain ⟨front, back, hsegment, hfront, hback⟩ := hforms
  obtain ⟨first, second, rfl, rfl, rfl⟩ := List.map_eq_append_iff.mp hsegment
  have hdecode := (isDot_of_toLower hback).decode []
  rw [List.append_nil] at hdecode
  rw [(isDot_of_toLower hfront).decode, hdecode]
  rfl

/-! ### Segments -/

/-- A name that was written as a segment is read again. -/
theorem decode?_encode (name : List Char) :
    Utf8.decode? (Percent.decode (Percent.encode inSpecialSegment name)) = some name := by
  rw [Percent.decode_encode (by decide), Utf8.decode?_encode]

/-- What was written has the bytes of one text only. -/
theorem eq_of_decode_eq {name other : List Char}
    (h : Percent.decode (Percent.encode inSpecialSegment name) = Utf8.encode other) :
    name = other := by
  have hread := decode?_encode name
  rw [h, Utf8.decode?_encode] at hread
  exact (Option.some.inj hread).symm

/-- A name that is no dot is not written as one, -/
theorem isSingleDot_encode {name : List Char} (h : name ≠ ['.']) :
    isSingleDot (Percent.encode inSpecialSegment name) = false :=
  Bool.eq_false_iff.mpr fun hdot => h (eq_of_decode_eq (decode_of_isSingleDot hdot))

/-- and a name that is not of two dots is not written as these. -/
theorem isDoubleDot_encode {name : List Char} (h : name ≠ ['.', '.']) :
    isDoubleDot (Percent.encode inSpecialSegment name) = false :=
  Bool.eq_false_iff.mpr fun hdots => h (eq_of_decode_eq (decode_of_isDoubleDot hdots))

/-- **What a URL holds of a name**: tabs and line breaks are dropped. -/
def kept (name : List Char) : List Char := name.filter (!isDropped ·)

theorem kept_eq_self {name : List Char} (h : ∀ c ∈ name, isDropped c = false) :
    kept name = name := by
  rw [kept, List.filter_eq_self]
  intro c hc
  rw [h c hc]
  rfl

/-- A name is written by what is kept of it. -/
theorem segmentOf_eq {scheme : List Char} (hspecial : isSpecial scheme = true) (name : List Char) :
    segmentOf (isSpecial scheme) name = Percent.encode inSpecialSegment (kept name) := by
  rw [segmentOf, hspecial]
  rfl

section Push

variable {u : Url} {list : List (List Char)} {name : List Char}

/-- A name is added by what is kept of it, unless it is of dots. -/
theorem push?_resolve (hspecial : isSpecial u.scheme = true) (hpath : u.path = .segments list)
    (hroot : list ≠ [[]]) (hdots : ¬ (name = ['.'] ∨ name = ['.', '.'])) :
    u.push? name = some { u with
      path := .segments (resolve [Percent.encode inSpecialSegment (kept name)] list) } := by
  have hname : (name == ['.'] || name == ['.', '.']) = false := by
    rw [not_or] at hdots
    simp [hdots.1, hdots.2]
  have hbefore : (if list == [[]] then [] else list) = list := by simp [hroot]
  rw [push?, hpath]
  simp only [hname, hbefore, segmentOf_eq hspecial, Bool.false_eq_true, if_false]

/-- **A URL with one more segment**: what is kept of the name, as it is written, unless that is of
dots. -/
theorem push?_of_kept (hspecial : isSpecial u.scheme = true) (hpath : u.path = .segments list)
    (hroot : list ≠ [[]]) (hsingle : kept name ≠ ['.']) (hdouble : kept name ≠ ['.', '.']) :
    u.push? name =
      some { u with
        path := .segments (list ++ [Percent.encode inSpecialSegment (kept name)]) } := by
  have hdots : ¬ (name = ['.'] ∨ name = ['.', '.']) := by
    rintro (rfl | rfl)
    · exact hsingle rfl
    · exact hdouble rfl
  rw [push?_resolve hspecial hpath hroot hdots,
    resolve_singleton (isSingleDot_encode hsingle) (isDoubleDot_encode hdouble)]

end Push

end Provisioning.Url
