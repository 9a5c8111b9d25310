/-
**How a table is laid out.**

A column is as wide as the longest of its cells is in bytes, and a cell is filled up to that number
of characters.  A text has no more characters than bytes, so every cell fits, and in every line a
column begins at the same character: at the sum of the widths before it, with three blanks for each
of them.

What is removed at the end of a line are blanks that were filled in, and nothing else, as long as no
cell ends in white space itself.  So a line is what was put together if it is filled up again, and
every cell can be read off it.

Main definitions:

* `Text.IsTrimmed`, `Text.IsFilled` — texts without white space at their end, and such texts with
  blanks behind them;
* `Text.IsBasic` — texts of the basic alphabet;
* `Report.Table.offset`, `Report.Table.cut` — where a column begins, and what a line has there;
* `Report.Table.IsPlain`, `Report.Table.IsReadable` — plain tables, and those of them whose cells
  can be read back;
* `Report.Table.Layout` — **how the lines of a table are laid out**.

Main results:

* `Text.IsFilled.eq_append` — only blanks are removed at the end of a filled text;
* `Report.Table.isGreatest_width` — how wide a column is;
* `Report.Table.joined_eq` — where a cell is in its line;
* `Report.Table.checkedText_of_full` — when a table has a text;
* `Report.Table.checkedText_laidOut` — **a readable table is laid out in columns**.
-/

import Mathlib.Algebra.GroupWithZero.Nat
import Mathlib.Data.List.Basic
import Mathlib.Data.List.Induction
import Mathlib.Order.Bounds.Basic
import Provisioning.Report.Table

set_option relaxedAutoImplicit false
set_option autoImplicit false

namespace Provisioning.Text

/-! ### White space at the end -/

section Blanks

variable {text more : List Char}

/-- A text without white space at its end. -/
def IsTrimmed (text : List Char) : Prop := ∀ c, text.getLast? = some c → isSpace c = false

/-- A text without white space at its end, with blanks behind it. -/
def IsFilled (text : List Char) : Prop :=
  ∃ trimmed n, IsTrimmed trimmed ∧ text = trimmed ++ List.replicate n ' '

instance (text : List Char) : Decidable (IsTrimmed text) :=
  decidable_of_iff (text.getLast?.all (!isSpace ·) = true) (by simp [IsTrimmed, Option.all_eq_true])

theorem isTrimmed_nil : IsTrimmed [] := by
  intro c h
  cases h

theorem isFilled_blanks (n : Nat) : IsFilled (List.replicate n ' ') := ⟨[], n, isTrimmed_nil, rfl⟩

/-- **Blanks behind a text** are removed, and nothing else. -/
theorem dropFinalSpace_append_blanks (h : IsTrimmed text) (n : Nat) :
    dropFinalSpace (text ++ List.replicate n ' ') = text := by
  have hkeep : text.reverse.dropWhile isSpace = text.reverse := by
    cases hreverse : text.reverse with
    | nil => rfl
    | cons c rest =>
        have hlast : text.getLast? = some c := by
          rw [List.getLast?_eq_head?_reverse, hreverse]
          rfl
        rw [List.dropWhile_cons_of_neg (by simp [h c hlast])]
  have hblanks : (List.replicate n ' ').dropWhile isSpace = [] := by
    rw [List.dropWhile_replicate, if_pos (by decide)]
  rw [dropFinalSpace, List.reverse_append, List.reverse_replicate, List.dropWhile_append, hblanks,
    if_pos List.isEmpty_nil, hkeep, List.reverse_reverse]

/-- **Only blanks are removed** at the end of a filled text. -/
theorem IsFilled.eq_append (h : IsFilled text) :
    ∃ n, text = dropFinalSpace text ++ List.replicate n ' ' := by
  obtain ⟨trimmed, n, htrimmed, rfl⟩ := h
  exact ⟨n, by rw [dropFinalSpace_append_blanks htrimmed]⟩

/-- Filled texts can be put next to each other. -/
theorem IsFilled.append (h : IsFilled text) (hmore : IsFilled more) : IsFilled (text ++ more) := by
  obtain ⟨trimmed, n, htrimmed, rfl⟩ := h
  obtain ⟨last, m, hlast, rfl⟩ := hmore
  cases last with
  | nil =>
      refine ⟨trimmed, n + m, htrimmed, ?_⟩
      rw [List.nil_append, List.append_assoc, List.replicate_append_replicate]
  | cons c rest =>
      refine ⟨trimmed ++ List.replicate n ' ' ++ c :: rest, m, fun d hd => hlast d ?_, ?_⟩
      · rwa [List.getLast?_append_of_ne_nil _ (List.cons_ne_nil c rest)] at hd
      · simp only [List.append_assoc]

theorem mem_of_mem_dropFinalSpace {c : Char} (h : c ∈ dropFinalSpace text) : c ∈ text :=
  List.mem_reverse.mp ((List.dropWhile_suffix _).subset (List.mem_reverse.mp h))

end Blanks

/-! ### Upper case of the basic alphabet -/

/-- A text of the basic alphabet. -/
def IsBasic (text : List Char) : Prop := ∀ c ∈ text, c.toNat < 128

instance : DecidablePred IsBasic := fun text => List.decidableBAll _ text

/-- What upper case does to a character of the basic alphabet. -/
theorem toUpper_of_basic {c : Char} (h : c.toNat < 128) :
    isSpace c.toUpper = isSpace c ∧ (c.toUpper = '\n' ↔ c = '\n') := by
  have hall : ∀ n < 128, isSpace (Char.ofNat n).toUpper = isSpace (Char.ofNat n) ∧
      ((Char.ofNat n).toUpper = '\n' ↔ Char.ofNat n = '\n') := by
    decide
  have hc := hall c.toNat h
  rwa [Char.ofNat_toNat] at hc

/-- A text of the basic alphabet has a character for each of its characters in upper case. -/
theorem uppercase_of_basic {s : String} (h : IsBasic s.toList) :
    (uppercase s).toList = s.toList.map Char.toUpper := by
  rw [uppercase, String.toList_ofList, List.map_eq_flatMap]
  exact List.flatMap_congr fun c hc => upperChars_of_ascii (h c hc)

theorem IsTrimmed.uppercase {s : String} (hbasic : IsBasic s.toList)
    (h : IsTrimmed s.toList) : IsTrimmed (uppercase s).toList := by
  intro c hc
  rw [uppercase_of_basic hbasic, List.getLast?_map, Option.map_eq_some_iff] at hc
  obtain ⟨d, hd, rfl⟩ := hc
  rw [(toUpper_of_basic (hbasic d (List.mem_of_getLast? hd))).1]
  exact h d hd

theorem newline_not_mem_uppercase {s : String} (hbasic : IsBasic s.toList)
    (h : '\n' ∉ s.toList) : '\n' ∉ (uppercase s).toList := by
  rw [uppercase_of_basic hbasic, List.mem_map]
  rintro ⟨c, hc, hupper⟩
  rw [(toUpper_of_basic (hbasic c hc)).2] at hupper
  exact h (hupper ▸ hc)

end Provisioning.Text

namespace Provisioning.Report.Table

open Text (IsBasic IsFilled IsTrimmed)

/-! ### Widths -/

/-- A text has no more characters than bytes. -/
theorem length_le_utf8ByteSize (s : String) : s.length ≤ s.utf8ByteSize := by
  have hsize : ∀ chars : List Char, chars.length ≤ chars.utf8Encode.size := by
    intro chars
    induction chars with
    | nil => exact Nat.le_refl 0
    | cons c chars ih =>
        have hpos := c.utf8Size_pos
        rw [List.utf8Encode_cons, ByteArray.size_append, List.utf8Encode_singleton,
          List.size_toByteArray, String.length_utf8EncodeChar, List.length_cons]
        omega
  have hchars := hsize s.toList
  rwa [← String.toByteArray_ofList, String.ofList_toList] at hchars

/-- And no more than four bytes for each of them. -/
theorem utf8ByteSize_le (s : String) : s.utf8ByteSize ≤ 4 * s.length := by
  have hsize : ∀ chars : List Char, chars.utf8Encode.size ≤ 4 * chars.length := by
    intro chars
    induction chars with
    | nil => exact Nat.le_refl 0
    | cons c chars ih =>
        have hle := c.utf8Size_le_four
        rw [List.utf8Encode_cons, ByteArray.size_append, List.utf8Encode_singleton,
          List.size_toByteArray, String.length_utf8EncodeChar, List.length_cons]
        omega
  have hchars := hsize s.toList
  rwa [← String.toByteArray_ofList, String.ofList_toList] at hchars

/-- **A column is as wide** as the longest of its texts. -/
theorem isGreatest_width (header : String) (cells : List String) :
    IsGreatest {n | ∃ text ∈ header :: cells, text.utf8ByteSize = n} (width header cells) := by
  induction cells using List.reverseRecOn with
  | nil => simp [width, IsGreatest, upperBounds]
  | append_singleton cells cell ih =>
      have hlast : width header (cells ++ [cell]) = max (width header cells) cell.utf8ByteSize := by
        simp [width]
      obtain ⟨⟨widest, hwidest, heq⟩, hupper⟩ := ih
      rw [hlast]
      constructor
      · obtain hle | hle := Nat.le_total (width header cells) cell.utf8ByteSize
        · exact ⟨cell, by simp, (Nat.max_eq_right hle).symm⟩
        · refine ⟨widest, ?_, heq.trans (Nat.max_eq_left hle).symm⟩
          rw [← List.cons_append]
          exact List.mem_append_left _ hwidest
      · rintro n ⟨text, htext, rfl⟩
        rw [← List.cons_append, List.mem_append, List.mem_singleton] at htext
        obtain htext | rfl := htext
        · exact (hupper ⟨text, htext, rfl⟩).trans (Nat.le_max_left ..)
        · exact Nat.le_max_right ..

variable {t : Table} {row : List String} {cell : String} {widths : List Nat} {i j w : Nat}

theorem getElem?_widths (t : Table) (j : Nat) :
    t.widths[j]? = t.headers[j]?.map fun header => width header (t.column j) := by
  rw [Table.widths, List.getElem?_map, List.getElem?_zipIdx]
  cases t.headers[j]? <;> simp

/-- The rows that are shown: the headers in upper case, and the rows. -/
def shown (t : Table) : List (List String) := t.headers.map Text.uppercase :: t.rows

theorem lines_eq (t : Table) : t.lines = t.shown.map fun row => line row t.widths := rfl

/-! ### Lines -/

theorem length_padded (h : cell.length ≤ w) : (padded cell w).length = w := by
  rw [padded, List.length_append, List.length_replicate, String.length_toList]
  omega

/-- Two cells of a line stand three blanks apart. -/
theorem joined_cons_cons (cell next : String) (row : List String) (w v : Nat)
    (widths : List Nat) : joined (cell :: next :: row) (w :: v :: widths) =
      padded cell w ++ List.replicate 3 ' ' ++ joined (next :: row) (v :: widths) := by
  simp only [joined, List.zipWith_cons_cons, List.intercalate_cons_cons]
  rfl

theorem joined_singleton (h : row = [] ∨ widths = []) :
    joined (cell :: row) (w :: widths) = padded cell w := by
  obtain rfl | rfl := h <;> simp [joined]

/-- A line is put together of its cells and blanks. -/
theorem joined_induction {motive : List Char → Prop} (hblanks : ∀ n, motive (List.replicate n ' '))
    (happend : ∀ text more, motive text → motive more → motive (text ++ more))
    (row : List String) (widths : List Nat) (hcell : ∀ cell ∈ row, motive cell.toList) :
    motive (joined row widths) := by
  induction row generalizing widths with
  | nil => exact hblanks 0
  | cons cell row ih =>
      obtain ⟨hfirst, hcell⟩ := List.forall_mem_cons.mp hcell
      cases widths with
      | nil => exact hblanks 0
      | cons w widths =>
          have hpadded : motive (padded cell w) := happend _ _ hfirst (hblanks _)
          cases row with
          | nil => exact joined_singleton (.inl rfl) ▸ hpadded
          | cons next row =>
              cases widths with
              | nil => exact joined_singleton (.inr rfl) ▸ hpadded
              | cons v widths =>
                  rw [joined_cons_cons]
                  exact happend _ _ (happend _ _ hpadded (hblanks 3)) (ih _ hcell)

/-- Where a column begins: behind the columns before it, with three blanks for each of them. -/
def offset (widths : List Nat) (j : Nat) : Nat := ((widths.take j).map (· + 3)).sum

/-- **Where a cell is** in its line. -/
theorem joined_eq (hrow : row[j]? = some cell) (hw : widths[j]? = some w)
    (hfits : ∀ (k : Nat) (text : String) (v : Nat), row[k]? = some text → widths[k]? = some v →
      text.length ≤ v) :
    ∃ before behind, joined row widths = before ++ padded cell w ++ behind ∧
      before.length = offset widths j := by
  induction j generalizing row widths with
  | zero =>
      obtain ⟨row, rfl⟩ := List.head?_eq_some_iff.mp (List.head?_eq_getElem?.trans hrow)
      obtain ⟨widths, rfl⟩ := List.head?_eq_some_iff.mp (List.head?_eq_getElem?.trans hw)
      cases row with
      | nil => exact ⟨[], [], by simp [joined_singleton], rfl⟩
      | cons next row =>
          cases widths with
          | nil => exact ⟨[], [], by simp [joined_singleton], rfl⟩
          | cons v widths => exact ⟨[], _, by rw [joined_cons_cons]; simp; rfl, rfl⟩
  | succ j ih =>
      cases row with
      | nil => cases hrow
      | cons first row =>
          cases widths with
          | nil => cases hw
          | cons u widths =>
              have hfirst : first.length ≤ u := hfits 0 first u rfl rfl
              have hrest : ∀ (k : Nat) (text : String) (v : Nat), row[k]? = some text →
                  widths[k]? = some v → text.length ≤ v := fun k => hfits (k + 1)
              obtain ⟨before, behind, hjoined, hlength⟩ := ih hrow hw hrest
              cases row with
              | nil => cases hrow
              | cons next row =>
                  cases widths with
                  | nil => cases hw
                  | cons v widths =>
                      refine ⟨padded first u ++ List.replicate 3 ' ' ++ before, behind, ?_, ?_⟩
                      · rw [joined_cons_cons, hjoined]
                        simp only [List.append_assoc]
                      · simp only [List.length_append, length_padded hfirst, hlength, offset,
                          List.length_replicate, List.take_succ_cons, List.map_cons, List.sum_cons]

/-- **What a line has in a column**: the line is filled up with blanks as far as it has to be. -/
def cut (l : List Char) (start w : Nat) : List Char :=
  ((l ++ List.replicate (start + w - l.length) ' ').drop start).take w

/-- Lines that are filled up differently begin in the same way. -/
theorem take_append_blanks {l : List Char} {k n m : Nat} (hn : k ≤ l.length + n)
    (hm : k ≤ l.length + m) :
    (l ++ List.replicate n ' ').take k = (l ++ List.replicate m ' ').take k := by
  have hn : min (k - l.length) n = k - l.length := by omega
  have hm : min (k - l.length) m = k - l.length := by omega
  rw [List.take_append, List.take_append, List.take_replicate, List.take_replicate, hn, hm]

/-- **What is cut out of a line** does not depend on the blanks that were removed. -/
theorem cut_of_blanks {l before middle behind : List Char} {n : Nat}
    (h : l ++ List.replicate n ' ' = before ++ middle ++ behind) :
    cut l before.length middle.length = middle := by
  have hlength := congrArg List.length h
  simp only [List.length_append, List.length_replicate] at hlength
  have htake : (before ++ middle ++ behind).take (before.length + middle.length) =
      before ++ middle := by
    rw [← List.length_append, List.take_left]
  rw [cut, List.take_drop, take_append_blanks (m := n) (by omega) (by omega), h, htake,
    List.drop_left]

/-! ### Tables -/

/-- **Plain tables**: there are rows, each of them has a cell for each header, headers are texts of
the basic alphabet, no cell has more bytes than a column can be wide, or a newline, and no text ends
in white space. -/
structure IsPlain (t : Table) : Prop where
  rows : t.rows ≠ []
  full : ∀ row ∈ t.rows, row.length = t.headers.length
  basic : ∀ header ∈ t.headers, IsBasic header.toList
  fits : ∀ row ∈ t.rows, ∀ cell ∈ row, cell.utf8ByteSize < Nat.pow 2 16
  oneLine : ∀ row ∈ t.rows, ∀ cell ∈ row, '\n' ∉ cell.toList
  trimmed : ∀ row ∈ t.headers :: t.rows, ∀ text ∈ row, IsTrimmed text.toList

/-- **Tables whose cells can be read back**: plain tables with headers that are no longer than
cells, and have no newline either. -/
structure IsReadable (t : Table) : Prop extends t.IsPlain where
  headerFits : ∀ header ∈ t.headers, header.utf8ByteSize < Nat.pow 2 16
  headerOneLine : ∀ header ∈ t.headers, '\n' ∉ header.toList

/-- **How the lines of a table are laid out.**  There is a line for the headers and one for each
row, and a column is as wide as the longest of its texts.  What a line has in a column is its cell,
with nothing but blanks behind it. -/
structure Layout (t : Table) (lines : List (List Char)) (widths : List Nat) : Prop where
  length : lines.length = t.rows.length + 1
  oneLine : ∀ l ∈ lines, '\n' ∉ l
  trimmed : ∀ l ∈ lines, IsTrimmed l
  columns : widths.length = t.headers.length
  widest : ∀ j w, widths[j]? = some w →
    IsGreatest {n | ∃ text ∈ t.headers.getD j "" :: t.column j, text.utf8ByteSize = n} w
  cell : ∀ (i j : Nat) (row : List String) (cell : String) (l : List Char) (w : Nat),
    t.shown[i]? = some row → row[j]? = some cell → lines[i]? = some l → widths[j]? = some w →
      cut l (offset widths j) w = cell.toList ++ List.replicate (w - cell.length) ' ' ∧
        Text.dropFinalSpace (cut l (offset widths j) w) = cell.toList

/-- **The width of a column** is that of its longest text. -/
theorem isGreatest_widths (hw : t.widths[j]? = some w) :
    IsGreatest {n | ∃ text ∈ t.headers.getD j "" :: t.column j, text.utf8ByteSize = n} w := by
  rw [getElem?_widths, Option.map_eq_some_iff] at hw
  obtain ⟨header, hheader, rfl⟩ := hw
  rw [List.getD_eq_getElem?_getD, hheader]
  exact isGreatest_width header (t.column j)

section Full

variable (hfull : ∀ row ∈ t.rows, row.length = t.headers.length)
include hfull

/-- Where every row has a cell for each header, no cell is missing. -/
theorem missingCell?_of_full : t.missingCell? = none := by
  rw [missingCell?, List.findSome?_eq_none_iff]
  intro n hn
  rw [Option.map_eq_none_iff, List.find?_eq_none]
  intro row hrow
  have hlength := hfull row hrow
  have hlt := List.mem_range.mp hn
  simp only [decide_eq_true_eq]
  omega

/-- **A column is too wide** just if some header or cell is too long. -/
theorem any_widths_iff : t.widths.any (maxWidth < ·) = true ↔
    ∃ row ∈ t.headers :: t.rows, ∃ text ∈ row, maxWidth < text.utf8ByteSize := by
  rw [List.any_eq_true]
  constructor
  · rintro ⟨w, hw, hwide⟩
    obtain ⟨j, hj⟩ := List.mem_iff_getElem?.mp hw
    obtain ⟨⟨text, htext, rfl⟩, -⟩ := isGreatest_widths hj
    have hlt : j < t.headers.length := by
      obtain ⟨hlt, -⟩ := List.getElem?_eq_some_iff.mp hj
      rwa [Table.widths, List.length_map, List.length_zipIdx] at hlt
    have hget {row : List String} (hrow : row.length = t.headers.length) :
        row.getD j "" ∈ row := by
      rw [List.getD_eq_getElem?_getD, List.getElem?_eq_getElem (hrow ▸ hlt)]
      exact List.getElem_mem _
    obtain rfl | htext := List.mem_cons.mp htext
    · exact ⟨_, List.mem_cons_self, _, hget rfl, of_decide_eq_true hwide⟩
    · obtain ⟨row, hrow, rfl⟩ := List.mem_map.mp htext
      exact ⟨row, List.mem_cons_of_mem _ hrow, _, hget (hfull row hrow), of_decide_eq_true hwide⟩
  · rintro ⟨row, hrow, text, htext, hlong⟩
    obtain ⟨j, hlt, rfl⟩ := List.mem_iff_getElem.mp htext
    have hlength : row.length = t.headers.length := by
      obtain rfl | hrow := List.mem_cons.mp hrow
      · rfl
      · exact hfull row hrow
    have hj : t.widths[j]? = some (width t.headers[j] (t.column j)) := by
      rw [getElem?_widths, List.getElem?_eq_getElem (hlength ▸ hlt)]
      rfl
    refine ⟨_, List.mem_of_getElem? hj, decide_eq_true (hlong.trans_le ?_)⟩
    refine (isGreatest_width _ _).2 ⟨row[j], ?_, rfl⟩
    obtain rfl | hrow := List.mem_cons.mp hrow
    · exact List.mem_cons_self
    · refine List.mem_cons_of_mem _ (List.mem_map.mpr ⟨row, hrow, ?_⟩)
      rw [List.getD_eq_getElem?_getD, List.getElem?_eq_getElem hlt]
      rfl

/-- **The text of a table** with rows: there is none just if some header or cell is too long. -/
theorem checkedText_of_full (hrows : t.rows ≠ []) :
    t.checkedText = if ∃ row ∈ t.headers :: t.rows, ∃ text ∈ row, maxWidth < text.utf8ByteSize
      then .error .tooWide else .ok t.text := by
  have hempty : t.rows.isEmpty = false := by simpa using hrows
  rw [checkedText, missingCell?_of_full hfull, hempty, Bool.not_false, Bool.true_and]
  exact if_congr (any_widths_iff hfull) rfl rfl

end Full

/-- In a readable table nothing is too long. -/
theorem IsReadable.not_long (h : t.IsReadable) :
    ¬ ∃ row ∈ t.headers :: t.rows, ∃ text ∈ row, maxWidth < text.utf8ByteSize := by
  rintro ⟨row, hrow, text, htext, hlong⟩
  have hfits : text.utf8ByteSize < Nat.pow 2 16 := by
    obtain rfl | hrow := List.mem_cons.mp hrow
    · exact h.headerFits text htext
    · exact h.fits row hrow text htext
  exact Nat.not_le_of_lt hlong (Nat.le_of_lt_succ hfits)

/-- What is shown has no newline and no white space at its end. -/
theorem IsReadable.shown (h : t.IsReadable) (hrow : row ∈ t.shown) :
    ∀ text ∈ row, '\n' ∉ text.toList ∧ IsTrimmed text.toList := by
  intro text htext
  obtain rfl | hrow := List.mem_cons.mp hrow
  · obtain ⟨header, hheader, rfl⟩ := List.mem_map.mp htext
    have hbasic := h.basic header hheader
    exact ⟨Text.newline_not_mem_uppercase hbasic (h.headerOneLine header hheader),
      IsTrimmed.uppercase hbasic (h.trimmed _ List.mem_cons_self header hheader)⟩
  · exact ⟨h.oneLine row hrow text htext,
      h.trimmed row (List.mem_cons_of_mem _ hrow) text htext⟩

/-- **What is shown fits** its column. -/
theorem IsPlain.length_le (h : t.IsPlain) (hrow : row ∈ t.shown) (hcell : row[j]? = some cell)
    (hw : t.widths[j]? = some w) : cell.length ≤ w := by
  have hupper := (isGreatest_widths hw).2
  obtain rfl | hrow := List.mem_cons.mp hrow
  · rw [List.getElem?_map, Option.map_eq_some_iff] at hcell
    obtain ⟨header, hheader, rfl⟩ := hcell
    have hlength : (Text.uppercase header).length = header.length := by
      rw [← String.length_toList, ← String.length_toList,
        Text.uppercase_of_basic (h.basic header (List.mem_of_getElem? hheader)), List.length_map]
    rw [hlength]
    refine (length_le_utf8ByteSize header).trans (hupper ⟨header, ?_, rfl⟩)
    rw [List.getD_eq_getElem?_getD, hheader]
    exact List.mem_cons_self
  · refine (length_le_utf8ByteSize cell).trans (hupper ⟨cell, List.mem_cons_of_mem _ ?_, rfl⟩)
    refine List.mem_map.mpr ⟨row, hrow, ?_⟩
    rw [List.getD_eq_getElem?_getD, hcell]
    rfl

/-- **A cell of a line.** -/
theorem IsReadable.cut_line (h : t.IsReadable) (hrow : row ∈ t.shown) (hcell : row[j]? = some cell)
    (hw : t.widths[j]? = some w) : cut (line row t.widths) (offset t.widths j) w =
      cell.toList ++ List.replicate (w - cell.length) ' ' := by
  obtain ⟨before, behind, hjoined, hbefore⟩ :=
    joined_eq hcell hw fun k text v => h.length_le hrow
  obtain ⟨n, hn⟩ := (joined_induction Text.isFilled_blanks (fun _ _ => IsFilled.append) row t.widths
    fun text htext => ⟨_, 0, (h.shown hrow text htext).2, (List.append_nil _).symm⟩).eq_append
  have hcut := cut_of_blanks (hn.symm.trans hjoined)
  rwa [length_padded (h.length_le hrow hcell hw), hbefore] at hcut

/-- No line has a newline. -/
theorem IsReadable.newline_not_mem_line (h : t.IsReadable) (hrow : row ∈ t.shown) :
    '\n' ∉ line row t.widths := by
  have hjoined : '\n' ∉ joined row t.widths := by
    refine joined_induction (motive := fun l => '\n' ∉ l) (fun n hmem => ?_)
      (fun text more htext hmore hmem => ?_) row t.widths
      fun text htext => (h.shown hrow text htext).1
    · cases (List.mem_replicate.mp hmem).2
    · exact (List.mem_append.mp hmem).elim htext hmore
  exact fun hmem => hjoined (Text.mem_of_mem_dropFinalSpace hmem)

/-- **The lines of a readable table** are laid out in columns. -/
theorem IsReadable.layout (h : t.IsReadable) : t.Layout t.lines t.widths where
  length := by rw [lines_eq, List.length_map]; rfl
  oneLine := by
    rw [lines_eq, List.forall_mem_map]
    exact fun row hrow => h.newline_not_mem_line hrow
  trimmed := by
    rw [lines_eq, List.forall_mem_map]
    exact fun row _ => Text.not_isSpace_getLast_dropFinalSpace _
  columns := by rw [Table.widths, List.length_map, List.length_zipIdx]
  widest := fun j w => isGreatest_widths
  cell := by
    intro i j row cell l w hrow hcell hl hw
    have hmem := List.mem_of_getElem? hrow
    rw [lines_eq, List.getElem?_map, hrow] at hl
    obtain rfl := Option.some.inj hl
    rw [h.cut_line hmem hcell hw]
    exact ⟨rfl, Text.dropFinalSpace_append_blanks
      (h.shown hmem cell (List.mem_of_getElem? hcell)).2 _⟩

/-- **A readable table is laid out in columns.**  It has a text, and that consists of the
lines, each of them with a newline behind it. -/
theorem checkedText_laidOut (h : t.IsReadable) : ∃ lines widths,
    t.checkedText = .ok (String.ofList (lines.flatMap fun l => l ++ ['\n'])) ∧
      t.Layout lines widths := by
  refine ⟨t.lines, t.widths, ?_, h.layout⟩
  rw [checkedText_of_full h.full h.rows, if_neg h.not_long, text, if_neg (by simpa using h.rows)]

theorem checkedText_laidOut_of_mixed :
    (Table.mk ["cluster", "state"]
      [["zookeeper1", "running"], ["bücher", ""], ["", "→ ok"], ["", ""]]).IsReadable ∧
    ∃ lines widths,
      (Table.mk ["cluster", "state"]
        [["zookeeper1", "running"], ["bücher", ""], ["", "→ ok"], ["", ""]]).checkedText =
          .ok (String.ofList (lines.flatMap fun l => l ++ ['\n'])) ∧
      (Table.mk ["cluster", "state"]
        [["zookeeper1", "running"], ["bücher", ""], ["", "→ ok"], ["", ""]]).Layout lines widths :=
  have h := ⟨⟨by decide, by decide, by decide, by decide, by decide, by decide⟩, by decide,
    by decide⟩
  ⟨h, checkedText_laidOut h⟩

/-- **A header that is too long**: then there is no text. -/
theorem IsPlain.checkedText_of_long_header (h : t.IsPlain) {header : String}
    (hheader : header ∈ t.headers) (hlong : maxWidth < header.utf8ByteSize) :
    t.checkedText = .error .tooWide := by
  rw [checkedText_of_full h.full h.rows,
    if_pos ⟨t.headers, List.mem_cons_self, header, hheader, hlong⟩]

/-- A table of one header and one cell. -/
theorem isPlain_singleton {header cell : String} (hbasic : IsBasic header.toList)
    (hheader : IsTrimmed header.toList) (hfits : cell.utf8ByteSize < Nat.pow 2 16)
    (hline : '\n' ∉ cell.toList) (hcell : IsTrimmed cell.toList) :
    (Table.mk [header] [[cell]]).IsPlain where
  rows := List.cons_ne_nil _ _
  full := by simp
  basic := by simpa using hbasic
  fits := by simpa using hfits
  oneLine := by simpa using hline
  trimmed := by simpa using ⟨hheader, hcell⟩

/-- **Not every plain table is readable**: a header may be too long, or have lines of its own. -/
theorem exists_isPlain_not_laidOut :
    (∃ t : Table, t.headers ≠ [] ∧ "" ∉ t.headers ∧ t.IsPlain ∧
      t.checkedText = .error .tooWide) ∧
    ∃ t : Table, t.headers ≠ [] ∧ "" ∉ t.headers ∧ t.IsPlain ∧ t.rows.length = 1 ∧
      t.checkedText = .ok "A\nB\nx\n" := by
  have hlong (n : Nat) (hn : maxWidth < n) :
      ∃ t : Table, t.headers ≠ [] ∧ "" ∉ t.headers ∧ t.IsPlain ∧
        t.checkedText = .error .tooWide := by
    have hletter : ∀ c ∈ (String.ofList (List.replicate n 'a')).toList, c = 'a' := by
      rw [String.toList_ofList]
      exact fun c hc => (List.mem_replicate.mp hc).2
    have hlength : (String.ofList (List.replicate n 'a')).length = n := by
      rw [String.length_ofList, List.length_replicate]
    have hplain : (Table.mk [String.ofList (List.replicate n 'a')] [["x"]]).IsPlain :=
      isPlain_singleton (fun c hc => by rw [hletter c hc]; decide)
        (fun c hc => by rw [hletter c (List.mem_of_getLast? hc)]; decide)
        (by decide) (by decide) (by decide)
    refine ⟨_, List.cons_ne_nil _ _, ?_, hplain, hplain.checkedText_of_long_header
      List.mem_cons_self (hn.trans_le (hlength.symm.le.trans (length_le_utf8ByteSize _)))⟩
    rw [List.mem_singleton]
    intro hempty
    rw [← hempty] at hlength
    cases hlength
    cases hn
  exact ⟨hlong (maxWidth + 1) (Nat.lt_succ_self _), Table.mk ["a\nb"] [["x"]], by decide, by decide,
    isPlain_singleton (by decide) (by decide) (by decide) (by decide) (by decide), rfl, by rfl⟩

end Provisioning.Report.Table
