/-
**Tables of text.**

A table has a line of headers in upper case and a line for each row.  A column is as wide as the
longest of its cells, its header included, is in bytes; a cell is filled up with blanks to that
number of characters, three more blanks separate the columns, and no line ends in white space.  A
table without rows is one sentence.

Main definitions:

* `Report.Table` — headers and rows;
* `Report.Table.widths`, `Report.Table.lines`, `Report.Table.text` — **the text**;
* `Report.Table.checkedText` — the text, or why there is none.
-/

import Provisioning.Text.Blank
import Provisioning.Text.Case

set_option autoImplicit false
set_option relaxedAutoImplicit false

namespace Provisioning.Report

/-- Headers, and rows with a cell for each header. -/
structure Table where
  headers : List String
  rows : List (List String)
  deriving DecidableEq, Repr

namespace Table

/-- The width of a column: the greatest length in bytes of its header and its cells. -/
def width (header : String) (cells : List String) : Nat :=
  cells.foldl (fun w cell => max w cell.utf8ByteSize) header.utf8ByteSize

/-- The cells of a column. -/
def column (t : Table) (n : Nat) : List String := t.rows.map fun row => row.getD n ""

/-- The widths of the columns. -/
def widths (t : Table) : List Nat :=
  t.headers.zipIdx.map fun (header, n) => width header (t.column n)

/-- A cell filled up with blanks. -/
def padded (cell : String) (w : Nat) : List Char :=
  cell.toList ++ List.replicate (w - cell.length) ' '

/-- The cells of a line next to each other.  Cells beyond the last column are left out. -/
def joined (row : List String) (widths : List Nat) : List Char :=
  [' ', ' ', ' '].intercalate (List.zipWith padded row widths)

/-- A line without the white space at its end. -/
def line (row : List String) (widths : List Nat) : List Char :=
  Text.dropFinalSpace (joined row widths)

/-- The lines of a table, the headers first. -/
def lines (t : Table) : List (List Char) :=
  (t.headers.map Text.uppercase :: t.rows).map fun row => line row t.widths

/-- **The text** of a table. -/
def text (t : Table) : String :=
  if t.rows.isEmpty then "No resources found.\n"
  else String.ofList (t.lines.flatMap fun l => l ++ ['\n'])

/-- Why there is no table. -/
inductive Fault where
  /-- A row is too short: it has so many cells, and there is none in this column. -/
  | missingCell (length column : Nat)
  /-- A column is wider than columns can be. -/
  | tooWide
  deriving DecidableEq, Repr

/-- The words for a fault. -/
def Fault.message : Fault → String
  | .missingCell length column =>
    s!"index out of bounds: the len is {length} but the index is {column}"
  | .tooWide => "Formatting argument out of range"

/-- The first cell that is missing, looking through the columns from the left and through each from
the top. -/
def missingCell? (t : Table) : Option Fault :=
  (List.range t.headers.length).findSome? fun n =>
    (t.rows.find? fun row => row.length ≤ n).map fun row => .missingCell row.length n

/-- The greatest width of a column. -/
def maxWidth : Nat := 65535

/-- The text of a table whose rows may be too short and whose cells may be too long. -/
def checkedText (t : Table) : Except Fault String :=
  match t.missingCell? with
  | some missing => .error missing
  | none =>
    if !t.rows.isEmpty && t.widths.any (maxWidth < ·) then .error .tooWide else .ok t.text

/-- A table without rows lacks no cell. -/
theorem checkedText_nil (headers : List String) :
    (Table.mk headers []).checkedText = .ok "No resources found.\n" := by
  have : (Table.mk headers []).missingCell? = none := by simp [missingCell?]
  simp [checkedText, this, text]

end Table

end Provisioning.Report
