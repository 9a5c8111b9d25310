/-
**Runs that are shown in a table.**

The table of a finished run has the name of every cluster in it, and next to the name the one of the
cluster that it is bound to.  A backend may give a cluster whatever name it likes, and a column can
be only so wide: so there are runs that succeed and have no table.  It is the names alone that
decide.  The kinds, the words on how a wait has ended, and the headers are all short; and since each
cluster is bound to the one before, the names in the second column are in the first one too.

Main definition:

* `Run.Workspace.Fits` — every name of a workspace fits into a column.

Main results:

* `Report.Completed.checkedText_eq` — **when a finished run has a table**;
* `Run.Course.fits_iff` — what fits, told from the calls of the run.
-/

import Provisioning.Proofs.Policies
import Provisioning.Proofs.TableLayout
import Provisioning.Proofs.Workspaces
import Provisioning.Report.Outcome

set_option relaxedAutoImplicit false
set_option autoImplicit false

namespace Provisioning

open Report.Table (maxWidth)

/-- **Every name fits into a column.** -/
def Run.Workspace.Fits (w : Run.Workspace) : Prop :=
  ∀ s ∈ w.stages, s.cluster.name.utf8ByteSize ≤ maxWidth ∧
    ∀ name, s.cluster.boundTo = some name → name.utf8ByteSize ≤ maxWidth

/-! ### The table of the stages -/

namespace Report

open Run (StageReport)

/-- The words on how a wait has ended are short. -/
theorem utf8ByteSize_readinessText (r : Readiness) : (readinessText r).utf8ByteSize ≤ maxWidth := by
  cases r with
  | running attempts =>
      have hdigits : (toString attempts).length ≤ 10 := by
        have hlength := (Nat.length_toDigits_le_iff (b := 10) (k := 10) (by decide) (by decide)).mpr
          (attempts.toNat_lt.trans (by decide))
        rwa [← String.length_ofList] at hlength
      have hbytes := Table.utf8ByteSize_le (toString attempts)
      have hwords : "running (".utf8ByteSize = 9 ∧ " checks)".utf8ByteSize = 8 := by decide
      have htext : readinessText (.running attempts) =
          "running (" ++ toString attempts ++ " checks)" := rfl
      rw [htext, String.utf8ByteSize_append, String.utf8ByteSize_append, hwords.1, hwords.2,
        maxWidth]
      omega
  | timedOut t =>
      have hstate : t.lastState.name.utf8ByteSize ≤ 16 := by cases t.lastState <;> decide
      have hwords : "NOT READY (last: ".utf8ByteSize = 17 ∧ ")".utf8ByteSize = 1 := by decide
      have htext : readinessText (.timedOut t) =
          "NOT READY (last: " ++ t.lastState.name ++ ")" := rfl
      rw [htext, String.utf8ByteSize_append, String.utf8ByteSize_append, hwords.1, hwords.2,
        maxWidth]
      omega

/-- **What is too long in a row** is a name. -/
theorem exists_long_iff (s : StageReport) :
    (∃ text ∈ stageRow s, maxWidth < text.utf8ByteSize) ↔
      maxWidth < s.cluster.name.utf8ByteSize ∨
        ∃ name, s.cluster.boundTo = some name ∧ maxWidth < name.utf8ByteSize := by
  have hkind : ¬ maxWidth < s.cluster.kind.name.utf8ByteSize := by
    cases s.cluster.kind <;> decide
  have hbound : maxWidth < (s.cluster.boundTo.getD "-").utf8ByteSize ↔
      ∃ name, s.cluster.boundTo = some name ∧ maxWidth < name.utf8ByteSize := by
    cases s.cluster.boundTo with
    | none => exact iff_of_false (by decide) (by simp)
    | some name => simp
  have hreadiness := Nat.not_lt_of_le (utf8ByteSize_readinessText s.readiness)
  simp [stageRow, hkind, hbound, hreadiness]

/-- In the table of the stages nothing is too long just if every name fits. -/
theorem not_long_stageTable_iff (w : Run.Workspace) :
    (¬ ∃ row ∈ (stageTable w.stages).headers :: (stageTable w.stages).rows,
      ∃ text ∈ row, maxWidth < text.utf8ByteSize) ↔ w.Fits := by
  have hheaders : ¬ ∃ text ∈ ["STAGE", "NAME", "BOUND TO", "READINESS"],
      maxWidth < text.utf8ByteSize := by decide
  simp only [stageTable, List.exists_mem_cons_iff, hheaders, false_or, List.mem_map]
  constructor
  · intro hnot s hs
    have hrow : ¬ ∃ text ∈ stageRow s, maxWidth < text.utf8ByteSize :=
      fun hlong => hnot ⟨_, ⟨s, hs, rfl⟩, hlong⟩
    rw [exists_long_iff, not_or] at hrow
    exact ⟨Nat.le_of_not_lt hrow.1, fun name hname =>
      Nat.le_of_not_lt fun hlong => hrow.2 ⟨name, hname, hlong⟩⟩
  · rintro hfits ⟨_, ⟨s, hs, rfl⟩, hlong⟩
    obtain ⟨hname, hbound⟩ := hfits s hs
    rcases (exists_long_iff s).mp hlong with hlong | ⟨name, hboundTo, hlong⟩
    · exact Nat.not_le_of_lt hlong hname
    · exact Nat.not_le_of_lt hlong (hbound name hboundTo)

/-- **When a finished run has a table**: just if every name fits into a column. -/
theorem Completed.checkedText_eq (c : Completed) (hstages : c.workspace.stages ≠ []) :
    (c.workspace.Fits → c.checkedText = .ok c.text) ∧
      (¬ c.workspace.Fits → c.checkedText = .error .tooWide) := by
  have hfull : ∀ row ∈ (stageTable c.workspace.stages).rows,
      row.length = (stageTable c.workspace.stages).headers.length := by
    intro row hrow
    obtain ⟨s, -, rfl⟩ := List.mem_map.mp hrow
    rfl
  have hrows : (stageTable c.workspace.stages).rows ≠ [] := mt List.map_eq_nil_iff.mp hstages
  rw [checkedText, Table.checkedText_of_full hfull hrows]
  constructor
  · intro hfits
    rw [if_neg ((not_long_stageTable_iff c.workspace).mpr hfits)]
    rfl
  · intro hnot
    rw [if_pos (not_not.mp (mt (not_long_stageTable_iff c.workspace).mp hnot))]
    rfl

end Report

/-! ### The names of a run -/

namespace Run

/-- **What fits, told from the calls**: the names of the clusters that were created. -/
theorem Course.fits_iff {settings : Settings} {r : Request} {port : UInt16} {a : Allotment}
    {acts : List Workflow.Act} {w : Workspace} (h : Course settings r port a acts (.ok w)) :
    w.Fits ↔ ∀ d ∈ createdAmong (Workflow.talks acts), d.name.utf8ByteSize ≤ maxWidth := by
  have hnames := h.names.names_eq
  have hbound := h.bound_eq
  rw [← h.names.stages_eq] at hnames ⊢
  constructor
  · intro hfits d hd
    obtain ⟨s, hs, rfl⟩ := List.mem_map.mp hd
    exact (hfits s hs).1
  · intro hshort s hs
    refine ⟨hshort _ (List.mem_map.mpr ⟨s, hs, rfl⟩), fun name hname => ?_⟩
    -- The clusters that others are bound to are the first two that were created.
    have hmem : name ∈ (clusters w.stages).map (·.name) := by
      have hboundTo : some name ∈ w.stages.map (·.cluster.boundTo) :=
        List.mem_map.mpr ⟨s, hs, hname⟩
      rw [hbound] at hboundTo
      rw [hnames]
      simp only [List.mem_cons, Option.some.injEq, List.not_mem_nil, or_false, reduceCtorEq,
        false_or] at hboundTo ⊢
      exact hboundTo.imp id .inl
    obtain ⟨d, hd, rfl⟩ := List.mem_map.mp hmem
    exact hshort d hd

end Run

end Provisioning
