/-
**The ledger of an allocator.**

A run asks its allocator for eight things in a fixed order.  The allocator itself fixes no order
and no number, and whoever uses it in another way, for more clusters or for none, relies on the same
promises.  They are about a whole use: any requests one after the other, as long as all of them are
answered.

This module writes such a use down.  A line of the **ledger** has a demand, what was granted, and
the draws that were used up for it.  What a line says depends on the lines above it only, and not
on the allocator, so the ledger can be read without knowing how the allocator remembers what it has
handed out.  A use of any length leads from a ledger to a longer one, one line for each demand.

Main definitions:

* `FirstName`, `FirstPort` — **the first candidate that is free**, and draws that end with it;
* `Allocator.Demand`, `Allocator.Grant`, `Allocator.serveAll?` — a use of an allocator;
* `Allocator.Entry`, `Allocator.Entry.Follows` — a line, and what it says below others;
* `Allocator.Entered` — **an allocator and its ledger**.

Main results:

* `scanName?_eq_some_iff` — what a scan for a name finds, in terms of the characters drawn;
* `Allocator.Entered.serve?`, `Allocator.Entered.serveAll?` — a line more, and any number of them;
* `Allocator.ledger_of_serveAll?` — **what holds of every use**.
-/

import Mathlib.Data.List.Nodup
import Mathlib.Data.List.Perm.Subperm
import Provisioning.Proofs.Allocator
import Provisioning.Proofs.MoreDraws
import Provisioning.Proofs.Conversation

set_option relaxedAutoImplicit false
set_option autoImplicit false

namespace Provisioning

/-! ### The first candidate that is free -/

/-- **The first port that is free**: the draw that gives it is the last one used, and those before
it give taken ports or none. -/
def FirstPort (taken : List UInt16) (used : List UInt64) (port : UInt16) : Prop :=
  ∃ refused last, used = refused ++ [last] ∧ portOf? last = some port ∧ port ∉ taken ∧
    ∀ draw ∈ refused, ∀ other, portOf? draw = some other → other ∈ taken

/-- **The first name that is free**: the characters that the draws give spell names of ten
characters, one behind the other, of which all are taken but the last one.  The last draw gives the
last character. -/
structure FirstName (taken : List String) (used : List UInt64) (name : String) : Prop where
  spelled : ∃ refused : List String,
    (∀ other ∈ refused, other.length = ServiceName.generatedLength ∧ other ∈ taken) ∧
      used.filterMap nameChar? = refused.flatMap String.toList ++ name.toList
  length_eq : name.length = ServiceName.generatedLength
  free : name ∉ taken
  last_given : (used.getLast?.bind nameChar?).isSome

/-- The first name that is free is made of ten allowed characters. -/
theorem FirstName.generated {taken : List String} {used : List UInt64} {name : String}
    (h : FirstName taken used name) : ServiceName.Generated name where
  length_eq := h.length_eq
  allowed c hc := by
    obtain ⟨refused, _, hspelled⟩ := h.spelled
    have hdrawn : c ∈ used.filterMap nameChar? := by
      rw [hspelled]
      exact List.mem_append_right _ hc
    obtain ⟨draw, _, hdraw⟩ := List.mem_filterMap.mp hdrawn
    exact isAllowed_of_nameChar? hdraw

/-- A name that is taken, or none at all, is not the first one that is free. -/
theorem FirstName.ne {taken : List String} {used : List UInt64} {name wish : String}
    (h : FirstName taken used name) (htaken : wish = "" ∨ wish ∈ taken) : name ≠ wish := by
  rintro rfl
  rcases htaken with hempty | htaken
  · exact h.generated.accepted.ne_empty hempty
  · exact h.free htaken

section Scans

variable {draws rest used : List UInt64} {draw : UInt64} {c : Char} {built : List Char}
  {taken : List String} {name : String} {free : String → Bool}

/-- The same in the middle of a candidate of which `built` is spelled, the last character first. -/
structure Completes (free : String → Bool) (built : List Char) (used : List UInt64)
    (name : String) : Prop where
  spelled : ∃ refused : List String,
    (∀ other ∈ refused, other.length = ServiceName.generatedLength ∧ free other = false) ∧
      built.reverse ++ used.filterMap nameChar? = refused.flatMap String.toList ++ name.toList
  length_eq : name.length = ServiceName.generatedLength
  free : free name = true
  last_given : (used.getLast?.bind nameChar?).isSome

/-- Draws that end with a character are not none. -/
theorem Completes.ne_nil (h : Completes free built used name) : used ≠ [] := by
  rintro rfl
  cases h.last_given

/-- Any other draw in front leaves the last one where it is. -/
theorem last_given_cons_iff (hne : used ≠ []) :
    ((draw :: used).getLast?.bind nameChar?).isSome ↔ (used.getLast?.bind nameChar?).isSome := by
  cases used with
  | nil => exact absurd rfl hne
  | cons next used => rw [List.getLast?_cons_cons]

/-- A draw that gives no character. -/
theorem completes_cons_of_none (hdraw : nameChar? draw = none) :
    Completes free built (draw :: used) name ↔ Completes free built used name := by
  have hsame : (draw :: used).filterMap nameChar? = used.filterMap nameChar? :=
    List.filterMap_cons_none hdraw
  constructor
  · intro h
    have hne : used ≠ [] := by
      rintro rfl
      have hlast := h.last_given
      rw [List.getLast?_singleton, Option.bind_some, hdraw] at hlast
      cases hlast
    exact ⟨hsame ▸ h.spelled, h.length_eq, h.free, (last_given_cons_iff hne).mp h.last_given⟩
  · intro h
    exact ⟨hsame.symm ▸ h.spelled, h.length_eq, h.free,
      (last_given_cons_iff h.ne_nil).mpr h.last_given⟩

/-- A character more of what the draws spell. -/
theorem spelled_cons_of_some (hdraw : nameChar? draw = some c) :
    built.reverse ++ (draw :: used).filterMap nameChar? =
      (c :: built).reverse ++ used.filterMap nameChar? := by
  rw [List.filterMap_cons_some hdraw, List.reverse_cons, List.append_assoc, List.singleton_append]

/-- A character more, which the candidate goes on with. -/
theorem completes_cons_of_some (hdraw : nameChar? draw = some c)
    (hlt : built.length + 1 < ServiceName.generatedLength) :
    Completes free built (draw :: used) name ↔ Completes free (c :: built) used name := by
  have hsame := @spelled_cons_of_some used draw c built hdraw
  constructor
  · intro h
    have hne : used ≠ [] := by
      -- One character more is too little for a name.
      rintro rfl
      obtain ⟨refused, _, hspelled⟩ := h.spelled
      have hlength := congrArg List.length hspelled
      rw [hsame] at hlength
      simp only [List.filterMap_nil, List.append_nil, List.length_reverse, List.length_cons,
        List.length_append, String.length_toList, h.length_eq] at hlength
      omega
    exact ⟨hsame ▸ h.spelled, h.length_eq, h.free, (last_given_cons_iff hne).mp h.last_given⟩
  · intro h
    exact ⟨hsame.symm ▸ h.spelled, h.length_eq, h.free,
      (last_given_cons_iff h.ne_nil).mpr h.last_given⟩

/-- The character that completes a candidate: it is the one, or it is taken. -/
theorem completes_cons_of_full (hdraw : nameChar? draw = some c)
    (hfull : built.length + 1 = ServiceName.generatedLength) :
    Completes free built (draw :: used) name ↔
      (free (String.ofList (c :: built).reverse) = true ∧
          name = String.ofList (c :: built).reverse ∧ used = []) ∨
        free (String.ofList (c :: built).reverse) = false ∧ Completes free [] used name := by
  have hsame := @spelled_cons_of_some used draw c built hdraw
  have hlength : (c :: built).reverse.length = ServiceName.generatedLength := by
    rw [List.length_reverse, List.length_cons, hfull]
  constructor
  · intro h
    obtain ⟨refused, hrefused, hspelled⟩ := h.spelled
    rw [hsame] at hspelled
    cases refused with
    | nil =>
        rw [List.flatMap_nil, List.nil_append, ← List.append_nil name.toList] at hspelled
        obtain ⟨hname, hrest⟩ := List.append_inj hspelled
          (by rw [hlength, String.length_toList, h.length_eq])
        have hused : used = [] := by
          by_contra hne
          have hlast := (last_given_cons_iff hne).mp h.last_given
          rw [List.getLast?_eq_some_getLast hne, Option.bind_some,
            List.filterMap_eq_nil_iff.mp hrest _ (List.getLast_mem hne)] at hlast
          cases hlast
        have hcandidate : name = String.ofList (c :: built).reverse := by
          rw [hname, String.ofList_toList]
        exact .inl ⟨hcandidate ▸ h.free, hcandidate, hused⟩
    | cons other refused =>
        obtain ⟨⟨hother, htaken⟩, hrefused⟩ := List.forall_mem_cons.mp hrefused
        rw [List.flatMap_cons, List.append_assoc] at hspelled
        obtain ⟨hname, hrest⟩ := List.append_inj hspelled
          (by rw [hlength, String.length_toList, hother])
        have hne : used ≠ [] := by
          rintro rfl
          have hnone := congrArg List.length hrest
          simp only [List.filterMap_nil, List.length_nil, List.length_append,
            String.length_toList, h.length_eq] at hnone
          omega
        rw [hname, String.ofList_toList]
        exact .inr ⟨htaken, ⟨refused, hrefused, hrest⟩, h.length_eq, h.free,
          (last_given_cons_iff hne).mp h.last_given⟩
  · rintro (⟨hfree, rfl, rfl⟩ | ⟨htaken, h⟩)
    · refine ⟨⟨[], nofun, ?_⟩, ?_, hfree, ?_⟩
      · rw [hsame]
        simp
      · rw [String.length_ofList, hlength]
      · rw [List.getLast?_singleton, Option.bind_some, hdraw]
        rfl
    · obtain ⟨refused, hrefused, hspelled⟩ := h.spelled
      rw [List.reverse_nil, List.nil_append] at hspelled
      refine ⟨⟨String.ofList (c :: built).reverse :: refused, ?_, ?_⟩, h.length_eq, h.free,
        (last_given_cons_iff h.ne_nil).mpr h.last_given⟩
      · refine List.forall_mem_cons.mpr ⟨⟨?_, htaken⟩, hrefused⟩
        rw [String.length_ofList, hlength]
      · rw [hsame, hspelled, List.flatMap_cons, String.toList_ofList, List.append_assoc]

/-- Some draws that are not none begin with the first one. -/
theorem exists_used_cons_iff {p : List UInt64 → Prop} (hne : ∀ used, p used → used ≠ []) :
    (∃ used, draw :: draws = used ++ rest ∧ p used) ↔
      ∃ used, draws = used ++ rest ∧ p (draw :: used) := by
  constructor
  · rintro ⟨used, hdraws, hused⟩
    obtain ⟨first, used, rfl⟩ := List.exists_cons_of_ne_nil (hne used hused)
    obtain ⟨rfl, hrest⟩ := List.cons.inj hdraws
    exact ⟨used, hrest, hused⟩
  · rintro ⟨used, rfl, hused⟩
    exact ⟨draw :: used, rfl, hused⟩

/-- **What a scan finds** in the middle of a candidate. -/
theorem scanName?_eq_some_iff_completes (hlt : built.length < ServiceName.generatedLength) :
    scanName? free built draws = some (name, rest) ↔
      ∃ used, draws = used ++ rest ∧ Completes free built used name := by
  -- Along the scan `built` stays shorter than a name; it starts anew behind a taken candidate.
  induction draws generalizing built with
  | nil =>
      constructor
      · intro h
        cases h
      · rintro ⟨used, hdraws, hused⟩
        exact absurd (List.append_eq_nil_iff.mp hdraws.symm).1 hused.ne_nil
  | cons draw draws ih =>
      rw [exists_used_cons_iff fun _ h => Completes.ne_nil h]
      cases hdraw : nameChar? draw with
      | none =>
          rw [scanName?_cons_of_none hdraw, ih hlt]
          simp only [completes_cons_of_none hdraw]
      | some c =>
          rw [scanName?_cons_of_some hdraw, ← @List.length_cons _ c]
          by_cases hnext : (c :: built).length < ServiceName.generatedLength
          · rw [if_pos hnext, ih hnext]
            simp only [completes_cons_of_some hdraw hnext]
          · rw [if_neg hnext]
            have hfull : built.length + 1 = ServiceName.generatedLength :=
              Nat.le_antisymm hlt (Nat.not_lt.mp hnext)
            simp only [completes_cons_of_full hdraw hfull]
            cases hfree : free (String.ofList (c :: built).reverse) with
            | true =>
                simp only [if_true, Bool.true_eq_false, false_and, or_false, true_and]
                constructor
                · intro h
                  obtain ⟨rfl, rfl⟩ := Prod.mk.inj (Option.some.inj h)
                  exact ⟨[], rfl, rfl, rfl⟩
                · rintro ⟨used, rfl, rfl, rfl⟩
                  rfl
            | false =>
                simp only [Bool.false_eq_true, if_false, false_and, false_or, true_and]
                exact ih (by decide : ([] : List Char).length < _)

/-- **What a scan for a name finds**: the first one that is free, and the draws behind it. -/
theorem scanName?_eq_some_iff (hfree : ∀ other, free other = true ↔ other ∉ taken) :
    scanName? free [] draws = some (name, rest) ↔
      ∃ used, draws = used ++ rest ∧ FirstName taken used name := by
  have htaken (other : String) : free other = false ↔ other ∈ taken := by
    rw [← Bool.not_eq_true, hfree, not_not]
  have hsame (used : List UInt64) : Completes free [] used name ↔ FirstName taken used name := by
    constructor
    · rintro ⟨hspelled, hlength, hname, hlast⟩
      exact ⟨by simpa [htaken] using hspelled, hlength, (hfree name).mp hname, hlast⟩
    · rintro ⟨hspelled, hlength, hname, hlast⟩
      exact ⟨by simpa [htaken] using hspelled, hlength, (hfree name).mpr hname, hlast⟩
  simp only [scanName?_eq_some_iff_completes (by decide : ([] : List Char).length < _), hsame]

/-- **What a scan for a port finds**: the first one that is free, and the draws behind it. -/
theorem scanPort?_eq_some_iff_first {port : UInt16} {taken : List UInt16} {free : UInt16 → Bool}
    (hfree : ∀ other, free other = true ↔ other ∉ taken) :
    scanPort? free draws = some (port, rest) ↔
      ∃ used, draws = used ++ rest ∧ FirstPort taken used port := by
  have htaken (other : UInt16) : free other = false ↔ other ∈ taken := by
    rw [← Bool.not_eq_true, hfree, not_not]
  rw [scanPort?_eq_some_iff]
  constructor
  · rintro ⟨refused, last, rfl, hport, hlast, hrefused⟩
    refine ⟨refused ++ [last], (List.append_assoc refused [last] rest).symm, refused, last, rfl,
      hport, (hfree port).mp hlast, ?_⟩
    simpa only [htaken] using hrefused
  · rintro ⟨used, rfl, refused, last, rfl, hport, hlast, hrefused⟩
    refine ⟨refused, last, List.append_assoc refused [last] rest, hport, (hfree port).mpr hlast, ?_⟩
    simpa only [htaken] using hrefused

end Scans

/-! ### Uses of an allocator -/

namespace Allocator

/-- What an allocator is asked for. -/
inductive Demand where
  | name
  | claim (wish : String)
  | port
  deriving DecidableEq

/-- What it hands out. -/
inductive Grant where
  | name (name : String)
  | port (port : UInt16)
  deriving DecidableEq

/-- The name that is handed out, if it is one. -/
def Grant.name? : Grant → Option String
  | .name given => some given
  | .port _ => none

/-- The port that is handed out, if it is one. -/
def Grant.port? : Grant → Option UInt16
  | .name _ => none
  | .port given => some given

/-- One demand. -/
def serve? : Demand → StateT Allocator Option Grant
  | .name => do return .name (← Allocator.name?)
  | .claim wish => do return .name (← Allocator.claim? wish)
  | .port => do return .port (← Allocator.port?)

/-- **A use of an allocator**: any demands, one after the other. -/
def serveAll? (demands : List Demand) : StateT Allocator Option (List Grant) :=
  demands.mapM serve?

/-- A line of the ledger: a demand, what was granted, and the draws that were used up. -/
structure Entry where
  demand : Demand
  grant : Grant
  used : List UInt64

/-- The names in a ledger. -/
def namesIn (ledger : List Entry) : List String := ledger.filterMap fun entry => entry.grant.name?

/-- The ports in a ledger. -/
def portsIn (ledger : List Entry) : List UInt16 := ledger.filterMap fun entry => entry.grant.port?

/-- A fresh name, below the lines `before`. -/
def FreshName (before : List Entry) (grant : Grant) (used : List UInt64) : Prop :=
  ∃ name, grant = .name name ∧ ServiceName.Generated name ∧ FirstName (namesIn before) used name

/-- **What a line says** below the lines `before`. -/
def Entry.Follows (clientPort : UInt16) (before : List Entry) : Entry → Prop
  | ⟨.name, grant, used⟩ => FreshName before grant used
  | ⟨.claim wish, grant, used⟩ =>
    (grant = .name wish ↔ wish ≠ "" ∧ wish ∉ namesIn before) ∧
      (grant = .name wish → used = []) ∧ (grant ≠ .name wish → FreshName before grant used)
  | ⟨.port, grant, used⟩ =>
    ∃ port, grant = .port port ∧ FirstPort (clientPort :: portsIn before) used port

/-- **An allocator and its ledger**, of which the draws are those of the client. -/
structure Entered (clientPort : UInt16) (draws : List UInt64) (ledger : List Entry)
    (a : Allocator) : Prop where
  clientPort_eq : a.clientPort = clientPort
  names_eq : a.names = (namesIn ledger).reverse
  ports_eq : a.ports = (portsIn ledger).reverse
  draws_eq : draws = ledger.flatMap Entry.used ++ a.draws
  follows : Workflow.Throughout (Entry.Follows clientPort) ledger
  sound : a.Sound

section Uses

variable {clientPort port : UInt16} {draws used : List UInt64} {ledger : List Entry}
  {a a' : Allocator} {name wish : String} {grant : Grant} {grants : List Grant}

/-- A fresh name is the first one that is free. -/
theorem Entered.first_of_name? (hentered : Entered clientPort draws ledger a)
    (h : a.name? = some (name, a')) :
    ∃ used, a.draws = used ++ a'.draws ∧ FirstName (namesIn ledger) used name := by
  obtain ⟨⟨found, rest⟩, hscan, hfound⟩ := Option.map_eq_some_iff.mp h
  obtain ⟨rfl, rfl⟩ := Prod.mk.inj hfound
  exact (scanName?_eq_some_iff (by simp [hentered.names_eq])).mp hscan

/-- A fresh port is the first one that is free. -/
theorem Entered.first_of_port? (hentered : Entered clientPort draws ledger a)
    (h : a.port? = some (port, a')) :
    ∃ used, a.draws = used ++ a'.draws ∧ FirstPort (clientPort :: portsIn ledger) used port := by
  obtain ⟨⟨found, rest⟩, hscan, hfound⟩ := Option.map_eq_some_iff.mp h
  obtain ⟨rfl, rfl⟩ := Prod.mk.inj hfound
  exact (scanPort?_eq_some_iff_first (by simp [hentered.clientPort_eq, hentered.ports_eq])).mp hscan

/-- All along a ledger, and in a line more. -/
theorem follows_concat {entry : Entry}
    (hledger : Workflow.Throughout (Entry.Follows clientPort) ledger)
    (hentry : Entry.Follows clientPort ledger entry) :
    Workflow.Throughout (Entry.Follows clientPort) (ledger ++ [entry]) := by
  refine Workflow.throughout_append_iff.mpr ⟨hledger, Workflow.throughout_cons_iff.mpr ⟨?_, ?_⟩⟩
  · rw [List.append_nil]
    exact hentry
  · exact Workflow.throughout_nil

/-- A line with a name. -/
theorem Entered.concat_name (hentered : Entered clientPort draws ledger a) {demand : Demand}
    {rest : List UInt64} (hdraws : a.draws = used ++ rest) (hne : name ≠ "") (hnot : name ∉ a.names)
    (hfollows : Entry.Follows clientPort ledger ⟨demand, .name name, used⟩) :
    Entered clientPort draws (ledger ++ [⟨demand, .name name, used⟩])
      { a with names := name :: a.names, draws := rest } where
  clientPort_eq := hentered.clientPort_eq
  names_eq := by simp [namesIn, Grant.name?, hentered.names_eq]
  ports_eq := by simp [portsIn, Grant.port?, hentered.ports_eq]
  draws_eq := by simp [hentered.draws_eq, hdraws]
  follows := follows_concat hentered.follows hfollows
  sound := hentered.sound.cons_name hne hnot rest

/-- **A line more.** -/
theorem Entered.serve? (hentered : Entered clientPort draws ledger a) {demand : Demand}
    (h : (serve? demand).run a = some (grant, a')) :
    ∃ used, Entered clientPort draws (ledger ++ [⟨demand, grant, used⟩]) a' := by
  have hmem (other : String) : other ∈ a.names ↔ other ∈ namesIn ledger := by
    rw [hentered.names_eq, List.mem_reverse]
  cases demand with
  | name =>
      obtain ⟨⟨name, _⟩, hname, hgrant⟩ := run_bind_eq_some_iff.mp h
      obtain ⟨rfl, rfl⟩ := Prod.mk.inj (Option.some.inj hgrant)
      obtain ⟨used, hdraws, hfirst⟩ := hentered.first_of_name? hname
      obtain ⟨hgenerated, hnot, rest, rfl⟩ := name?_spec hname
      exact ⟨used, hentered.concat_name hdraws hgenerated.accepted.ne_empty hnot
        ⟨name, rfl, hgenerated, hfirst⟩⟩
  | claim wish =>
      obtain ⟨⟨name, _⟩, hclaim, hgrant⟩ := run_bind_eq_some_iff.mp h
      obtain ⟨rfl, rfl⟩ := Prod.mk.inj (Option.some.inj hgrant)
      rcases claim?_spec hclaim with ⟨hne, hnot, rfl, rfl⟩ | ⟨htaken, hname⟩
      · refine ⟨[], hentered.concat_name rfl hne hnot ⟨?_, ?_, ?_⟩⟩
        · exact iff_of_true rfl ⟨hne, mt (hmem name).mpr hnot⟩
        · exact fun _ => rfl
        · exact absurd rfl
      · obtain ⟨used, hdraws, hfirst⟩ := hentered.first_of_name? hname
        obtain ⟨hgenerated, hnot, rest, rfl⟩ := name?_spec hname
        rw [hmem] at htaken
        have hother : Grant.name name ≠ .name wish := fun hsame =>
          hfirst.ne htaken (Grant.name.inj hsame)
        refine ⟨used, hentered.concat_name hdraws hgenerated.accepted.ne_empty hnot ⟨?_, ?_, ?_⟩⟩
        · exact iff_of_false hother fun hfree => htaken.elim hfree.1 hfree.2
        · exact fun hsame => absurd hsame hother
        · exact fun _ => ⟨name, rfl, hgenerated, hfirst⟩
  | port =>
      obtain ⟨⟨port, _⟩, hport, hgrant⟩ := run_bind_eq_some_iff.mp h
      obtain ⟨rfl, rfl⟩ := Prod.mk.inj (Option.some.inj hgrant)
      obtain ⟨used, hdraws, hfirst⟩ := hentered.first_of_port? hport
      have hsound := hentered.sound.port? hport
      obtain ⟨_, _, _, rest, rfl⟩ := port?_spec hport
      exact ⟨used, {
        clientPort_eq := hentered.clientPort_eq
        names_eq := by simp [namesIn, Grant.name?, hentered.names_eq]
        ports_eq := by simp [portsIn, Grant.port?, hentered.ports_eq]
        draws_eq := by simpa [hdraws] using hentered.draws_eq
        follows := follows_concat hentered.follows ⟨port, rfl, hfirst⟩
        sound := hsound }⟩

/-- **Any number of lines more**, one for each demand. -/
theorem Entered.serveAll? (hentered : Entered clientPort draws ledger a) {demands : List Demand}
    (h : (serveAll? demands).run a = some (grants, a')) :
    ∃ more : List Entry, more.map Entry.demand = demands ∧ more.map Entry.grant = grants ∧
      Entered clientPort draws (ledger ++ more) a' := by
  induction demands generalizing ledger a grants with
  | nil =>
      obtain ⟨rfl, rfl⟩ := Prod.mk.inj (Option.some.inj h)
      exact ⟨[], rfl, rfl, by rwa [List.append_nil]⟩
  | cons demand demands ih =>
      rw [Allocator.serveAll?, List.mapM_cons] at h
      obtain ⟨⟨grant, middle⟩, hfirst, h⟩ := run_bind_eq_some_iff.mp h
      obtain ⟨⟨others, _⟩, hothers, hgrants⟩ := run_bind_eq_some_iff.mp h
      obtain ⟨rfl, rfl⟩ := Prod.mk.inj (Option.some.inj hgrants)
      obtain ⟨used, hentered⟩ := hentered.serve? hfirst
      obtain ⟨more, rfl, rfl, hentered⟩ := ih hentered hothers
      refine ⟨⟨demand, grant, used⟩ :: more, rfl, rfl, ?_⟩
      rwa [List.append_assoc] at hentered

/-- What is granted is a port if and only if one was demanded. -/
theorem Entry.Follows.isSome_port? {entry : Entry} (h : entry.Follows clientPort ledger) :
    entry.grant.port?.isSome = true ↔ entry.demand = .port := by
  obtain ⟨demand, grant, used⟩ := entry
  have hname (name : String) : grant = .name name → grant.port?.isSome = false := by
    rintro rfl
    rfl
  cases demand with
  | name =>
      obtain ⟨name, hgrant, _⟩ := h
      simp [hname name hgrant]
  | claim wish =>
      obtain ⟨_, _, hfresh⟩ := h
      by_cases hgrant : grant = .name wish
      · simp [hname wish hgrant]
      · obtain ⟨name, hgrant, _⟩ := hfresh hgrant
        simp [hname name hgrant]
  | port =>
      obtain ⟨port, rfl, _⟩ := h
      simp [Grant.port?]

/-- There are as many ports in a ledger as were demanded. -/
theorem Entered.count_port (hentered : Entered clientPort draws ledger a) :
    (ledger.map Entry.demand).count .port = (portsIn ledger).length := by
  rw [portsIn, List.length_filterMap_eq_countP, List.count_eq_countP, List.countP_map]
  refine List.countP_congr fun entry hentry => ?_
  obtain ⟨before, after, rfl⟩ := List.append_of_mem hentry
  rw [(hentered.follows before entry after rfl).isSome_port?]
  exact beq_iff_eq

/-- An answer stays when there are more draws. -/
theorem serve?_feed {demand : Demand} (h : (serve? demand).run a = some (grant, a'))
    (more : List UInt64) : (serve? demand).run (a.feed more) = some (grant, a'.feed more) := by
  cases demand with
  | name =>
      obtain ⟨⟨name, _⟩, hname, hgrant⟩ := run_bind_eq_some_iff.mp h
      obtain ⟨rfl, rfl⟩ := Prod.mk.inj (Option.some.inj hgrant)
      exact run_bind_eq_some_iff.mpr ⟨_, answered_name?.steady hname more, rfl⟩
  | claim wish =>
      obtain ⟨⟨name, _⟩, hclaim, hgrant⟩ := run_bind_eq_some_iff.mp h
      obtain ⟨rfl, rfl⟩ := Prod.mk.inj (Option.some.inj hgrant)
      exact run_bind_eq_some_iff.mpr ⟨_, (answered_claim? wish).steady hclaim more, rfl⟩
  | port =>
      obtain ⟨⟨port, _⟩, hport, hgrant⟩ := run_bind_eq_some_iff.mp h
      obtain ⟨rfl, rfl⟩ := Prod.mk.inj (Option.some.inj hgrant)
      exact run_bind_eq_some_iff.mpr ⟨_, answered_port?.steady hport more, rfl⟩

theorem serveAll?_feed {demands : List Demand} (h : (serveAll? demands).run a = some (grants, a'))
    (more : List UInt64) :
    (serveAll? demands).run (a.feed more) = some (grants, a'.feed more) := by
  induction demands generalizing a grants with
  | nil =>
      obtain ⟨rfl, rfl⟩ := Prod.mk.inj (Option.some.inj h)
      rfl
  | cons demand demands ih =>
      rw [serveAll?, List.mapM_cons] at h ⊢
      obtain ⟨⟨grant, middle⟩, hfirst, h⟩ := run_bind_eq_some_iff.mp h
      obtain ⟨⟨others, _⟩, hothers, hgrants⟩ := run_bind_eq_some_iff.mp h
      obtain ⟨rfl, rfl⟩ := Prod.mk.inj (Option.some.inj hgrants)
      exact run_bind_eq_some_iff.mpr ⟨_, serve?_feed hfirst more,
        run_bind_eq_some_iff.mpr ⟨_, ih hothers, rfl⟩⟩

end Uses

/-! ### What holds of every use -/

/-- Different ports in the range of client ports, the client port not among them, are one less than
the range has. -/
theorem length_ports_le {clientPort : UInt16} {ports : List UInt16}
    (hclient : ClientPort.least ≤ clientPort.toNat) (hnodup : ports.Nodup)
    (hports : ∀ port ∈ ports, ClientPort.least ≤ port.toNat ∧ port ≠ clientPort) :
    ports.length ≤ ClientPort.greatest - ClientPort.least := by
  have hall : (clientPort :: ports).Nodup :=
    List.nodup_cons.mpr ⟨fun hmem => (hports clientPort hmem).2 rfl, hnodup⟩
  have hnumbers : ((clientPort :: ports).map UInt16.toNat).Nodup :=
    hall.map fun _ _ => UInt16.toNat_inj.mp
  have hrange : (clientPort :: ports).map UInt16.toNat ⊆
      List.range' ClientPort.least (ClientPort.greatest - ClientPort.least + 1) := by
    intro n hn
    obtain ⟨port, hport, rfl⟩ := List.mem_map.mp hn
    have hleast : ClientPort.least ≤ port.toNat := by
      rcases List.mem_cons.mp hport with rfl | hport
      · exact hclient
      · exact (hports port hport).1
    have hlt := port.toNat_lt
    rw [List.mem_range'_1]
    simp only [ClientPort.least, ClientPort.greatest] at hleast ⊢
    omega
  have hlength := (hnumbers.subperm hrange).length_le
  rw [List.length_map, List.length_cons, List.length_range'] at hlength
  omega

/-- **What holds of every use of an allocator**, whatever is drawn and demanded, as long as it is
answered. -/
theorem ledger_of_serveAll? {clientPort : UInt16} (hclient : ClientPort.least ≤ clientPort.toNat)
    (draws : List UInt64) {demands : List Demand} {grants : List Grant} {last : Allocator}
    (h : (serveAll? demands).run { clientPort, draws } = some (grants, last)) :
    (∃ ledger : List Entry,
      ledger.map Entry.demand = demands ∧ ledger.map Entry.grant = grants ∧
        draws = ledger.flatMap Entry.used ++ last.draws ∧
        Workflow.Throughout (Entry.Follows clientPort) ledger) ∧
      (grants.filterMap Grant.name?).Nodup ∧ (∀ name ∈ grants.filterMap Grant.name?, name ≠ "") ∧
      (grants.filterMap Grant.port?).Nodup ∧
      (∀ port ∈ grants.filterMap Grant.port?,
        5000 ≤ port.toNat ∧ port.toNat ≤ 65535 ∧ port ≠ clientPort) ∧
      demands.count .port ≤ 60535 ∧
      ∀ more, (serveAll? demands).run { clientPort, draws := draws ++ more } =
        some (grants, last.feed more) := by
  have hnew : Entered clientPort draws [] { clientPort, draws } :=
    ⟨rfl, rfl, rfl, rfl, Workflow.throughout_nil, sound_new clientPort draws⟩
  obtain ⟨ledger, rfl, rfl, hentered⟩ := hnew.serveAll? h
  rw [List.nil_append] at hentered
  have hports : ∀ port ∈ portsIn ledger, ClientPort.least ≤ port.toNat ∧ port ≠ clientPort := by
    intro port hport
    have hrange := hentered.sound.ports_in_range port
    rw [hentered.ports_eq, hentered.clientPort_eq, List.mem_reverse] at hrange
    exact hrange hport
  have hnodup : (portsIn ledger).Nodup := by
    have hports_nodup := hentered.sound.ports_nodup
    rwa [hentered.ports_eq, List.nodup_reverse] at hports_nodup
  have hcount : (ledger.map Entry.demand).count .port ≤ 60535 := by
    rw [hentered.count_port]
    exact length_ports_le hclient hnodup hports
  rw [List.filterMap_map, List.filterMap_map]
  refine ⟨⟨ledger, rfl, rfl, hentered.draws_eq, hentered.follows⟩, ?_, ?_, hnodup, ?_, hcount,
    serveAll?_feed h⟩
  · have hnames_nodup := hentered.sound.names_nodup
    rwa [hentered.names_eq, List.nodup_reverse] at hnames_nodup
  · intro name hname
    have hne := hentered.sound.names_ne_empty name
    rw [hentered.names_eq, List.mem_reverse] at hne
    exact hne hname
  · intro port hport
    obtain ⟨hleast, hne⟩ := hports port hport
    exact ⟨hleast, Nat.le_of_lt_succ port.toNat_lt, hne⟩

/-- A use with something of everything: a name that was claimed is drawn, and claimed once more, and
among the ports one that was handed out and the one that clients connect to are drawn. -/
theorem ledger_of_serveAll?_refusing :
    let demands : List Demand := [.claim "aaaaaaaaaa", .name, .claim "aaaaaaaaaa", .port, .port]
    let draws : List UInt64 := List.replicate 10 0 ++ List.replicate 10 0x8000000000000000 ++
      List.replicate 10 0x4000000000000000 ++ [0, 0, 0x2000000000000, 0x3000000000000, 7]
    let grants : List Grant :=
      [.name "aaaaaaaaaa", .name "ssssssssss", .name "jjjjjjjjjj", .port 5000, .port 5002]
    ∃ last : Allocator,
      (serveAll? demands).run { clientPort := 5001, draws } = some (grants, last) ∧
      last.draws = [7] ∧
      (∃ ledger : List Entry,
        ledger.map Entry.demand = demands ∧ ledger.map Entry.grant = grants ∧
          draws = ledger.flatMap Entry.used ++ [7] ∧
          Workflow.Throughout (Entry.Follows 5001) ledger) ∧
      (grants.filterMap Grant.name?).Nodup ∧ (grants.filterMap Grant.port?).Nodup := by
  intro demands draws grants
  let last : Allocator := {
    clientPort := 5001, names := ["jjjjjjjjjj", "ssssssssss", "aaaaaaaaaa"], ports := [5002, 5000],
    draws := [7] }
  have hrun : (serveAll? demands).run { clientPort := 5001, draws } = some (grants, last) := by
    decide +kernel
  obtain ⟨hledger, hnames, _, hports, _⟩ := ledger_of_serveAll? (by decide) draws hrun
  exact ⟨last, hrun, rfl, hledger, hnames, hports⟩

end Allocator

end Provisioning
