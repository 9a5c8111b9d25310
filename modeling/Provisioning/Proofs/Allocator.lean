/-
**What an allocator hands out.**

A name of ten random characters hardly ever comes twice, and so nobody ever sees what happens when
it does: whether the draws go on, whether a name that was chosen by the user is among those that are
looked at, whether a port is compared with all the others.  What keeps the clusters of a run apart
is not that clashes are rare, but that an allocator remembers everything it has handed out.  It is
an invariant of the allocator, `Allocator.Sound`, and each of its three requests keeps it.

Main definitions:

* `ServiceName.Generated`, `ServiceName.Accepted` — ten allowed characters, or up to thirty;
* `Allocator.Sound` — **nothing is handed out twice**;
* `Allotment.nameOf`, `Allotment.portsOf` — what is handed out for the cluster of a kind;
* `Allotment.Clear` — **the names and ports of a run do not clash**.

Main results:

* `scanPort?_eq_some_iff`, `generated_of_scanName?` — what the scans find;
* `Allocator.Sound.name?`, `Allocator.Sound.claim?`, `Allocator.Sound.port?` — the invariant;
* `Allotment.clear_of_draw?` — **whatever is drawn, nothing clashes**.
-/

import Provisioning.Allocation
import Provisioning.Cluster.Kind

set_option relaxedAutoImplicit false
set_option autoImplicit false

namespace Provisioning

/-! ### Candidates -/

/-- A name of ten allowed characters. -/
structure ServiceName.Generated (name : String) : Prop where
  length_eq : name.length = generatedLength
  allowed : ∀ c ∈ name.toList, isAllowed c = true

/-- A name that the backend accepts: at least one allowed character, and at most thirty. -/
structure ServiceName.Accepted (name : String) : Prop where
  ne_empty : name ≠ ""
  allowed : ∀ c ∈ name.toList, isAllowed c = true
  length_le : name.length ≤ maxLength

/-- A generated name is accepted. -/
theorem ServiceName.Generated.accepted {name : String} (h : Generated name) : Accepted name where
  ne_empty := by
    rintro rfl
    cases h.length_eq
  allowed := h.allowed
  length_le := by
    rw [h.length_eq]
    decide

/-- What is accepted of a wish is accepted, unless it is nothing. -/
theorem ServiceName.accepted_sanitize {wish : String} (hne : sanitize wish ≠ "") :
    Accepted (sanitize wish) where
  ne_empty := hne
  allowed _ hc := isAllowed_of_mem_sanitize hc
  length_le := length_sanitize_le wish

/-- A drawn character is allowed. -/
theorem isAllowed_of_nameChar? {draw : UInt64} {c : Char} (h : nameChar? draw = some c) :
    ServiceName.isAllowed c = true := by
  obtain ⟨n, _, rfl⟩ := Option.map_eq_some_iff.mp h
  exact ServiceName.isAllowed_of_mem_alphabet (List.getElem_mem n.isLt)

/-- A drawn port is in the range of client ports. -/
theorem le_of_portOf? {draw : UInt64} {port : UInt16} (h : portOf? draw = some port) :
    ClientPort.least ≤ port.toNat ∧ port.toNat ≤ ClientPort.greatest := by
  obtain ⟨n, _, rfl⟩ := Option.map_eq_some_iff.mp h
  have hn := n.isLt
  simp only [ClientPort.least, ClientPort.greatest, UInt16.toNat_ofNat'] at hn ⊢
  omega

/-! ### Scans -/

section Scans

variable {draws rest : List UInt64}

/-- A draw that is refused gives no character. -/
theorem scanName?_cons_of_none {free : String → Bool} {built : List Char} {draw : UInt64}
    (hdraw : nameChar? draw = none) :
    scanName? free built (draw :: draws) = scanName? free built draws := by
  rw [scanName?, hdraw]

/-- A drawn character goes on with the candidate, or completes it. -/
theorem scanName?_cons_of_some {free : String → Bool} {built : List Char} {draw : UInt64} {c : Char}
    (hdraw : nameChar? draw = some c) :
    scanName? free built (draw :: draws) =
      if built.length + 1 < ServiceName.generatedLength then scanName? free (c :: built) draws
      else if free (String.ofList (c :: built).reverse) then
        some (String.ofList (c :: built).reverse, draws)
      else scanName? free [] draws := by
  rw [scanName?, hdraw]

/-- **What a scan for a name finds** is free, and made of ten allowed characters. -/
theorem generated_of_scanName? {free : String → Bool} (built : List Char) {name : String}
    (hlength : built.length < ServiceName.generatedLength)
    (hallowed : ∀ c ∈ built, ServiceName.isAllowed c = true)
    (h : scanName? free built draws = some (name, rest)) :
    free name = true ∧ ServiceName.Generated name := by
  -- Along the scan `built` stays shorter than a name, and every character in it is allowed.
  induction draws generalizing built with
  | nil => cases h
  | cons draw draws ih =>
      cases hdraw : nameChar? draw with
      | none =>
          rw [scanName?_cons_of_none hdraw] at h
          exact ih built hlength hallowed h
      | some c =>
          have hbuilt : ∀ d ∈ c :: built, ServiceName.isAllowed d = true :=
            List.forall_mem_cons.mpr ⟨isAllowed_of_nameChar? hdraw, hallowed⟩
          rw [scanName?_cons_of_some hdraw] at h
          split at h
          · rename_i hlt
            exact ih (c :: built) hlt hbuilt h
          · rename_i hge
            split at h
            · rename_i hfree
              obtain ⟨rfl, rfl⟩ := Prod.mk.inj (Option.some.inj h)
              refine ⟨hfree, ?_, ?_⟩
              · rw [String.length_ofList, List.length_reverse, List.length_cons]
                omega
              · intro d hd
                rw [String.toList_ofList, List.mem_reverse] at hd
                exact hbuilt d hd
            · exact ih [] (by decide) nofun h

theorem scanPort?_cons_of_free {free : UInt16 → Bool} {draw : UInt64} {port : UInt16}
    (hdraw : portOf? draw = some port) (hfree : free port = true) :
    scanPort? free (draw :: draws) = some (port, draws) := by
  rw [scanPort?, hdraw]
  exact if_pos hfree

theorem scanPort?_cons_of_not_free {free : UInt16 → Bool} {draw : UInt64}
    (hdraw : ∀ port, portOf? draw = some port → free port = false) :
    scanPort? free (draw :: draws) = scanPort? free draws := by
  rw [scanPort?]
  split
  · rename_i port hport
    rw [if_neg (Bool.eq_false_iff.mp (hdraw port hport))]
  · rfl

/-- **What a scan for a port finds**: the first free port, and the draws behind it. -/
theorem scanPort?_eq_some_iff {free : UInt16 → Bool} {port : UInt16} :
    scanPort? free draws = some (port, rest) ↔
      ∃ before draw, draws = before ++ draw :: rest ∧ portOf? draw = some port ∧
        free port = true ∧ ∀ d ∈ before, ∀ p, portOf? d = some p → free p = false := by
  constructor
  · intro h
    induction draws with
    | nil => cases h
    | cons draw draws ih =>
        by_cases hdraw : ∃ p, portOf? draw = some p ∧ free p = true
        · obtain ⟨p, hp, hfree⟩ := hdraw
          rw [scanPort?_cons_of_free hp hfree] at h
          obtain ⟨rfl, rfl⟩ := Prod.mk.inj (Option.some.inj h)
          exact ⟨[], draw, rfl, hp, hfree, nofun⟩
        · have hmiss : ∀ p, portOf? draw = some p → free p = false := fun p hp =>
            Bool.eq_false_iff.mpr fun hfree => hdraw ⟨p, hp, hfree⟩
          rw [scanPort?_cons_of_not_free hmiss] at h
          obtain ⟨before, last, rfl, hport, hfree, hbefore⟩ := ih h
          refine ⟨draw :: before, last, rfl, hport, hfree, ?_⟩
          intro d hd
          rcases List.mem_cons.mp hd with rfl | hd
          · exact hmiss
          · exact hbefore d hd
  · rintro ⟨before, draw, rfl, hport, hfree, hbefore⟩
    induction before with
    | nil => exact scanPort?_cons_of_free hport hfree
    | cons other before ih =>
        rw [List.cons_append, scanPort?_cons_of_not_free (hbefore other List.mem_cons_self)]
        exact ih fun d hd => hbefore d (List.mem_cons_of_mem other hd)

end Scans

/-! ### The allocator -/

namespace Allocator

/-- **Nothing is handed out twice**: no name and no port, and no port that clients connect to. -/
structure Sound (a : Allocator) : Prop where
  names_nodup : a.names.Nodup
  names_ne_empty : ∀ name ∈ a.names, name ≠ ""
  ports_nodup : a.ports.Nodup
  ports_in_range : ∀ port ∈ a.ports, ClientPort.least ≤ port.toNat ∧ port ≠ a.clientPort

variable {a a' : Allocator} {name wish : String} {port : UInt16}

/-- **A fresh name** has ten allowed characters, and was not handed out before. -/
theorem name?_spec (h : a.name? = some (name, a')) :
    ServiceName.Generated name ∧ name ∉ a.names ∧
      ∃ rest, a' = { a with names := name :: a.names, draws := rest } := by
  obtain ⟨⟨found, rest⟩, hscan, hfound⟩ := Option.map_eq_some_iff.mp h
  obtain ⟨rfl, rfl⟩ := Prod.mk.inj hfound
  obtain ⟨hfree, hgenerated⟩ := generated_of_scanName? [] (by decide) nofun hscan
  exact ⟨hgenerated, by simpa using hfree, rest, rfl⟩

/-- Who asks for no name, or for one that was handed out before, gets a fresh one. -/
theorem claim?_of_taken (htaken : wish = "" ∨ wish ∈ a.names) : a.claim? wish = a.name? := by
  rw [claim?, if_pos (by simpa using htaken)]

/-- **A name that is asked for** is handed out if it is one and was not handed out before, and then
nothing is drawn.  Otherwise there is a fresh name. -/
theorem claim?_spec (h : a.claim? wish = some (name, a')) :
    (wish ≠ "" ∧ wish ∉ a.names ∧ name = wish ∧ a' = { a with names := wish :: a.names }) ∨
      (wish = "" ∨ wish ∈ a.names) ∧ a.name? = some (name, a') := by
  rw [claim?] at h
  split at h
  · rename_i htaken
    exact .inr ⟨by simpa using htaken, h⟩
  · rename_i hfree
    obtain ⟨rfl, rfl⟩ := Prod.mk.inj (Option.some.inj h)
    obtain ⟨hne, hnot⟩ := not_or.mp (by simpa using hfree)
    exact .inl ⟨hne, hnot, rfl, rfl⟩

theorem exists_of_claim? (h : a.claim? wish = some (name, a')) :
    ∃ rest, a' = { a with names := name :: a.names, draws := rest } := by
  rcases claim?_spec h with ⟨_, _, rfl, rfl⟩ | ⟨_, hname⟩
  · exact ⟨a.draws, rfl⟩
  · exact (name?_spec hname).2.2

/-- **A fresh port** is in the range of client ports, is not the one of this run, and was not handed
out before. -/
theorem port?_spec (h : a.port? = some (port, a')) :
    ClientPort.least ≤ port.toNat ∧ port ≠ a.clientPort ∧ port ∉ a.ports ∧
      ∃ rest, a' = { a with ports := port :: a.ports, draws := rest } := by
  obtain ⟨⟨found, rest⟩, hscan, hfound⟩ := Option.map_eq_some_iff.mp h
  obtain ⟨rfl, rfl⟩ := Prod.mk.inj hfound
  obtain ⟨before, draw, _, hport, hfree, _⟩ := scanPort?_eq_some_iff.mp hscan
  obtain ⟨hne, hnot⟩ : found ≠ a.clientPort ∧ found ∉ a.ports := by simpa using hfree
  exact ⟨(le_of_portOf? hport).1, hne, hnot, rest, rfl⟩

/-- An allocator that has handed out nothing. -/
theorem sound_new (clientPort : UInt16) (draws : List UInt64) :
    Sound { clientPort, draws } where
  names_nodup := List.nodup_nil
  names_ne_empty := nofun
  ports_nodup := List.nodup_nil
  ports_in_range := nofun

/-- One name more. -/
theorem Sound.cons_name (hsound : a.Sound) (hne : name ≠ "") (hnot : name ∉ a.names)
    (rest : List UInt64) : Sound { a with names := name :: a.names, draws := rest } where
  names_nodup := List.nodup_cons.mpr ⟨hnot, hsound.names_nodup⟩
  names_ne_empty := List.forall_mem_cons.mpr ⟨hne, hsound.names_ne_empty⟩
  ports_nodup := hsound.ports_nodup
  ports_in_range := hsound.ports_in_range

theorem Sound.name? (hsound : a.Sound) (h : a.name? = some (name, a')) : a'.Sound := by
  obtain ⟨hgenerated, hnot, rest, rfl⟩ := name?_spec h
  exact hsound.cons_name hgenerated.accepted.ne_empty hnot rest

theorem Sound.claim? (hsound : a.Sound) (h : a.claim? wish = some (name, a')) : a'.Sound := by
  rcases claim?_spec h with ⟨hne, hnot, rfl, rfl⟩ | ⟨_, hname⟩
  · exact hsound.cons_name hne hnot a.draws
  · exact hsound.name? hname

theorem Sound.port? (hsound : a.Sound) (h : a.port? = some (port, a')) : a'.Sound := by
  obtain ⟨hrange, hne, hnot, rest, rfl⟩ := port?_spec h
  exact ⟨hsound.names_nodup, hsound.names_ne_empty, List.nodup_cons.mpr ⟨hnot, hsound.ports_nodup⟩,
    List.forall_mem_cons.mpr ⟨⟨hrange, hne⟩, hsound.ports_in_range⟩⟩

/-- Two requests to an allocator, one after the other. -/
theorem run_bind_eq_some_iff {α β : Type} {x : StateT Allocator Option α}
    {f : α → StateT Allocator Option β} {v : β × Allocator} :
    (x >>= f).run a = some v ↔ ∃ u, x.run a = some u ∧ (f u.1).run u.2 = some v := by
  rw [StateT.run_bind]
  exact Option.bind_eq_some_iff

end Allocator

/-! ### What one run hands out -/

namespace Allotment

open Cluster (Kind)

/-- The name that is handed out for the cluster of a kind. -/
def nameOf (a : Allotment) : Kind → String
  | .coordinationService => a.coordinationServiceName
  | .broker => a.brokerName
  | .worker => a.workerName

/-- The ports that are handed out for the cluster of a kind. -/
def portsOf (a : Allotment) : Kind → List UInt16
  | .coordinationService => [a.peerPort, a.electionPort]
  | .broker => [a.exporterPort, a.brokerJmxPort]
  | .worker => [a.workerJmxPort]

/-- **The names and ports of a run do not clash**, and they are what the backend accepts. -/
structure Clear (a : Allotment) (clientPort : UInt16) (wish : String) : Prop where
  names_nodup : (Kind.all.map a.nameOf).Nodup
  ports_nodup : (Kind.all.flatMap a.portsOf).Nodup
  ports_in_range : ∀ port ∈ Kind.all.flatMap a.portsOf,
    ClientPort.least ≤ port.toNat ∧ port ≠ clientPort
  coordinationService_generated : ServiceName.Generated a.coordinationServiceName
  broker_generated : ServiceName.Generated a.brokerName
  /-- The worker has the accepted form of the wish, unless nothing of the wish is accepted. -/
  worker_eq : ServiceName.sanitize wish ≠ "" → a.workerName = ServiceName.sanitize wish
  worker_generated : ServiceName.sanitize wish = "" → ServiceName.Generated a.workerName

/-- Every name that is handed out is accepted. -/
theorem Clear.accepted {a : Allotment} {clientPort : UInt16} {wish : String}
    (h : a.Clear clientPort wish) (kind : Kind) : ServiceName.Accepted (a.nameOf kind) := by
  cases kind with
  | coordinationService => exact h.coordinationService_generated.accepted
  | broker => exact h.broker_generated.accepted
  | worker =>
      rw [nameOf]
      by_cases hempty : ServiceName.sanitize wish = ""
      · exact (h.worker_generated hempty).accepted
      · rw [h.worker_eq hempty]
        exact ServiceName.accepted_sanitize hempty

/-- **Whatever is drawn, nothing clashes.** -/
theorem clear_of_draw? {clientPort : UInt16} {wish : String} {draws : List UInt64} {a : Allotment}
    (h : draw? clientPort wish draws = some a) : a.Clear clientPort wish := by
  obtain ⟨⟨_, last⟩, hrun, rfl⟩ := Option.map_eq_some_iff.mp h
  simp only [ofAllocator?, Allocator.run_bind_eq_some_iff, Prod.exists] at hrun
  obtain ⟨worker, a₁, hworker, coordination, a₂, hcoordination, peer, a₃, hpeer, election, a₄,
    helection, broker, a₅, hbroker, exporter, a₆, hexporter, brokerJmx, a₇, hbrokerJmx, workerJmx,
    a₈, hworkerJmx, hlast⟩ := hrun
  obtain ⟨rfl, rfl⟩ := Prod.mk.inj (Option.some.inj hlast)
  have hworker_name := Allocator.claim?_spec hworker
  have hsound := ((((((((Allocator.sound_new clientPort draws).claim? hworker).name?
    hcoordination).port? hpeer).port? helection).name? hbroker).port? hexporter).port?
    hbrokerJmx).port? hworkerJmx
  -- All that was handed out is in the last allocator, what came last in front.
  obtain ⟨_, rfl⟩ := Allocator.exists_of_claim? hworker
  obtain ⟨hcoordination_generated, _, _, rfl⟩ := Allocator.name?_spec hcoordination
  obtain ⟨_, _, _, _, rfl⟩ := Allocator.port?_spec hpeer
  obtain ⟨_, _, _, _, rfl⟩ := Allocator.port?_spec helection
  obtain ⟨hbroker_generated, _, _, rfl⟩ := Allocator.name?_spec hbroker
  obtain ⟨_, _, _, _, rfl⟩ := Allocator.port?_spec hexporter
  obtain ⟨_, _, _, _, rfl⟩ := Allocator.port?_spec hbrokerJmx
  obtain ⟨_, _, _, _, rfl⟩ := Allocator.port?_spec hworkerJmx
  refine ⟨?_, ?_, ?_, hcoordination_generated, hbroker_generated, ?_, ?_⟩
  · exact ((List.Perm.swap broker coordination [worker]).nodup_iff).mpr hsound.names_nodup
  · exact (List.reverse_perm _).nodup_iff.mp hsound.ports_nodup
  · intro port hport
    exact hsound.ports_in_range port (List.mem_reverse.mpr hport)
  · intro hne
    rcases hworker_name with ⟨_, _, hname, _⟩ | ⟨hempty | htaken, _⟩
    · exact hname
    · exact absurd hempty hne
    · cases htaken
  · intro hempty
    rcases hworker_name with ⟨hne, _⟩ | ⟨_, hname⟩
    · exact absurd hempty hne
    · exact (Allocator.name?_spec hname).1

end Allotment

end Provisioning
