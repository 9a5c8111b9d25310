/-
**More draws.**

A request to an allocator may use up its draws without an answer: a candidate is not complete, or
every candidate was handed out before.  Nothing is wrong then, the stream is only too short.  More
draws bring the answer.  What was handed out on the way stays as it was, and however the draws
begin, they can go on in such a way that a run gets all its names and ports.

So the answers of an allocator are those of a stream without an end, and what is proved of every
allotment is not proved of too few.

Main definitions:

* `Allocator.feed` — an allocator with more draws;
* `Allocator.Answered` — **some requests are answered in the end**.

Main results:

* `Draw.exists_below?` — every number below a bound is drawn;
* `exists_scanName?`, `exists_scanPort?` — more draws bring a free name, and a free port;
* `Allotment.exists_draw?` — **more draws bring an allotment**.
-/

import Mathlib.Data.List.Perm.Subperm
import Provisioning.Proofs.Allocator

set_option relaxedAutoImplicit false
set_option autoImplicit false

namespace Provisioning

/-! ### Draws -/

/-- Below a bound that is no greater than the size, each number is the high part of a product. -/
theorem exists_mul_eq {n bound size : Nat} (hn : n < bound) (hsize : bound ≤ size) :
    ∃ d < size, ∃ low < bound, d * bound = low + n * size := by
  -- The least `d` whose product reaches `n * size`.
  let d := (n * size + (bound - 1)) / bound
  have hlower : n * size + (bound - 1) < (d + 1) * bound :=
    Nat.lt_mul_of_div_lt (Nat.lt_succ_self d) (Nat.zero_lt_of_lt hn)
  have hupper : d * bound ≤ n * size + (bound - 1) := Nat.div_mul_le_self _ bound
  have hle : (n + 1) * size ≤ bound * size := Nat.mul_le_mul_right size hn
  rw [Nat.succ_mul] at hlower hle
  refine ⟨d, ?_, d * bound - n * size, by omega, by omega⟩
  refine Nat.lt_of_mul_lt_mul_right (a := bound) ?_
  rw [Nat.mul_comm size]
  omega

/-- Every number below a bound is drawn. -/
theorem Draw.exists_below? {bound : Nat} (hsize : bound ≤ UInt64.size)
    (hzone : bound ≤ Draw.zone bound) (n : Fin bound) :
    ∃ draw, Draw.below? bound draw = some n := by
  obtain ⟨d, hd, low, hlow, hproduct⟩ := exists_mul_eq n.isLt hsize
  have hlt : low < UInt64.size := Nat.lt_of_lt_of_le hlow hsize
  have hhigh : d * bound / UInt64.size = n := by
    rw [hproduct, Nat.add_mul_div_right _ _ (by decide), Nat.div_eq_of_lt hlt, Nat.zero_add]
  have haccepted : d * bound % UInt64.size ≤ Draw.zone bound := by
    rw [hproduct, Nat.add_mul_mod_self_right, Nat.mod_eq_of_lt hlt]
    omega
  refine ⟨.ofNat d, ?_⟩
  simp only [Draw.below?, dif_pos n.pos, UInt64.toNat_ofNat_of_lt' hd, if_pos haccepted, hhigh]

/-- Every allowed character of generated names is drawn. -/
theorem exists_nameChar? {c : Char} (hc : c ∈ ServiceName.alphabet) :
    ∃ draw, nameChar? draw = some c := by
  obtain ⟨n, hn, rfl⟩ := List.getElem_of_mem hc
  obtain ⟨draw, hdraw⟩ := Draw.exists_below? (by decide) (by decide) ⟨n, hn⟩
  refine ⟨draw, ?_⟩
  rw [nameChar?, hdraw]
  rfl

/-- Every port in the range of client ports is drawn. -/
theorem exists_portOf? {port : UInt16} (hport : ClientPort.least ≤ port.toNat) :
    ∃ draw, portOf? draw = some port := by
  have hlt : port.toNat - ClientPort.least < ClientPort.greatest - ClientPort.least + 1 := by
    have hport_lt := port.toNat_lt
    simp only [ClientPort.least, ClientPort.greatest] at hport ⊢
    omega
  obtain ⟨draw, hdraw⟩ := Draw.exists_below? (by decide) (by decide) ⟨_, hlt⟩
  refine ⟨draw, ?_⟩
  rw [portOf?, hdraw, Option.map_some, Nat.add_sub_cancel' hport, UInt16.ofNat_toNat]

/-! ### Scans that go on -/

section Scans

variable {draws rest : List UInt64}

/-- Draws that come later do not change what a scan for a name has found. -/
theorem scanName?_append {free : String → Bool} {built : List Char} {name : String}
    (h : scanName? free built draws = some (name, rest)) (more : List UInt64) :
    scanName? free built (draws ++ more) = some (name, rest ++ more) := by
  induction draws generalizing built with
  | nil => cases h
  | cons draw draws ih =>
      rw [List.cons_append]
      cases hdraw : nameChar? draw with
      | none =>
          rw [scanName?_cons_of_none hdraw] at h ⊢
          exact ih h
      | some c =>
          rw [scanName?_cons_of_some hdraw] at h ⊢
          by_cases hlt : built.length + 1 < ServiceName.generatedLength
          · rw [if_pos hlt] at h ⊢
            exact ih h
          · rw [if_neg hlt] at h ⊢
            by_cases hfree : free (String.ofList (c :: built).reverse) = true
            · rw [if_pos hfree] at h ⊢
              obtain ⟨rfl, rfl⟩ := Prod.mk.inj (Option.some.inj h)
              rfl
            · rw [if_neg hfree] at h ⊢
              exact ih h

theorem scanPort?_append {free : UInt16 → Bool} {port : UInt16}
    (h : scanPort? free draws = some (port, rest)) (more : List UInt64) :
    scanPort? free (draws ++ more) = some (port, rest ++ more) := by
  obtain ⟨before, draw, rfl, hfound⟩ := scanPort?_eq_some_iff.mp h
  exact scanPort?_eq_some_iff.mpr ⟨before, draw, List.append_assoc _ _ _, hfound⟩

/-- Some draws spell the rest of a candidate. -/
theorem exists_spelling (free : String → Bool) (built : List Char) {chars : List Char}
    (hchars : ∀ c ∈ chars, c ∈ ServiceName.alphabet)
    (hbuilt : built.length < ServiceName.generatedLength)
    (hlength : built.length + chars.length = ServiceName.generatedLength) :
    ∃ used, ∀ rest, scanName? free built (used ++ rest) =
      if free (String.ofList (built.reverse ++ chars)) then
        some (String.ofList (built.reverse ++ chars), rest)
      else scanName? free [] rest := by
  induction chars generalizing built with
  | nil => exact absurd hlength (Nat.ne_of_lt hbuilt)
  | cons c chars ih =>
      obtain ⟨hc, hchars⟩ := List.forall_mem_cons.mp hchars
      obtain ⟨draw, hdraw⟩ := exists_nameChar? hc
      rw [List.length_cons] at hlength
      by_cases hlt : built.length + 1 < ServiceName.generatedLength
      · obtain ⟨used, hused⟩ := ih (c :: built) hchars hlt (by
          rw [List.length_cons]
          omega)
        refine ⟨draw :: used, fun rest => ?_⟩
        rw [List.cons_append, scanName?_cons_of_some hdraw, if_pos hlt, hused, List.reverse_cons,
          List.append_assoc]
        rfl
      · obtain rfl : chars = [] := List.length_eq_zero_iff.mp (by omega)
        refine ⟨[draw], fun rest => ?_⟩
        rw [List.singleton_append, scanName?_cons_of_some hdraw, if_neg hlt, List.reverse_cons]

/-- **More draws bring a name** where one is free. -/
theorem exists_scanName? {free : String → Bool} {c : Char} (hc : c ∈ ServiceName.alphabet)
    (hfree : free (String.ofList (List.replicate ServiceName.generatedLength c)) = true)
    (built : List Char) (hlength : built.length < ServiceName.generatedLength)
    (draws : List UInt64) : ∃ more found, scanName? free built (draws ++ more) = some found := by
  have hrepeated (n : Nat) : ∀ d ∈ List.replicate n c, d ∈ ServiceName.alphabet := by
    intro d hd
    rw [List.eq_of_mem_replicate hd]
    exact hc
  induction draws generalizing built with
  | nil =>
      -- The candidate that was begun is completed in some way, and then comes the free name.
      obtain ⟨used, hused⟩ := exists_spelling free built (hrepeated _) hlength
        (by rw [List.length_replicate, Nat.add_sub_cancel' (Nat.le_of_lt hlength)])
      obtain ⟨last, hlast⟩ := exists_spelling free [] (hrepeated ServiceName.generatedLength)
        (by decide) (by rw [List.length_replicate]; rfl)
      refine ⟨used ++ last, ?_⟩
      rw [List.nil_append, hused]
      split
      · exact ⟨_, rfl⟩
      · have hfound := hlast []
        rw [List.append_nil, List.reverse_nil, List.nil_append, if_pos hfree] at hfound
        exact ⟨_, hfound⟩
  | cons draw draws ih =>
      cases hdraw : nameChar? draw with
      | none =>
          simp only [List.cons_append, scanName?_cons_of_none hdraw]
          exact ih built hlength
      | some d =>
          simp only [List.cons_append, scanName?_cons_of_some hdraw]
          split
          · rename_i hlt
            exact ih (d :: built) hlt
          · split
            · exact ⟨[], _, rfl⟩
            · exact ih [] (by decide)

/-- **More draws bring a port** where one is free. -/
theorem exists_scanPort? {free : UInt16 → Bool} {port : UInt16}
    (hport : ClientPort.least ≤ port.toNat) (hfree : free port = true) (draws : List UInt64) :
    ∃ more found, scanPort? free (draws ++ more) = some found := by
  obtain ⟨draw, hdraw⟩ := exists_portOf? hport
  induction draws with
  | nil => exact ⟨[draw], _, scanPort?_cons_of_free hdraw hfree⟩
  | cons other draws ih =>
      by_cases hother : ∃ p, portOf? other = some p ∧ free p = true
      · obtain ⟨p, hp, hfree⟩ := hother
        exact ⟨[], _, scanPort?_cons_of_free hp hfree⟩
      · have hmiss : ∀ p, portOf? other = some p → free p = false := fun p hp =>
          Bool.eq_false_iff.mpr fun hfree => hother ⟨p, hp, hfree⟩
        simp only [List.cons_append, scanPort?_cons_of_not_free hmiss]
        exact ih

end Scans

/-! ### Something is free -/

/-- A list without repetitions is not contained in a shorter one. -/
theorem exists_not_mem_of_length_lt {α : Type} {xs ys : List α} (hnodup : xs.Nodup)
    (hlt : ys.length < xs.length) : ∃ x ∈ xs, x ∉ ys := by
  by_contra hnone
  have hsubset : xs ⊆ ys := fun x hx => by
    by_contra hnot
    exact hnone ⟨x, hx, hnot⟩
  exact absurd (hnodup.subperm hsubset).length_le (Nat.not_le.mpr hlt)

namespace Allocator

/-- An allocator with more draws. -/
def feed (a : Allocator) (more : List UInt64) : Allocator := { a with draws := a.draws ++ more }

theorem feed_feed (a : Allocator) (more last : List UInt64) :
    (a.feed more).feed last = a.feed (more ++ last) :=
  congrArg (Allocator.mk _ _ _) (List.append_assoc _ _ _)

/-- Little enough was handed out that there are `n` requests more for which something is free. -/
def Room (a : Allocator) (n : Nat) : Prop :=
  a.names.length + n ≤ ServiceName.alphabet.length ∧
    a.ports.length + n ≤ ServiceName.alphabet.length

/-! ### Requests that are answered -/

/-- **Some requests are answered in the end**: an answer stays when there are more draws, and where
there is room for `k` requests, more draws bring it. -/
structure Answered {α : Type} (k : Nat) (x : StateT Allocator Option α) : Prop where
  steady {a a' : Allocator} {v : α} : x.run a = some (v, a') →
    ∀ more, x.run (a.feed more) = some (v, a'.feed more)
  goes_on (a : Allocator) (n : Nat) : a.Room (n + k) →
    ∃ more v a', x.run (a.feed more) = some (v, a') ∧ a'.Room n

theorem answered_pure {α : Type} (v : α) : Answered 0 (pure v : StateT Allocator Option α) where
  steady h more := by
    obtain ⟨rfl, rfl⟩ := Prod.mk.inj (Option.some.inj h)
    rfl
  goes_on a n hroom := ⟨[], v, _, rfl, hroom⟩

/-- Requests one after the other. -/
theorem Answered.bind {α β : Type} {k l : Nat} {x : StateT Allocator Option α}
    {f : α → StateT Allocator Option β} (hx : Answered k x) (hf : ∀ v, Answered l (f v)) :
    Answered (l + k) (x >>= f) where
  steady h more := by
    obtain ⟨⟨v, a'⟩, hrun, hrest⟩ := run_bind_eq_some_iff.mp h
    exact run_bind_eq_some_iff.mpr ⟨_, hx.steady hrun more, (hf v).steady hrest more⟩
  goes_on a n hroom := by
    obtain ⟨more, v, a', hrun, hroom'⟩ := hx.goes_on a (n + l) (by rwa [Nat.add_assoc])
    obtain ⟨last, w, a'', hrest, hroom''⟩ := (hf v).goes_on a' n hroom'
    refine ⟨more ++ last, w, a'', ?_, hroom''⟩
    rw [← feed_feed]
    exact run_bind_eq_some_iff.mpr ⟨_, hx.steady hrun last, hrest⟩

/-- A name more takes room for one request. -/
theorem Room.cons_name {a : Allocator} {n : Nat} (hroom : a.Room (n + 1)) {name : String}
    {rest : List UInt64} : Room { a with names := name :: a.names, draws := rest } n := by
  obtain ⟨hnames, hports⟩ := hroom
  refine ⟨?_, Nat.le_of_succ_le hports⟩
  rw [List.length_cons]
  omega

theorem Room.cons_port {a : Allocator} {n : Nat} (hroom : a.Room (n + 1)) {port : UInt16}
    {rest : List UInt64} : Room { a with ports := port :: a.ports, draws := rest } n := by
  obtain ⟨hnames, hports⟩ := hroom
  refine ⟨Nat.le_of_succ_le hnames, ?_⟩
  rw [List.length_cons]
  omega

/-- One of the names that repeat a character is free. -/
theorem exists_free_name {a : Allocator} (hlt : a.names.length < ServiceName.alphabet.length) :
    ∃ c ∈ ServiceName.alphabet,
      String.ofList (List.replicate ServiceName.generatedLength c) ∉ a.names := by
  have hnodup : (ServiceName.alphabet.map fun c =>
      String.ofList (List.replicate ServiceName.generatedLength c)).Nodup := by decide +kernel
  obtain ⟨name, hname, hfree⟩ := exists_not_mem_of_length_lt hnodup
    (show a.names.length < _ by rwa [List.length_map])
  obtain ⟨c, hc, rfl⟩ := List.mem_map.mp hname
  exact ⟨c, hc, hfree⟩

/-- One of the least ports is free. -/
theorem exists_free_port {a : Allocator} (hlt : a.ports.length < ServiceName.alphabet.length) :
    ∃ port : UInt16, ClientPort.least ≤ port.toNat ∧ port ≠ a.clientPort ∧ port ∉ a.ports := by
  let ports := (List.range (ServiceName.alphabet.length + 1)).map fun n =>
    UInt16.ofNat (ClientPort.least + n)
  have hnodup : ports.Nodup := by decide +kernel
  have hrange : ∀ port ∈ ports, ClientPort.least ≤ port.toNat := by
    intro port hport
    obtain ⟨n, hn, rfl⟩ := List.mem_map.mp hport
    have hlt := List.mem_range.mp hn
    rw [ServiceName.alphabet_length] at hlt
    rw [UInt16.toNat_ofNat', ClientPort.least]
    omega
  obtain ⟨port, hport, hfree⟩ := exists_not_mem_of_length_lt hnodup
    (show (a.clientPort :: a.ports).length < _ by
      rw [List.length_map, List.length_range, List.length_cons]
      omega)
  obtain ⟨hne, hfree⟩ := not_or.mp (mt List.mem_cons.mpr hfree)
  exact ⟨port, hrange port hport, hne, hfree⟩

theorem answered_name? : Answered 1 (name? : StateT Allocator Option String) where
  steady {a a' v} h more := by
    obtain ⟨⟨name, rest⟩, hscan, hfound⟩ := Option.map_eq_some_iff.mp h
    obtain ⟨rfl, rfl⟩ := Prod.mk.inj hfound
    exact Option.map_eq_some_iff.mpr ⟨_, scanName?_append hscan more, rfl⟩
  goes_on a n hroom := by
    obtain ⟨hnames, hports⟩ := hroom
    have hlt : a.names.length < ServiceName.alphabet.length := by omega
    obtain ⟨c, hc, hfree⟩ := exists_free_name hlt
    obtain ⟨more, ⟨name, rest⟩, hscan⟩ := @exists_scanName?
      (fun name => !a.names.contains name) c hc (by simpa using hfree) [] (by decide) a.draws
    refine ⟨more, name, _, Option.map_eq_some_iff.mpr ⟨_, hscan, rfl⟩, ?_⟩
    exact Room.cons_name ⟨hnames, hports⟩

theorem answered_port? : Answered 1 (port? : StateT Allocator Option UInt16) where
  steady h more := by
    obtain ⟨⟨port, rest⟩, hscan, hfound⟩ := Option.map_eq_some_iff.mp h
    obtain ⟨rfl, rfl⟩ := Prod.mk.inj hfound
    exact Option.map_eq_some_iff.mpr ⟨_, scanPort?_append hscan more, rfl⟩
  goes_on a n hroom := by
    obtain ⟨hnames, hports⟩ := hroom
    have hlt : a.ports.length < ServiceName.alphabet.length := by omega
    obtain ⟨port, hrange, hne, hfree⟩ := exists_free_port hlt
    obtain ⟨more, ⟨found, rest⟩, hscan⟩ := @exists_scanPort?
      (fun port => port != a.clientPort && !a.ports.contains port) port hrange
      (by simpa using ⟨hne, hfree⟩) a.draws
    refine ⟨more, found, _, Option.map_eq_some_iff.mpr ⟨_, hscan, rfl⟩, ?_⟩
    exact Room.cons_port ⟨hnames, hports⟩

theorem answered_claim? (wish : String) :
    Answered 1 (claim? wish : StateT Allocator Option String) where
  steady {a a' v} h more := by
    rcases claim?_spec h with ⟨hne, hnot, rfl, rfl⟩ | ⟨htaken, hname⟩
    · exact claim?_of_free (by simpa using hne) (by simpa [feed] using hnot)
    · exact (claim?_of_taken (a := a.feed more) htaken).trans (answered_name?.steady hname more)
  goes_on a n hroom := by
    by_cases htaken : wish = "" ∨ wish ∈ a.names
    · obtain ⟨more, name, a', hname, hroom'⟩ := answered_name?.goes_on a n hroom
      exact ⟨more, name, a', (claim?_of_taken (a := a.feed more) htaken).trans hname, hroom'⟩
    · obtain ⟨hne, hnot⟩ := not_or.mp htaken
      refine ⟨[], wish, _, claim?_of_free (by simpa using hne) (by simpa [feed] using hnot), ?_⟩
      exact hroom.cons_name

end Allocator

namespace Allotment

/-- **Whatever is drawn, more draws bring an allotment.** -/
theorem exists_draw? (clientPort : UInt16) (wish : String) (draws : List UInt64) :
    ∃ more a, draw? clientPort wish (draws ++ more) = some a := by
  have hanswered : Allocator.Answered 8 (ofAllocator? wish) :=
    (Allocator.answered_claim? _).bind fun _ => Allocator.answered_name?.bind fun _ =>
      Allocator.answered_port?.bind fun _ => Allocator.answered_port?.bind fun _ =>
        Allocator.answered_name?.bind fun _ => Allocator.answered_port?.bind fun _ =>
          Allocator.answered_port?.bind fun _ => Allocator.answered_port?.bind fun _ =>
            Allocator.answered_pure _
  have hle : 0 + (0 + 8) ≤ ServiceName.alphabet.length := by decide
  have hroom : Allocator.Room { clientPort, draws } (0 + 8) := ⟨hle, hle⟩
  obtain ⟨more, a, last, hrun, _⟩ := hanswered.goes_on _ 0 hroom
  exact ⟨more, a, Option.map_eq_some_iff.mpr ⟨_, hrun, rfl⟩⟩

end Allotment

end Provisioning
