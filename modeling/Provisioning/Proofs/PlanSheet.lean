/-
**What a plan says.**

A plan is only a text.  The run that comes after it does not look at it: it finds its names, its
ports and the number of its questions by other means, and so a plan may say one thing and the run do
another.  To hold the one against the other, the text has to be read.  A **sheet** is what is read
in it, and its text is laid out here line by line, with nothing of the request or the configuration
in sight.

What stands in the lines is in part the user's: a node may be called like a line, and two nodes may
be taken for one.  The name of the worker, the number of questions and the pause can still be read
in one way only, from the end of the text, since nothing of the user's stands there but a name
without blanks.  So can the port from its beginning, behind the base URL that is known.

Main definitions:

* `Report.Sheet`, `Report.Sheet.text` — **what a plan says**, and the text that says it;
* `Report.Sheet.Legible` — the name of the worker can be told from the words around it;
* `Report.sheet` — the sheet of a request and a configuration.

Main results:

* `Report.Sheet.text_unique` — **a text says one thing only**;
* `Report.plan_eq_text` — the plan of a valid request says what its sheet says.
-/

import Provisioning.Proofs.Allocator
import Provisioning.Report.Plan

set_option relaxedAutoImplicit false
set_option autoImplicit false

namespace Provisioning.Report

/-! ### Sheets -/

/-- **What a plan says.** -/
structure Sheet where
  backend : String
  clientPort : Nat
  nodes : List String
  plugins : List String
  /-- The name of the worker; none if it is to be generated. -/
  worker : Option String
  /-- How often each cluster is asked for at most. -/
  checks : Nat
  /-- The milliseconds between two questions. -/
  interval : Nat
  policy : Readiness.Policy

namespace Sheet

variable (s : Sheet)

/-- The name of the worker can be told from the words around it. -/
def Legible : Prop := ∀ name, s.worker = some name → ServiceName.Accepted name

/-- What stands in front of the port. -/
def head : String := "Backend: " ++ s.backend ++ "\n" ++ "Client port: "

/-- What stands behind the port, up to the line of the worker. -/
def lists : String :=
  "\n" ++ "Nodes: " ++ listed s.nodes ++ "\n" ++
  (if s.plugins.isEmpty then "" else "Plugins: " ++ listed s.plugins ++ "\n") ++
  "\nStages:\n" ++
  "  1. zookeeper  (generated name)\n" ++
  "  2. broker     (generated name, bound to zookeeper)\n"

/-- The line of the worker. -/
def workerLine : String :=
  match s.worker with
  | none => "  3. worker     (generated name, bound to broker)\n"
  | some name => "  3. worker     " ++ name ++ " (bound to broker)\n"

/-- The line about the questions. -/
def readinessLine : String :=
  "Readiness: up to " ++ toString s.checks ++ " checks every " ++ toString s.interval ++ "ms, " ++
    "on timeout: " ++ s.policy.title ++ "\n"

/-- **The text of a sheet.** -/
def text : String :=
  s.head ++ toString s.clientPort ++ s.lists ++ s.workerLine ++ "\n" ++ s.readinessLine ++
    "\nValidation: PASSED\n"

end Sheet

/-! ### Reading a text -/

/-- What stands behind the last sign of a kind. -/
theorem eq_of_append_behind {d : Char} {front other back rest : List Char} (hback : d ∉ back)
    (hrest : d ∉ rest) (h : front ++ d :: back = other ++ d :: rest) :
    front = other ∧ back = rest := by
  rcases List.append_eq_append_iff.mp h with ⟨between, rfl, hsplit⟩ | ⟨between, rfl, hsplit⟩
  · cases between with
    | nil => exact ⟨(List.append_nil _).symm, (List.cons.inj hsplit).2⟩
    | cons c between =>
        obtain ⟨rfl, rfl⟩ := List.cons.inj hsplit
        exact absurd (List.mem_append_right between List.mem_cons_self) hback
  · cases between with
    | nil => exact ⟨List.append_nil _, (List.cons.inj hsplit).2.symm⟩
    | cons c between =>
        obtain ⟨rfl, rfl⟩ := List.cons.inj hsplit
        exact absurd (List.mem_append_right between List.mem_cons_self) hrest

/-- What stands in front of the first sign of a kind. -/
theorem eq_of_append_before {d : Char} {front other back rest : List Char} (hfront : d ∉ front)
    (hother : d ∉ other) (h : front ++ d :: back = other ++ d :: rest) : front = other := by
  have hreverse := congrArg List.reverse h
  simp only [List.reverse_append, List.reverse_cons, List.append_assoc, List.singleton_append]
    at hreverse
  have hparts := eq_of_append_behind (fun hd => hfront (List.mem_reverse.mp hd))
    (fun hd => hother (List.mem_reverse.mp hd)) hreverse
  exact List.reverse_inj.mp hparts.2

/-- The last word of a text. -/
theorem lastWord_unique {front other word rest : String} (hword : ' ' ∉ word.toList)
    (hrest : ' ' ∉ rest.toList) (h : front ++ " " ++ word = other ++ " " ++ rest) :
    front = other ∧ word = rest := by
  have hlists := congrArg String.toList h
  simp only [String.toList_append, List.append_assoc] at hlists
  obtain ⟨hfront, hword⟩ := eq_of_append_behind hword hrest hlists
  exact ⟨String.toList_inj.mp hfront, String.toList_inj.mp hword⟩

/-- A number is written in digits. -/
theorem isDigit_of_mem_toString {n : Nat} {c : Char} (h : c ∈ (toString n).toList) :
    c.isDigit = true := by
  rw [Nat.toString_eq_ofList_toDigits, String.toList_ofList] at h
  exact Nat.isDigit_of_mem_toDigits (by decide) (by decide) h

theorem not_mem_toString {n : Nat} {c : Char} (hc : c.isDigit = false) :
    c ∉ (toString n).toList := by
  intro h
  rw [isDigit_of_mem_toString h] at hc
  cases hc

/-- A number can be read from its digits. -/
theorem eq_of_toString_eq {m n : Nat} (h : toString m = toString n) : m = n := by
  rw [Nat.toString_eq_ofList_toDigits, Nat.toString_eq_ofList_toDigits] at h
  have hdigits : Nat.toDigits 10 m = Nat.toDigits 10 n := by
    rw [← String.toList_ofList (l := Nat.toDigits 10 m), h, String.toList_ofList]
  rw [← Nat.ofDigitChars_ten_toDigits (n := m), hdigits, Nat.ofDigitChars_ten_toDigits]

/-- There is no blank in the title of a policy. -/
theorem blank_not_mem_title (p : Readiness.Policy) : ' ' ∉ (p.title ++ "\n").toList := by
  cases p with
  | proceed => decide
  | fail => decide

namespace Sheet

variable {s t : Sheet}

/-- The line about the questions, with its blanks apart. -/
theorem readinessLine_eq (s : Sheet) (front : String) : front ++ s.readinessLine =
    front ++ "Readiness: up to" ++ " " ++ toString s.checks ++ " checks every" ++ " " ++
      toString s.interval ++ "ms, on timeout:" ++ " " ++ (s.policy.title ++ "\n") := by
  have hup : "Readiness: up to " = "Readiness: up to" ++ " " := by
    simp only [String.reduceAppend]
  have hevery : " checks every " = " checks every" ++ " " := by
    simp only [String.reduceAppend]
  have htimeout (rest : String) :
      "ms, on timeout:" ++ (" " ++ rest) = "ms, " ++ ("on timeout: " ++ rest) := by
    simp only [← String.append_assoc, String.reduceAppend]
  unfold readinessLine
  simp only [hup, hevery, htimeout, String.append_assoc]

/-- The line about the questions can be read in one way only. -/
theorem readinessLine_unique {front other : String}
    (h : front ++ s.readinessLine = other ++ t.readinessLine) :
    front = other ∧ s.checks = t.checks ∧ s.interval = t.interval ∧ s.policy = t.policy := by
  rw [readinessLine_eq, readinessLine_eq] at h
  obtain ⟨h, hpolicy⟩ := lastWord_unique (blank_not_mem_title _) (blank_not_mem_title _) h
  replace h := (String.append_left_inj _).mp h
  obtain ⟨h, hinterval⟩ := lastWord_unique (not_mem_toString rfl) (not_mem_toString rfl) h
  replace h := (String.append_left_inj _).mp h
  obtain ⟨h, hchecks⟩ := lastWord_unique (not_mem_toString rfl) (not_mem_toString rfl) h
  refine ⟨(String.append_left_inj _).mp h, eq_of_toString_eq hchecks,
    eq_of_toString_eq hinterval, ?_⟩
  replace hpolicy := (String.append_left_inj _).mp hpolicy
  cases hs : s.policy with
  | proceed =>
      cases ht : t.policy with
      | proceed => rfl
      | fail => simp [hs, ht, Readiness.Policy.title] at hpolicy
  | fail =>
      cases ht : t.policy with
      | proceed => simp [hs, ht, Readiness.Policy.title] at hpolicy
      | fail => rfl

/-- The lines of the workers, with the blanks apart that tell them from one another. -/
theorem workerLine_of_none {front : String} (h : s.worker = none) : front ++ s.workerLine =
    front ++ "  3. worker     (generated name," ++ " " ++ "bound" ++ " to broker)\n" := by
  rw [workerLine, h]
  simp only [String.append_assoc]
  rfl

theorem workerLine_of_some {front name : String} (h : s.worker = some name) :
    front ++ s.workerLine =
      front ++ "  3. worker    " ++ " " ++ name ++ " " ++ "(bound" ++ " to broker)\n" := by
  rw [workerLine, h]
  simp only [String.append_assoc]
  rfl

/-- There is no blank in the name of a worker. -/
theorem Legible.blank_not_mem (hs : s.Legible) {name : String} (h : s.worker = some name) :
    ' ' ∉ name.toList := by
  intro hblank
  have hallowed := (hs name h).allowed ' ' hblank
  revert hallowed
  decide

/-- The line of the worker can be read in one way only. -/
theorem workerLine_unique (hs : s.Legible) (ht : t.Legible) {front other : String}
    (h : front ++ s.workerLine = other ++ t.workerLine) : s.worker = t.worker := by
  -- The last word but two is in brackets just if there is a name in front of it.
  cases hworker : s.worker with
  | none =>
      rw [workerLine_of_none hworker] at h
      cases hother : t.worker with
      | none => rfl
      | some name =>
          rw [workerLine_of_some hother] at h
          have hwords := (lastWord_unique (by decide) (by decide)
            ((String.append_left_inj _).mp h)).2
          exact absurd hwords (by decide)
  | some name =>
      rw [workerLine_of_some hworker] at h
      cases hother : t.worker with
      | none =>
          rw [workerLine_of_none hother] at h
          have hwords := (lastWord_unique (by decide) (by decide)
            ((String.append_left_inj _).mp h)).2
          exact absurd hwords (by decide)
      | some called =>
          rw [workerLine_of_some hother] at h
          have hfronts := (lastWord_unique (by decide) (by decide)
            ((String.append_left_inj _).mp h)).1
          obtain ⟨-, rfl⟩ := lastWord_unique (hs.blank_not_mem hworker)
            (ht.blank_not_mem hother) hfronts
          rfl

/-- The port can be read behind the base URL. -/
theorem clientPort_unique {rest others : String} (hbackend : s.backend = t.backend)
    (h : s.head ++ toString s.clientPort ++ s.lists ++ rest =
      t.head ++ toString t.clientPort ++ t.lists ++ others) : s.clientPort = t.clientPort := by
  have hlists (s : Sheet) : ∃ more, s.lists = "\n" ++ more := by
    simp only [lists, String.append_assoc]
    exact ⟨_, rfl⟩
  obtain ⟨more, hmore⟩ := hlists s
  obtain ⟨further, hfurther⟩ := hlists t
  rw [head, head, hbackend, hmore, hfurther] at h
  simp only [String.append_assoc, String.append_right_inj] at h
  have hlists := congrArg String.toList h
  simp only [String.toList_append] at hlists
  have hport := eq_of_append_before (not_mem_toString rfl) (not_mem_toString rfl) hlists
  exact eq_of_toString_eq (String.toList_inj.mp hport)

/-- **A text says one thing only** of the worker, of the questions and of the port. -/
theorem text_unique (hs : s.Legible) (ht : t.Legible) (hbackend : s.backend = t.backend)
    (h : s.text = t.text) : s.clientPort = t.clientPort ∧ s.worker = t.worker ∧
      s.checks = t.checks ∧ s.interval = t.interval ∧ s.policy = t.policy := by
  replace h := (String.append_left_inj _).mp h
  obtain ⟨hfront, hchecks, hinterval, hpolicy⟩ := readinessLine_unique h
  replace hfront := (String.append_left_inj _).mp hfront
  exact ⟨clientPort_unique hbackend hfront, workerLine_unique hs ht hfront, hchecks, hinterval,
    hpolicy⟩

end Sheet

/-! ### The plan of a request -/

/-- **The sheet of a request** that is valid with a port, and of a configuration. -/
def sheet (r : Request) (c : Config) (port : UInt16) : Sheet where
  backend := c.apiUrl
  clientPort := port.toNat
  nodes := r.nodes
  plugins := r.plugins
  worker := if (ServiceName.sanitize r.serviceName).isEmpty then none
    else some (ServiceName.sanitize r.serviceName)
  checks := c.maxRetries.toNat + 1
  interval := c.pollIntervalMs.toNat
  policy := c.readinessPolicy

variable {r : Request} {c : Config} {port : UInt16}

theorem worker_sheet_eq_none_iff :
    (sheet r c port).worker = none ↔ ServiceName.sanitize r.serviceName = "" := by
  simp only [sheet, String.isEmpty_iff]
  by_cases hempty : ServiceName.sanitize r.serviceName = ""
  · simp [hempty]
  · simp [hempty]

theorem worker_sheet_eq_some_iff {name : String} : (sheet r c port).worker = some name ↔
    ServiceName.sanitize r.serviceName ≠ "" ∧ ServiceName.sanitize r.serviceName = name := by
  simp only [sheet, String.isEmpty_iff]
  by_cases hempty : ServiceName.sanitize r.serviceName = ""
  · simp [hempty]
  · simp [hempty]

/-- What is accepted of a wish can be told from the words around it. -/
theorem legible_sheet (r : Request) (c : Config) (port : UInt16) : (sheet r c port).Legible := by
  intro name hname
  obtain ⟨hne, rfl⟩ := worker_sheet_eq_some_iff.mp hname
  exact ServiceName.accepted_sanitize hne

/-- The port of a valid request. -/
theorem check_of_validate (hvalid : r.validate = .ok port) :
    ClientPort.check r.clientPort = .ok port := by
  rw [Request.validate] at hvalid
  cases hcheck : ClientPort.check r.clientPort with
  | error reason =>
      rw [hcheck] at hvalid
      cases hvalid
  | ok checked =>
      rw [hcheck] at hvalid
      cases hempty : r.nodes.isEmpty with
      | true =>
          simp only [hempty] at hvalid
          cases hvalid
      | false =>
          simp only [hempty] at hvalid
          exact hvalid

/-- A valid port is shown as the number that it is. -/
theorem portText_of_validate (hvalid : r.validate = .ok port) :
    portText r.clientPort = toString port.toNat := by
  have hcheck := check_of_validate hvalid
  cases hgiven : r.clientPort with
  | none =>
      rw [hgiven, ClientPort.check_none] at hcheck
      cases hcheck
  | some p =>
      rw [hgiven, ClientPort.check_some] at hcheck
      split at hcheck
      · rename_i hrange
        obtain rfl := Except.ok.inj hcheck
        obtain ⟨n, hn⟩ := Int.eq_ofNat_of_zero_le (by omega : 0 ≤ p.toInt)
        simp only [ClientPort.least, ClientPort.greatest, hn] at hrange
        have hsize : n < UInt16.size := by
          rw [UInt16.size]
          omega
        rw [portText, hn, Int.toNat_natCast, UInt16.toNat_ofNat_of_lt' hsize]
        rfl
      · cases hcheck

/-- Where the number of questions does not overflow, it is shown as it is. -/
theorem readinessLine_sheet (hretries : c.maxRetries.toNat < UInt32.size - 1) :
    readinessLine c = (sheet r c port).readinessLine := by
  have hchecks : (c.maxRetries + 1).toNat = c.maxRetries.toNat + 1 := by
    rw [UInt32.toNat_add]
    exact Nat.mod_eq_of_lt (by simp only [UInt32.size, UInt32.reduceToNat] at hretries ⊢; omega)
  have hshown : toString (c.maxRetries + 1) = toString (c.maxRetries.toNat + 1) := by
    rw [← hchecks]
    rfl
  unfold readinessLine Sheet.readinessLine
  rw [hshown]
  simp only [String.append_assoc]
  rfl

theorem workerLine_sheet : workerLine r = (sheet r c port).workerLine := by
  rw [workerLine, Sheet.workerLine]
  cases hworker : (sheet r c port).worker with
  | none =>
      rw [worker_sheet_eq_none_iff.mp hworker]
      rfl
  | some name =>
      obtain ⟨hne, rfl⟩ := worker_sheet_eq_some_iff.mp hworker
      exact if_neg (mt String.isEmpty_iff.mp hne)

/-- **The plan of a valid request** says what its sheet says. -/
theorem plan_eq_text (hvalid : r.validate = .ok port)
    (hretries : c.maxRetries.toNat < UInt32.size - 1) : plan r c = (sheet r c port).text := by
  unfold plan Sheet.text
  rw [portText_of_validate hvalid, readinessLine_sheet hretries, workerLine_sheet]
  simp only [Sheet.head, Sheet.lists, sheet, String.append_assoc]
  rfl

end Provisioning.Report
