/-
**The URL of a status call.**

The name of a cluster comes from the command line or from the backend, and may be any text.  Before
it is asked for it becomes a part of a URL, below a base URL that may end with slashes, and if
anything of it could be taken for another part, the question would be one about something else.

Which texts are base URLs is for the reader of URLs to say, and it takes many.  Here they are those
that are written as one expects it: a scheme, a host that the reader knows, perhaps a port, and any
number of slashes.  For them the whole way from the text to the parts of the URL is followed.

Main definitions:

* `Url.IsHostText`, `Url.WebBase` — **a base URL of the web**, and what its parts may hold;
* `Url.WebBase.text` — how it is written.

Main results:

* `Url.WebBase.ofText_endpoint` — the URL of a path below the base;
* `Url.WebBase.containersUrl_eq` — **the URL of a cluster's container**;
* `container_url_keeps_name` — what can be read from it.
-/

import Provisioning.Backend.Client
import Provisioning.Proofs.DecimalText
import Provisioning.Proofs.EndpointText
import Provisioning.Proofs.NameSegments

set_option relaxedAutoImplicit false
set_option autoImplicit false

namespace Provisioning

namespace Url

/-! ### Base URLs of the web -/

/-- The characters that have a meaning around a host, or are dropped from URLs. -/
def isDelimiter (c : Char) : Bool := "/?#\\@\t\n\r".toList.contains c

/-- **A host as it is written** in a URL: something without brackets and colons, or anything else in
brackets. -/
inductive IsHostText : List Char → Prop
  | plain {host : List Char} (hne : host ≠ [])
      (hhost : ∀ c ∈ host, isDelimiter c = false ∧ c ∉ [':', '[', ']']) : IsHostText host
  | bracketed {inner : List Char} (hinner : ∀ c ∈ inner, isDelimiter c = false ∧ c ∉ ['[', ']']) :
      IsHostText ('[' :: inner ++ [']'])

/-- A port as it is written behind a host: digits of a number up to the greatest port, or none. -/
structure IsPortText (digits : List Char) : Prop where
  isDigit : ∀ c ∈ digits, c.isDigit = true
  decimal_le : Digits.decimal digits ≤ 65535

/-- **A base URL of the web**, in its parts. -/
structure WebBase where
  /-- Whether the scheme is the secure one. -/
  secure : Bool
  host : List Char
  /-- The digits behind the colon, if there is one. -/
  port : Option (List Char)
  slashes : Nat
  host_text : IsHostText host
  /-- The reader knows the host. -/
  host_known : ∃ known, Host.ofWeb host = .ok known
  port_text : ∀ digits ∈ port, IsPortText digits

namespace WebBase

/-- The scheme. -/
def scheme (b : WebBase) : List Char := if b.secure then "https".toList else "http".toList

/-- The port with its colon. -/
def portPart (b : WebBase) : List Char :=
  match b.port with
  | none => []
  | some digits => ':' :: digits

/-- The characters in front of the slashes at the end. -/
def front (b : WebBase) : List Char := b.scheme ++ "://".toList ++ b.host ++ b.portPart

/-- How a base URL is written. -/
def text (b : WebBase) : String := String.ofList (b.front ++ List.replicate b.slashes '/')

end WebBase

/-! ### Characters of hosts and ports -/

section Authority

variable {host digits : List Char} {c : Char}

theorem IsHostText.ne_nil (h : IsHostText host) : host ≠ [] := by
  cases h with
  | plain hne _ => exact hne
  | bracketed _ => exact List.cons_ne_nil _ _

theorem IsHostText.not_isDelimiter (h : IsHostText host) (hc : c ∈ host) :
    isDelimiter c = false := by
  cases h with
  | plain _ hhost => exact (hhost c hc).1
  | bracketed hinner =>
      simp only [List.cons_append, List.mem_cons, List.mem_append, List.not_mem_nil,
        or_false] at hc
      rcases hc with rfl | hc | rfl
      · decide
      · exact (hinner c hc).1
      · decide

theorem IsPortText.not_isDelimiter (h : IsPortText digits) (hc : c ∈ digits) :
    isDelimiter c = false := by
  have hdelimiters : ∀ d ∈ "/?#\\@\t\n\r".toList, d.isDigit = false := by simp
  rw [isDelimiter, Bool.eq_false_iff, ne_eq, List.contains_iff_mem]
  intro hmem
  have hdigit := h.isDigit c hc
  rw [hdelimiters c hmem] at hdigit
  cases hdigit

/-- Without brackets and colons a host goes on. -/
theorem hostLength_append (hhost : ∀ c ∈ host, c ∉ [':', '[', ']']) (rest : List Char) :
    hostLength false (host ++ rest) = host.length + hostLength false rest := by
  induction host with
  | nil => simp
  | cons c host ih =>
      obtain ⟨hc, hhost⟩ := List.forall_mem_cons.mp hhost
      simp only [List.mem_cons, List.not_mem_nil, or_false, not_or] at hc
      obtain ⟨hcolon, hopen, hclose⟩ := hc
      rw [List.cons_append, hostLength, if_neg (by simp [hcolon]), if_neg hopen, if_neg hclose,
        ih hhost, List.length_cons]
      omega

/-- In brackets it goes on as far as the closing one. -/
theorem hostLength_bracketed {inner : List Char} (hinner : ∀ c ∈ inner, c ∉ ['[', ']'])
    (rest : List Char) :
    hostLength true (inner ++ ']' :: rest) = inner.length + 1 + hostLength false rest := by
  induction inner with
  | nil =>
      rw [List.nil_append, hostLength, if_neg (by simp), if_neg (by decide), if_pos rfl,
        List.length_nil]
      omega
  | cons c inner ih =>
      obtain ⟨hc, hinner⟩ := List.forall_mem_cons.mp hinner
      simp only [List.mem_cons, List.not_mem_nil, or_false, not_or] at hc
      obtain ⟨hopen, hclose⟩ := hc
      rw [List.cons_append, hostLength, if_neg (by simp), if_neg hopen, if_neg hclose, ih hinner,
        List.length_cons]
      omega

/-- A host ends where the port begins. -/
theorem IsHostText.hostLength_eq (h : IsHostText host) (rest : List Char) :
    hostLength false (host ++ rest) = host.length + hostLength false rest := by
  cases h with
  | plain _ hhost => exact hostLength_append (fun c hc => (hhost c hc).2) rest
  | @bracketed inner hinner =>
      have htext : '[' :: inner ++ [']'] ++ rest = '[' :: (inner ++ ']' :: rest) := by simp
      rw [htext, hostLength, if_neg (by decide), if_pos rfl,
        hostLength_bracketed (fun c hc => (hinner c hc).2)]
      simp only [List.length_cons, List.length_append, List.length_nil]
      omega

/-- The reader knows the port. -/
theorem IsPortText.known (h : IsPortText digits) : ∃ number, port? digits = .ok number := by
  rw [port?, Digits.number?_of_isDigit h.isDigit]
  simp only [Nat.not_lt.mpr h.decimal_le, if_false]
  split
  · exact ⟨_, rfl⟩
  · exact ⟨_, rfl⟩

end Authority

/-! ### Reading what is written -/

section Reading

variable {front rest host port : List Char}

/-- A text without the mark is not split. -/
theorem splitLast_eq_none {mark : Char} (h : mark ∉ front) : splitLast mark front = none := by
  have hall : ∀ c ∈ front.reverse, (c != mark) = true := by
    intro c hc
    rw [bne_iff_ne]
    rintro rfl
    exact h (List.mem_reverse.mp hc)
  have hspan := @span_append _ front.reverse [] hall rfl
  rw [List.append_nil] at hspan
  rw [splitLast, hspan]

/-- No delimiter is another character that ends a part. -/
theorem ne_of_not_isDelimiter {c d : Char} (hc : isDelimiter c = false)
    (hd : isDelimiter d = true) : c ≠ d := by
  rintro rfl
  rw [hc] at hd
  cases hd

/-- What is dropped from URLs is no part of a host. -/
theorem not_isDropped {c : Char} (hc : isDelimiter c = false) : isDropped c = false := by
  simp [isDropped, ne_of_not_isDelimiter hc (by decide : isDelimiter '\t' = true),
    ne_of_not_isDelimiter hc (by decide : isDelimiter '\n' = true),
    ne_of_not_isDelimiter hc (by decide : isDelimiter '\r' = true)]

/-- **The authority of a web URL**, and what follows from the first slash on. -/
theorem withAuthority_eq {scheme known : List Char} {number : Option Nat}
    (hspecial : isSpecial scheme = true)
    (hauthority : ∀ c ∈ host ++ port, isDelimiter c = false)
    (hlength : hostLength false (host ++ port) = host.length) (hne : host ≠ [])
    (hhost : Host.ofWeb host = .ok known) (hport : port? (port.drop 1) = .ok number)
    (rest : List Char) :
    withAuthority scheme (host ++ port ++ '/' :: rest) =
      .ok (withPath
        { scheme, host := some known
          port := if number = usualPorts.lookup scheme then none else number
          path := .plain [] } true ('/' :: rest)) := by
  have hends : ∀ c ∈ host ++ port, (!endsAuthority true c) = true := by
    intro c hc
    have hkept := hauthority c hc
    simp [endsAuthority, ne_of_not_isDelimiter hkept (by decide : isDelimiter '/' = true),
      ne_of_not_isDelimiter hkept (by decide : isDelimiter '?' = true),
      ne_of_not_isDelimiter hkept (by decide : isDelimiter '#' = true),
      ne_of_not_isDelimiter hkept (by decide : isDelimiter '\\' = true)]
  have hspan : (host ++ port ++ '/' :: rest).span (!endsAuthority true ·) =
      (host ++ port, '/' :: rest) := span_append hends rfl
  have huser : splitLast '@' (host ++ port) = none := splitLast_eq_none fun hmem =>
    absurd (hauthority '@' hmem) (by decide)
  have hsplit : (host ++ port).splitAt (hostLength false (host ++ port)) = (host, port) := by
    rw [hlength, List.splitAt_eq, List.take_left, List.drop_left]
  have hbehind : port.span (· != '\\') = (port, []) := by
    have hall : ∀ c ∈ port, (c != '\\') = true := fun c hc => bne_iff_ne.mpr
      (ne_of_not_isDelimiter (hauthority c (List.mem_append_right _ hc)) (by decide))
    have hspan := @span_append _ port [] hall rfl
    rwa [List.append_nil] at hspan
  have hnobody : splitFirst ':' [] = ([], []) := rfl
  have hsome : host.isEmpty = false := by simpa using hne
  simp only [withAuthority, hspecial, hspan, huser, hsplit, hhost, hbehind, hport, hsome, hnobody,
    Bool.false_and, Bool.false_eq_true, if_true, if_false, List.nil_append, Percent.encode_nil,
    List.isEmpty_nil, Bool.and_self, Bool.not_true, Bool.and_false]
  rfl

/-- A text that begins and ends with visible characters, and has no tabs and line breaks, is left
as it is. -/
theorem cleaned_eq {first last : Char} {middle : List Char} (hfirst : 0x20 < first.toNat)
    (hlast : 0x20 < last.toNat) (hkept : ∀ c ∈ first :: middle ++ [last], isDropped c = false) :
    cleaned (first :: middle ++ [last]) = first :: middle ++ [last] := by
  have hfilter : (first :: middle ++ [last]).filter (!isDropped ·) = first :: middle ++ [last] := by
    rw [List.filter_eq_self]
    intro c hc
    rw [hkept c hc]
    rfl
  rw [cleaned, List.cons_append, List.dropWhile_cons_of_neg (by simpa using hfirst),
    ← List.cons_append, List.reverse_concat, List.dropWhile_cons_of_neg (by simpa using hlast),
    ← List.reverse_concat, List.reverse_reverse, hfilter]

end Reading

/-! ### Below a base URL -/

namespace WebBase

variable (b : WebBase)

theorem not_isDelimiter {c : Char} (hc : c ∈ b.host ++ b.portPart) : isDelimiter c = false := by
  rcases List.mem_append.mp hc with hc | hc
  · exact b.host_text.not_isDelimiter hc
  · rw [portPart] at hc
    cases hport : b.port with
    | none =>
        rw [hport] at hc
        cases hc
    | some digits =>
        rw [hport] at hc
        rcases List.mem_cons.mp hc with rfl | hc
        · decide
        · exact (b.port_text digits hport).not_isDelimiter hc

/-- The host ends where the port begins. -/
theorem hostLength_eq : hostLength false (b.host ++ b.portPart) = b.host.length := by
  have hport : hostLength false b.portPart = 0 := by
    rw [portPart]
    cases b.port with
    | none => rfl
    | some digits => rfl
  rw [b.host_text.hostLength_eq, hport, Nat.add_zero]

theorem port_known : ∃ number, port? (b.portPart.drop 1) = .ok number := by
  rw [portPart]
  cases hport : b.port with
  | none => exact ⟨none, rfl⟩
  | some digits => exact (b.port_text digits hport).known

theorem isSpecial_scheme : isSpecial b.scheme = true := by
  rw [scheme]
  split
  · decide
  · decide

theorem isFile_scheme : isFile b.scheme = false := by
  rw [scheme]
  split
  · decide
  · decide

/-- The scheme is read. -/
theorem scheme?_eq (rest : List Char) :
    scheme? (b.scheme ++ ':' :: rest) = some (b.scheme, rest) := by
  rw [scheme]
  split
  · rfl
  · rfl

end WebBase

end Url

namespace Backend

open Url

/-- Where requests go, in characters. -/
theorem toList_endpoint {c : Client} {b : WebBase} (hbase : c.baseUrl = b.text) (path : String) :
    (c.endpoint path).toList =
      b.scheme ++ "://".toList ++ (b.host ++ b.portPart) ++ "/api/".toList ++ path.toList := by
  have hend : (b.scheme ++ "://".toList ++ (b.host ++ b.portPart)).getLast? ≠ some '/' := by
    have hne : b.host ++ b.portPart ≠ [] := by
      intro hnil
      exact b.host_text.ne_nil (List.append_eq_nil_iff.mp hnil).1
    rw [List.getLast?_append_of_ne_nil _ hne]
    intro hlast
    exact ne_of_not_isDelimiter (b.not_isDelimiter (List.mem_of_getLast? hlast)) (by decide) rfl
  have htext : b.text.toList =
      b.scheme ++ "://".toList ++ (b.host ++ b.portPart) ++ List.replicate b.slashes '/' := by
    simp [WebBase.text, WebBase.front]
  rw [Client.endpoint, String.toList_ofList, hbase, htext, dropFinalSlashes_eq hend]

/-- There is nothing to be dropped. -/
theorem cleaned_endpoint {c : Client} {b : WebBase} (hbase : c.baseUrl = b.text) :
    cleaned (c.endpoint "containers").toList = (c.endpoint "containers").toList := by
  obtain ⟨middle, hscheme⟩ : ∃ middle, b.scheme ++ "://".toList = 'h' :: middle := by
    rw [WebBase.scheme]
    split
    · exact ⟨_, rfl⟩
    · exact ⟨_, rfl⟩
  have htext : (c.endpoint "containers").toList =
      'h' :: (middle ++ (b.host ++ b.portPart) ++ "/api/container".toList) ++ ['s'] := by
    rw [toList_endpoint hbase, hscheme]
    simp
  have hkept : ∀ d ∈ (c.endpoint "containers").toList, isDropped d = false := by
    intro d hd
    have hfront : ∀ e ∈ b.scheme ++ "://".toList, isDropped e = false := by
      rw [WebBase.scheme]
      split
      · simp [isDropped]
      · simp [isDropped]
    have hback : ∀ e ∈ "/api/".toList ++ "containers".toList, isDropped e = false := by
      simp [isDropped]
    rw [toList_endpoint hbase, List.append_assoc] at hd
    rcases List.mem_append.mp hd with hd | hd
    · rcases List.mem_append.mp hd with hd | hd
      · exact hfront d hd
      · exact not_isDropped (b.not_isDelimiter hd)
    · exact hback d hd
  rw [htext] at hkept ⊢
  exact cleaned_eq (by decide) (by decide) hkept

/-- **The URL of the containers**: everything of the base URL is where it belongs. -/
theorem ofText_endpoint {c : Client} {b : WebBase} (hbase : c.baseUrl = b.text) :
    ∃ known number, Host.ofWeb b.host = .ok known ∧
      Url.ofText (c.endpoint "containers") = .ok
        { scheme := b.scheme, host := some known, port := number
          path := .segments ["api".toList, "containers".toList] } := by
  obtain ⟨known, hknown⟩ := b.host_known
  obtain ⟨number, hnumber⟩ := b.port_known
  have htext : (c.endpoint "containers").toList = b.scheme ++ ':' ::
      ("//".toList ++ (b.host ++ b.portPart ++ '/' :: "api/containers".toList)) := by
    rw [toList_endpoint hbase]
    simp
  have hslashes : ("//".toList ++
      (b.host ++ b.portPart ++ '/' :: "api/containers".toList)).dropWhile (isSlash true) =
        b.host ++ b.portPart ++ '/' :: "api/containers".toList := by
    obtain ⟨first, rest, hfirst⟩ := List.exists_cons_of_ne_nil b.host_text.ne_nil
    have hdelimiter : isDelimiter first = false := b.host_text.not_isDelimiter (by simp [hfirst])
    have hslash : ¬ isSlash true first = true := by
      simp [isSlash, ne_of_not_isDelimiter hdelimiter (by decide : isDelimiter '/' = true),
        ne_of_not_isDelimiter hdelimiter (by decide : isDelimiter '\\' = true)]
    rw [List.dropWhile_append_of_pos (by simp [isSlash]), hfirst]
    exact List.dropWhile_cons_of_neg hslash
  refine ⟨known, if number = usualPorts.lookup b.scheme then none else number, hknown, ?_⟩
  rw [Url.ofText, cleaned_endpoint hbase, htext, b.scheme?_eq]
  simp only [b.isFile_scheme, b.isSpecial_scheme, if_true, Bool.false_eq_true, if_false, hslashes]
  rw [withAuthority_eq b.isSpecial_scheme (fun d hd => b.not_isDelimiter hd) b.hostLength_eq
    b.host_text.ne_nil hknown hnumber]
  rfl

/-- **The URL of a cluster's container**: one segment more, with the name as it is written. -/
theorem containersUrl_eq {c : Client} {b : WebBase} (hbase : c.baseUrl = b.text) {name : String}
    (hkept : ∀ d ∈ name.toList, isDropped d = false) (hsingle : name ≠ ".")
    (hdouble : name ≠ "..") :
    ∃ known number, Host.ofWeb b.host = .ok known ∧
      c.containersUrl name = .ok
        { scheme := b.scheme, host := some known, port := number
          path := .segments ["api".toList, "containers".toList,
            Percent.encode inSpecialSegment name.toList] } := by
  obtain ⟨known, number, hknown, hread⟩ := ofText_endpoint hbase
  have hname : kept name.toList = name.toList := kept_eq_self hkept
  have hnot_single : kept name.toList ≠ ['.'] := fun h =>
    hsingle (String.toList_inj.mp (hname.symm.trans h))
  have hnot_double : kept name.toList ≠ ['.', '.'] := fun h =>
    hdouble (String.toList_inj.mp (hname.symm.trans h))
  let u : Url := {
    scheme := b.scheme, host := some known, port := number
    path := .segments ["api".toList, "containers".toList] }
  have hpush : u.push? name.toList = _ :=
    push?_of_kept b.isSpecial_scheme rfl (by decide) hnot_single hnot_double
  rw [hname] at hpush
  refine ⟨known, number, hknown, ?_⟩
  rw [Client.containersUrl, hread]
  simp only [u, hpush]
  rfl

end Backend

/-! ### The theorem -/

open Url Backend

/-- **Nothing of a name is lost in the URL of its container**, whatever the name holds, unless it is
of dots alone or has characters that URLs drop. -/
theorem container_url_keeps_name (b : WebBase) (c : Client) (hbase : c.baseUrl = b.text)
    (name : String) (hkept : ∀ d ∈ name.toList, d ≠ '\t' ∧ d ≠ '\n' ∧ d ≠ '\r')
    (hsingle : name ≠ ".") (hdouble : name ≠ "..") :
    ∃ (u : Url) (segment : List Char), c.containersUrl name = .ok u ∧
      u.path = .segments ["api".toList, "containers".toList, segment] ∧
      u.pathString = "/api/containers/" ++ String.ofList segment ∧
      (∀ d ∈ segment, d ≠ '/' ∧ d ≠ '?' ∧ d ≠ '#' ∧ d ≠ '\\') ∧
      u.query = none ∧ u.fragment = none ∧
      (Utf8.decode? (Percent.decode segment)).map String.ofList = some name := by
  have hnone : ∀ d ∈ name.toList, isDropped d = false := by
    intro d hd
    obtain ⟨htab, hfeed, hreturn⟩ := hkept d hd
    simp [isDropped, htab, hfeed, hreturn]
  obtain ⟨known, number, _, hurl⟩ := containersUrl_eq hbase hnone hsingle hdouble
  refine ⟨_, _, hurl, rfl, ?_, ?_, rfl, rfl, ?_⟩
  · apply String.toList_inj.mp
    simp [Url.pathString, Url.pathText, segmentsText]
  · intro d hd
    have hmark := not_isMark_of_mem_encode hd
    simpa [IsMark] using hmark
  · rw [decode?_encode, Option.map_some, String.ofList_toList]

/-- A name with everything that has a meaning in a URL, below a base URL with slashes at its end. -/
theorem container_url_keeps_name_of_marks :
    let c : Client := { baseUrl := "https://[::1]:8443//" }
    let name := "a/b?c#d%2F\\ \u00e9"
    ∃ (u : Url) (segment : List Char), c.containersUrl name = .ok u ∧
      u.pathString = "/api/containers/a%2Fb%3Fc%23d%252F%5C%20%C3%A9" ∧
      u.pathString = "/api/containers/" ++ String.ofList segment ∧
      u.query = none ∧ u.fragment = none ∧
      (Utf8.decode? (Percent.decode segment)).map String.ofList = some name := by
  intro c name
  let b : WebBase := {
    secure := true, host := "[::1]".toList, port := some "8443".toList, slashes := 2
    host_text := @IsHostText.bracketed "::1".toList (by simp [isDelimiter])
    host_known := ⟨_, rfl⟩
    port_text := by
      rintro _ ⟨⟩
      exact ⟨by simp, by decide⟩ }
  obtain ⟨u, segment, hurl, _, hpath, _, hquery, hfragment, hdecode⟩ :=
    container_url_keeps_name b c rfl name (by simp [name]) (by decide) (by decide)
  have hshown : (c.containersUrl name).toOption.map Url.pathString =
      some "/api/containers/a%2Fb%3Fc%23d%252F%5C%20%C3%A9" := by
    decide +kernel
  rw [hurl] at hshown
  exact ⟨u, segment, hurl, Option.some.inj hshown, hpath, hquery, hfragment, hdecode⟩

end Provisioning
