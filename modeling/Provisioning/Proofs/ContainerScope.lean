/-
**Where a status call can get to.**

The name of a cluster becomes one segment below the collection of the containers, and it should be
the name of something in there: not the collection itself, whose answer would be about other
clusters, and nothing above it.  It should also be told apart from every other name.  Both hold of
almost every text, and fail where something of a name gets lost.  A name of dots alone adds no
segment at all.  Tabs and line breaks are dropped before the name is written, so two names can
become one, nothing may be left, and what is left may be dots that now do mean the level above.

The four ways in which this can end are told apart here, and they are all there are: two names have
the same URL exactly where they end in the same way.

Main definitions:

* `Backend.Place`, `Backend.Place.ofName` — **where a name leads**;
* `Backend.LiesBelow` — a URL of something in the collection.

Main results:

* `Backend.containersUrl_place` — the URL of every name;
* `Backend.liesBelow_place_iff`, `Backend.text_segments_iff` — which of them lie in the collection,
  and that **two names have the same URL** where they lead to the same place;
* `status_call_place` — where status calls go;
* `names_not_kept_apart` — not every name stays in the collection, or apart from the others.
-/

import Provisioning.Proofs.ContainerUrl
import Provisioning.Proofs.HttpRun

set_option relaxedAutoImplicit false
set_option autoImplicit false

namespace Provisioning

namespace Url

/-! ### Segments and their text -/

/-- A segment ends where the next one begins. -/
theorem span_segmentsText {segment : List Char} (h : '/' ∉ segment) (rest : List (List Char)) :
    (segment ++ segmentsText rest).span (· != '/') = (segment, segmentsText rest) := by
  refine span_append (fun c hc => bne_iff_ne.mpr ?_) ?_
  · rintro rfl
    exact h hc
  · cases rest with
    | nil => rfl
    | cons next rest => rfl

/-- **Segments can be read from their text**, if there is no slash in them. -/
theorem segmentsText_injective {list other : List (List Char)}
    (hlist : ∀ s ∈ list, '/' ∉ s) (hother : ∀ s ∈ other, '/' ∉ s)
    (h : segmentsText list = segmentsText other) : list = other := by
  induction list generalizing other with
  | nil =>
      cases other with
      | nil => rfl
      | cons t other => cases h
  | cons s list ih =>
      cases other with
      | nil => cases h
      | cons t other =>
          obtain ⟨hs, hbehind_s⟩ := List.forall_mem_cons.mp hlist
          obtain ⟨ht, hbehind_t⟩ := List.forall_mem_cons.mp hother
          have hbehind : s ++ segmentsText list = t ++ segmentsText other := (List.cons.inj h).2
          have hsplit := span_segmentsText hs list
          rw [hbehind, span_segmentsText ht other] at hsplit
          obtain ⟨rfl, hrest⟩ := Prod.mk.inj hsplit
          rw [ih hbehind_s hbehind_t hrest.symm]

/-- What was written as a segment is the writing of one name only. -/
theorem encode_injective {name other : List Char}
    (h : Percent.encode inSpecialSegment name = Percent.encode inSpecialSegment other) :
    name = other := by
  apply eq_of_decode_eq
  rw [h, Percent.decode_encode (by decide)]

/-- The host of a web URL is not empty. -/
theorem Host.ne_nil_of_ofWeb {host known : List Char} (h : Host.ofWeb host = .ok known) :
    known ≠ [] := by
  rw [Host.ofWeb.eq_def] at h
  split at h
  · rw [Host.bracketed] at h
    split at h
    · split at h
      · rw [← Except.ok.inj h]
        exact List.cons_ne_nil _ _
      · cases h
    · cases h
  · split at h
    · cases h
    · cases h
    · rename_i name hname _
      split at h
      · split at h
        · rw [← Except.ok.inj h, Address.v4Text]
          simp
        · cases h
      · obtain rfl := Except.ok.inj h
        rintro rfl
        contradiction

/-- A base URL of the web is one. -/
theorem WebBase.isWeb_scheme (b : WebBase) :
    (b.scheme == "http".toList || b.scheme == "https".toList) = true := by
  rw [scheme]
  split
  · decide
  · decide

end Url

namespace Backend

open Url

/-! ### Places -/

/-- What nothing in the collection is called: nothing, and the dots that mean a level. -/
def levels : List (List Char) := [[], ['.'], ['.', '.']]

/-- **Where a name leads.** -/
inductive Place where
  /-- The collection itself. -/
  | collection
  /-- The collection, with a slash behind it. -/
  | listing
  /-- The level above the collection. -/
  | above
  /-- Something in the collection. -/
  | container (name : List Char) (hname : name ∉ levels)
  deriving DecidableEq

namespace Place

/-- The place of a name of which something gets written. -/
def ofKept (name : List Char) : Place :=
  if h : name ∈ levels then if name = ['.', '.'] then .above else .listing
  else .container name h

/-- **The place of a name.**  A name of dots alone adds nothing to the URL. -/
def ofName (name : List Char) : Place :=
  if name = ['.'] ∨ name = ['.', '.'] then .collection else ofKept (kept name)

/-- The segments of a place. -/
def segments : Place → List (List Char)
  | .collection => ["api".toList, "containers".toList]
  | .listing => ["api".toList, "containers".toList, []]
  | .above => ["api".toList, []]
  | .container name _ =>
      ["api".toList, "containers".toList, Percent.encode inSpecialSegment name]

/-- **The path of a place.** -/
def path : Place → String
  | .collection => "/api/containers"
  | .listing => "/api/containers/"
  | .above => "/api/"
  | .container name _ =>
      "/api/containers/" ++ String.ofList (Percent.encode inSpecialSegment name)

/-- It is that of the segments. -/
theorem toList_path (p : Place) : p.path.toList = segmentsText p.segments := by
  cases p with
  | collection => rfl
  | listing => rfl
  | above => rfl
  | container name hname =>
      have hpath : (container name hname).path.toList =
          ("/api/containers/" ++ String.ofList (Percent.encode inSpecialSegment name)).toList := rfl
      rw [hpath, String.toList_append, String.toList_ofList]
      simp [segments, segmentsText]

theorem slash_not_mem_segments (p : Place) : ∀ s ∈ p.segments, '/' ∉ s := by
  cases p with
  | collection => simp [segments]
  | listing => simp [segments]
  | above => simp [segments]
  | container name hname =>
      have hwritten : '/' ∉ Percent.encode inSpecialSegment name := fun hmem =>
        not_isMark_of_mem_encode hmem (by decide)
      simpa [segments] using hwritten

/-- Places differ in their segments. -/
theorem segments_injective {p q : Place} (h : p.segments = q.segments) : p = q := by
  have hwritten {name : List Char} (hname : name ∉ levels) :
      Percent.encode inSpecialSegment name ≠ [] := by
    intro hnil
    have hname_nil : name = [] := encode_injective hnil
    exact hname (hname_nil ▸ List.mem_cons_self)
  cases p with
  | collection => cases q with
    | collection => rfl
    | listing | above | container => simp [segments] at h
  | listing => cases q with
    | listing => rfl
    | container other hother =>
        have hnil : [] = Percent.encode inSpecialSegment other := by simpa [segments] using h
        exact absurd hnil.symm (hwritten hother)
    | collection | above => simp [segments] at h
  | above => cases q with
    | above => rfl
    | collection | listing | container => simp [segments] at h
  | container name hname => cases q with
    | container other _ =>
        obtain rfl : name = other := encode_injective (by simpa [segments] using h)
        rfl
    | listing =>
        have hnil : Percent.encode inSpecialSegment name = [] := by simpa [segments] using h
        exact absurd hnil (hwritten hname)
    | collection | above => simp [segments] at h

/-- **Places differ in their paths.** -/
theorem path_injective {p q : Place} (h : p.path = q.path) : p = q := by
  have htext : segmentsText p.segments = segmentsText q.segments := by
    rw [← p.toList_path, ← q.toList_path, h]
  exact segments_injective
    (segmentsText_injective p.slash_not_mem_segments q.slash_not_mem_segments htext)

end Place

/-- **A URL of something in the collection**: there is one segment behind the collection, which is
not empty, does not mean another level, and has no mark in it. -/
def LiesBelow (u : Url) : Prop :=
  ∃ segment, u.path = .segments ["api".toList, "containers".toList, segment] ∧ segment ≠ [] ∧
    isSingleDot segment = false ∧ isDoubleDot segment = false ∧ ∀ c ∈ segment, ¬ IsMark c

/-- A place is in the collection where something is left of the name that is no level. -/
theorem Place.ofName_eq_container {name : List Char} (h : kept name ∉ levels) :
    Place.ofName name = .container (kept name) h := by
  have hdots : ¬ (name = ['.'] ∨ name = ['.', '.']) := by
    rintro (rfl | rfl)
    · exact h (by decide)
    · exact h (by decide)
  rw [ofName, if_neg hdots, ofKept, dif_neg h]

/-- **A name that is added leads to its place.** -/
theorem push?_place {u : Url} (hspecial : isSpecial u.scheme = true)
    (hpath : u.path = .segments Place.collection.segments) (name : List Char) :
    u.push? name = some { u with path := .segments (Place.ofName name).segments } := by
  have hroot : Place.collection.segments ≠ [[]] := by decide
  by_cases hdots : name = ['.'] ∨ name = ['.', '.']
  · have hname : (name == ['.'] || name == ['.', '.']) = true := by simpa using hdots
    rw [Place.ofName, if_pos hdots, push?, ← hpath, hpath]
    simp only [hname, if_true]
    rw [← hpath]
  · by_cases hlevel : kept name ∈ levels
    · rw [push?_resolve hspecial hpath hroot hdots, Place.ofName, if_neg hdots, Place.ofKept,
        dif_pos hlevel]
      simp only [levels, List.mem_cons, List.not_mem_nil, or_false] at hlevel
      rcases hlevel with h | h | h
      · rw [h]
        rfl
      · rw [h]
        rfl
      · rw [h]
        rfl
    · have hsingle : kept name ≠ ['.'] := fun h => hlevel (by simp [h, levels])
      have hdouble : kept name ≠ ['.', '.'] := fun h => hlevel (by simp [h, levels])
      rw [push?_of_kept hspecial hpath hroot hsingle hdouble, Place.ofName_eq_container hlevel]
      rfl

/-- **The URL of every name** is that of its place. -/
theorem containersUrl_place {c : Client} {b : WebBase} (hbase : c.baseUrl = b.text) :
    ∃ known number, Host.ofWeb b.host = .ok known ∧ ∀ name, c.containersUrl name = .ok
      { scheme := b.scheme, host := some known, port := number
        path := .segments (Place.ofName name.toList).segments } := by
  obtain ⟨known, number, hknown, hread⟩ := ofText_endpoint hbase
  refine ⟨known, number, hknown, fun name => ?_⟩
  let u : Url := {
    scheme := b.scheme, host := some known, port := number
    path := .segments Place.collection.segments }
  have hpush : u.push? name.toList = _ := push?_place b.isSpecial_scheme rfl name.toList
  have hcollection : Url.ofText (c.endpoint "containers") = .ok u := hread
  rw [Client.containersUrl, hcollection]
  simp only [hpush]
  rfl

/-- **Where a URL lies** in the collection. -/
theorem liesBelow_place_iff {u : Url} {name : List Char}
    (hpath : u.path = .segments (Place.ofName name).segments) :
    LiesBelow u ↔ kept name ∉ levels := by
  constructor
  · rintro ⟨segment, hsegment, hne, -⟩ hlevel
    rw [hpath, Path.segments.injEq] at hsegment
    rw [Place.ofName] at hsegment
    split at hsegment
    · simp [Place.segments] at hsegment
    · rw [Place.ofKept, dif_pos hlevel] at hsegment
      split at hsegment
      · simp [Place.segments] at hsegment
      · have hnil : [] = segment := by simpa [Place.segments] using hsegment
        exact hne hnil.symm
  · intro h
    rw [Place.ofName_eq_container h] at hpath
    have hnil : kept name ≠ [] := fun hnil => h (by simp [hnil, levels])
    have hsingle : kept name ≠ ['.'] := fun hdot => h (by simp [hdot, levels])
    have hdouble : kept name ≠ ['.', '.'] := fun hdots => h (by simp [hdots, levels])
    exact ⟨_, hpath, fun hempty => hnil (encode_injective hempty), isSingleDot_encode hsingle,
      isDoubleDot_encode hdouble, fun c hc => not_isMark_of_mem_encode hc⟩

/-- **URLs that differ in their paths** alone have different texts. -/
theorem text_segments_iff {u v : Url} {host : List Char} (hu : u.host = some host)
    {list other : List (List Char)} (hlist : u.path = .segments list)
    (hother : v = { u with path := .segments other }) :
    u.text = v.text ↔ segmentsText list = segmentsText other := by
  subst hother
  have hfront (path : List (List Char)) :
      ({ u with path := .segments path } : Url).chars =
        u.scheme ++ ':' :: u.authority ++ segmentsText path ++ marked '?' u.query ++
          marked '#' u.fragment := by
    have hguard : ({ u with path := .segments path } : Url).pathGuard = [] := by
      simp only [pathGuard, hu]
    simp only [chars, hguard, List.append_nil]
    rfl
  have hself : u = { u with path := .segments list } := by rw [← hlist]
  rw [text, text, String.ofList_inj, hself, hfront, hfront]
  simp

/-- **What a status call asks for**, below a base URL: the URL of the name, if it can be sent. -/
theorem request_status {c : Client} {name : String} {u : Url} {host : List Char}
    (hurl : c.containersUrl name = .ok u) (hhost : u.host = some host) (hne : host ≠ [])
    (hweb : u.isWeb = true) (hanonymous : u.anonymous = u) :
    (Planned.request? (c.status name)).map (·.url) = if isSendable u then some u else none := by
  have hhas : u.hasHost = true := by
    rw [Url.hasHost, hhost]
    cases host with
    | nil => exact absurd rfl hne
    | cons _ _ => rfl
  rw [Client.status, hurl]
  simp only [bind, Except.bind, sendableUrl, hanonymous, hhas, hweb, Bool.true_and]
  cases isSendable u with
  | true => rfl
  | false => rfl

end Backend

/-! ### The theorem -/

open Url Backend

/-- **Where status calls go**, below every base URL of the web and for every name.  The request is
one for something in the collection exactly where more is kept of the name than a level, and two
names are told apart exactly where they lead to different places. -/
theorem status_call_place (b : WebBase) (c : Client) (hbase : c.baseUrl = b.text) :
    ∃ url : String → Url,
      (∀ name, c.containersUrl name = .ok (url name) ∧
        (Planned.request? (c.status name)).map (·.url) =
          if isSendable (url name) then some (url name) else none) ∧
      (∀ name, (url name).pathString = (Place.ofName name.toList).path ∧
        (url name).query = none ∧ (url name).fragment = none) ∧
      (∀ name, LiesBelow (url name) ↔ kept name.toList ∉ levels) ∧
      ∀ name other, (url name).text = (url other).text ↔
        Place.ofName name.toList = Place.ofName other.toList := by
  obtain ⟨known, number, hknown, hurl⟩ := containersUrl_place hbase
  have hne : known ≠ [] := Host.ne_nil_of_ofWeb hknown
  refine ⟨_, fun name => ⟨hurl name, request_status (hurl name) rfl hne b.isWeb_scheme rfl⟩,
    ?_, ?_, ?_⟩
  · intro name
    refine ⟨?_, rfl, rfl⟩
    rw [← String.toList_inj, Place.toList_path, Url.pathString, String.toList_ofList]
    rfl
  · intro name
    exact liesBelow_place_iff rfl
  · intro name other
    rw [text_segments_iff rfl rfl rfl, ← Place.toList_path, ← Place.toList_path, String.toList_inj]
    exact ⟨Place.path_injective, congrArg Place.path⟩

/-- A base URL that needs no look at a domain name. -/
def loopbackBase : WebBase where
  secure := false
  host := "[::1]".toList
  port := some "12345".toList
  slashes := 1
  host_text := @IsHostText.bracketed "::1".toList (by simp [isDelimiter])
  host_known := ⟨_, rfl⟩
  port_text := by
    rintro _ ⟨⟩
    exact ⟨by simp, by decide⟩

/-- Names with tabs and dots, and one that only looks like a level. -/
theorem status_call_place_of_tab :
    let c : Client := { baseUrl := "http://[::1]:12345/" }
    ∃ url : String → Url, (∀ name, c.containersUrl name = .ok (url name)) ∧
      (url "..").pathString = "/api/containers" ∧ (url ".\t.").pathString = "/api/" ∧
      (url "a\tb").text = (url "ab").text ∧ (url "ab").text ≠ (url "a b").text ∧
      LiesBelow (url "%2e") := by
  intro c
  obtain ⟨url, hurl, hpath, hbelow, hsame⟩ := status_call_place loopbackBase c rfl
  refine ⟨url, fun name => (hurl name).1, ?_, ?_, ?_, ?_, ?_⟩
  · exact (hpath "..").1
  · exact (hpath ".\t.").1
  · exact (hsame "a\tb" "ab").mpr (by decide)
  · exact mt (hsame "ab" "a b").mp (by decide)
  · exact (hbelow "%2e").mpr (by decide)

/-- **Not every name stays in the collection, or apart from the others**: a dot does not, and a name
with a tab in it has the URL of the name without. -/
theorem names_not_kept_apart :
    (¬ ∀ (b : WebBase) (c : Client), c.baseUrl = b.text → ∀ name, name ≠ "" →
      ∃ u, c.containersUrl name = .ok u ∧ LiesBelow u) ∧
    ¬ ∀ (b : WebBase) (c : Client), c.baseUrl = b.text → ∀ name other, name ≠ "" → other ≠ "" →
      name ≠ other → ∀ u v, c.containersUrl name = .ok u → c.containersUrl other = .ok v →
        u.text ≠ v.text := by
  let c : Client := { baseUrl := "http://[::1]:12345/" }
  have hbase : c.baseUrl = loopbackBase.text := rfl
  obtain ⟨known, number, _, hurl⟩ := containersUrl_place hbase
  constructor
  · intro h
    obtain ⟨u, hu, hbelow⟩ := h loopbackBase c hbase "." (by decide)
    obtain rfl := Except.ok.inj ((hurl ".").symm.trans hu)
    exact (liesBelow_place_iff rfl).mp hbelow (by decide)
  · intro h
    have hplace : Place.ofName "a\tb".toList = Place.ofName "ab".toList := by decide
    refine h loopbackBase c hbase "a\tb" "ab" (by decide) (by decide) (by decide) _ _
      (hurl "a\tb") (hurl "ab") ?_
    rw [hplace]

end Provisioning
