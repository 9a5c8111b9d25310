/-
**Base URLs and the requests below them.**

A base URL is accepted by its beginning alone, and may end with slashes, which are dropped where the
path of a request is added.  Two slashes of a base URL are no slashes at its end, though: those
behind its scheme.  What is accepted need not have anything behind them, and then they are dropped
as well, with the colon left over in front of the path.

So requests go below the base URL wherever it has an authority, and this is passed on unchanged by
what is made of it.  That it has one is not looked at.

Main definition:

* `Backend.HasAuthority` — **a text that begins like a URL of the web** and goes on with an
  authority.

Main results:

* `Backend.dropFinalSlashes_append` — what stands in front of the slashes at the end is kept;
* `Backend.hasAuthority_dropFinalSlashes_iff` — **an authority is not lost** with them;
* `endpoint_of_valid` — where requests go, for every configuration that passes the check;
* `endpoint_without_authority` — not every one of them has an authority.
-/

import Mathlib.Data.List.DropRight
import Provisioning.Backend.Client

set_option relaxedAutoImplicit false
set_option autoImplicit false

namespace Provisioning

namespace Backend

open Url (isSlash endsAuthority)

/-! ### Slashes at the end -/

section Slashes

variable {front back text : List Char}

/-- What is dropped is slashes alone. -/
theorem dropFinalSlashes_eq_front (text : List Char) :
    ∃ n, text = dropFinalSlashes text ++ List.replicate n '/' := by
  refine ⟨(text.rtakeWhile (· == '/')).length, ?_⟩
  have hslashes : ∀ d ∈ text.rtakeWhile (· == '/'), d = '/' := fun d hd =>
    beq_iff_eq.mp (@List.mem_rtakeWhile_imp _ (· == '/') text d hd)
  rw [← List.eq_replicate_of_mem hslashes]
  exact (@List.rdropWhile_append_rtakeWhile _ (· == '/') text).symm

/-- No slash is left at the end. -/
theorem getLast?_dropFinalSlashes (text : List Char) :
    (dropFinalSlashes text).getLast? ≠ some '/' := by
  intro h
  have hhead := List.head?_dropWhile_not (· == '/') text.reverse
  rw [dropFinalSlashes, List.getLast?_reverse] at h
  rw [h] at hhead
  cases hhead

/-- **What stands in front is kept**, if there is anything but slashes behind it. -/
theorem dropFinalSlashes_append (front : List Char) (h : ∃ d ∈ back, d ≠ '/') :
    dropFinalSlashes (front ++ back) = front ++ dropFinalSlashes back := by
  obtain ⟨d, hd, hne⟩ := h
  have hleft : (back.reverse.dropWhile (· == '/')).isEmpty = false := by
    rw [List.isEmpty_eq_false_iff, ne_eq, List.dropWhile_eq_nil_iff]
    intro hall
    exact hne (beq_iff_eq.mp (hall d (List.mem_reverse.mpr hd)))
  rw [dropFinalSlashes, List.reverse_append, List.dropWhile_append, hleft]
  simp [dropFinalSlashes]

/-- Slashes alone are dropped, and so are those in front of them. -/
theorem dropFinalSlashes_of_slashes (h : ∀ d ∈ back, d = '/') :
    dropFinalSlashes (front ++ back) = dropFinalSlashes front := by
  have hslashes : ∀ d ∈ back.reverse, (d == '/') = true := fun d hd =>
    beq_iff_eq.mpr (h d (List.mem_reverse.mp hd))
  rw [dropFinalSlashes, List.reverse_append, List.dropWhile_append_of_pos hslashes,
    dropFinalSlashes]

/-- Slashes behind a text that does not end with one are all that is dropped. -/
theorem dropFinalSlashes_eq (h : text.getLast? ≠ some '/') (n : Nat) :
    dropFinalSlashes (text ++ List.replicate n '/') = text := by
  rw [dropFinalSlashes_of_slashes fun _ => List.eq_of_mem_replicate]
  obtain ⟨k, hk⟩ := dropFinalSlashes_eq_front text
  cases k with
  | zero =>
      rw [List.replicate_zero, List.append_nil] at hk
      exact hk.symm
  | succ k =>
      rw [hk, List.replicate_succ', ← List.append_assoc, List.getLast?_concat] at h
      exact absurd rfl h

end Slashes

/-! ### Authorities -/

/-- The schemes of base URLs. -/
def webSchemes : List String := ["http", "https"]

/-- **A text that begins like a URL of the web**: a scheme, slashes, and a character that belongs to
an authority.  There may be more slashes than two. -/
def HasAuthority (text : List Char) : Prop :=
  ∃ scheme ∈ webSchemes, ∃ slashes first more,
    text = scheme.toList ++ "://".toList ++ slashes ++ first :: more ∧
      (∀ d ∈ slashes, isSlash true d = true) ∧ endsAuthority true first = false

/-- It has eight characters at least. -/
theorem HasAuthority.le_length {text : List Char} (h : HasAuthority text) : 8 ≤ text.length := by
  obtain ⟨scheme, hscheme, slashes, first, more, rfl, -, -⟩ := h
  have hlength : ∀ s ∈ webSchemes, 4 ≤ s.toList.length := by decide
  have hcolon : "://".toList.length = 3 := rfl
  have hfront := hlength scheme hscheme
  simp only [List.length_append, List.length_cons, hcolon]
  omega

/-- **An authority is not lost** with the slashes at the end, nor is one made up. -/
theorem hasAuthority_dropFinalSlashes_iff (text : List Char) :
    HasAuthority (dropFinalSlashes text) ↔ HasAuthority text := by
  constructor
  · rintro ⟨scheme, hscheme, slashes, first, more, htext, hslashes, hfirst⟩
    obtain ⟨n, hn⟩ := dropFinalSlashes_eq_front text
    refine ⟨scheme, hscheme, slashes, first, more ++ List.replicate n '/', ?_, hslashes, hfirst⟩
    rw [hn, htext]
    simp
  · rintro ⟨scheme, hscheme, slashes, first, more, rfl, hslashes, hfirst⟩
    have hne : first ≠ '/' := by
      rintro rfl
      cases hfirst
    have hback : dropFinalSlashes (first :: more) = first :: dropFinalSlashes more ∨
        dropFinalSlashes (first :: more) = [first] := by
      by_cases hmore : ∃ d ∈ more, d ≠ '/'
      · exact .inl (dropFinalSlashes_append [first] hmore)
      · have hall : ∀ d ∈ more, d = '/' := fun d hd => not_not.mp fun h => hmore ⟨d, hd, h⟩
        refine .inr ((@dropFinalSlashes_of_slashes [first] more hall).trans ?_)
        simp [dropFinalSlashes, hne]
    rw [dropFinalSlashes_append _ ⟨first, List.mem_cons_self, hne⟩]
    rcases hback with hback | hback
    · exact ⟨scheme, hscheme, slashes, first, _, by rw [hback], hslashes, hfirst⟩
    · exact ⟨scheme, hscheme, slashes, first, _, by rw [hback], hslashes, hfirst⟩

/-- Without anything but slashes behind the scheme, its own slashes are dropped. -/
theorem dropFinalSlashes_scheme {scheme : String} (hscheme : scheme ∈ webSchemes)
    {rest : List Char} (h : ∀ d ∈ rest, d = '/') :
    dropFinalSlashes (scheme.toList ++ "://".toList ++ rest) = scheme.toList ++ [':'] := by
  have hbare : ∀ s ∈ webSchemes,
      dropFinalSlashes (s.toList ++ "://".toList) = s.toList ++ [':'] := by
    decide
  rw [dropFinalSlashes_of_slashes h, hbare scheme hscheme]

end Backend

/-! ### Accepted base URLs -/

open Backend

/-- What begins like a URL of the web is not empty. -/
theorem Config.isEmpty_trim_of_isWebUrl {url : String} (h : isWebUrl url = true) :
    (Text.trim url).isEmpty = false := by
  obtain ⟨rest, hrest⟩ : ∃ rest, url.toList = 'h' :: rest := by
    rw [isWebUrl, Bool.or_eq_true, List.isPrefixOf_iff_prefix, List.isPrefixOf_iff_prefix] at h
    rcases h with ⟨rest, hrest⟩ | ⟨rest, hrest⟩
    · exact ⟨_, hrest.symm⟩
    · exact ⟨_, hrest.symm⟩
  have hvisible : ¬ Text.isSpace 'h' = true := by decide
  have hleft : Text.dropFinalSpace ('h' :: rest) ≠ [] := by
    intro hnil
    rw [Text.dropFinalSpace, List.reverse_eq_nil_iff, List.dropWhile_eq_nil_iff] at hnil
    exact hvisible (hnil 'h' (List.mem_reverse.mpr List.mem_cons_self))
  rw [Text.trim, hrest, List.dropWhile_cons_of_neg hvisible, Bool.eq_false_iff, ne_eq,
    String.isEmpty_iff, ← String.toList_inj, String.toList_ofList]
  exact hleft

/-- **The configurations that pass the check**: the base URL begins like one of the web, and the
time limits are not zero. -/
theorem Config.validate_eq_ok_iff {c : Config} : c.validate = .ok () ↔
    isWebUrl c.apiUrl = true ∧ c.requestTimeoutSecs ≠ 0 ∧ c.coordinationTimeoutSecs ≠ 0 := by
  rw [Config.validate]
  by_cases hweb : isWebUrl c.apiUrl = true
  · simp only [isEmpty_trim_of_isWebUrl hweb, hweb, Bool.not_true, Bool.false_eq_true, if_false]
    by_cases hrequest : c.requestTimeoutSecs = 0
    · simp only [hrequest, if_true]
      exact iff_of_false nofun fun h => h.2.1 rfl
    · by_cases hcoordination : c.coordinationTimeoutSecs = 0
      · simp only [hrequest, hcoordination, if_true, if_false]
        exact iff_of_false nofun fun h => h.2.2 rfl
      · simp only [hrequest, hcoordination, if_false]
        exact iff_of_true rfl ⟨trivial, hrequest, hcoordination⟩
  · refine iff_of_false ?_ fun h => hweb h.1
    by_cases hempty : (Text.trim c.apiUrl).isEmpty = true
    · simp only [hempty, if_true]
      exact nofun
    · simp only [hempty, hweb, Bool.not_false, if_true]
      exact nofun

/-- What begins like a URL of the web has a scheme and its slashes. -/
theorem Config.exists_scheme {url : String} (h : isWebUrl url = true) :
    ∃ scheme ∈ webSchemes, ∃ rest, url.toList = scheme.toList ++ "://".toList ++ rest := by
  rw [isWebUrl, Bool.or_eq_true, List.isPrefixOf_iff_prefix, List.isPrefixOf_iff_prefix] at h
  rcases h with ⟨rest, hrest⟩ | ⟨rest, hrest⟩
  · exact ⟨"http", by decide, rest, hrest.symm⟩
  · exact ⟨"https", by decide, rest, hrest.symm⟩

/-- **Where requests go**, for every configuration that passes the check: below what is left of the
base URL without the slashes at its end.  This begins like a URL of the web and has an authority
where the base URL has one; behind a scheme without anything but slashes its own are dropped. -/
theorem endpoint_of_valid (c : Config) (hvalid : c.validate = .ok ()) (path : String) :
    ∃ front slashes, c.apiUrl.toList = front ++ List.replicate slashes '/' ∧
      front.getLast? ≠ some '/' ∧
      ((Client.ofConfig c).endpoint path).toList = front ++ "/api/".toList ++ path.toList ∧
      (HasAuthority front ↔ HasAuthority c.apiUrl.toList) ∧
      ∃ scheme ∈ webSchemes, ∃ rest,
        c.apiUrl.toList = scheme.toList ++ "://".toList ++ rest ∧
        ((∃ d ∈ rest, d ≠ '/') →
          front = scheme.toList ++ "://".toList ++ dropFinalSlashes rest) ∧
        ((∀ d ∈ rest, d = '/') → front = scheme.toList ++ [':']) := by
  obtain ⟨slashes, hslashes⟩ := dropFinalSlashes_eq_front c.apiUrl.toList
  obtain ⟨scheme, hscheme, rest, hrest⟩ :=
    Config.exists_scheme (Config.validate_eq_ok_iff.mp hvalid).1
  refine ⟨dropFinalSlashes c.apiUrl.toList, slashes, hslashes, getLast?_dropFinalSlashes _, ?_,
    hasAuthority_dropFinalSlashes_iff _, scheme, hscheme, rest, hrest, ?_, ?_⟩
  · rw [Client.endpoint, String.toList_ofList]
    rfl
  · intro hsome
    rw [hrest, dropFinalSlashes_append _ hsome]
  · intro hall
    rw [hrest, dropFinalSlashes_scheme hscheme hall]

/-- More slashes than a base URL needs, behind its scheme and at its end. -/
theorem endpoint_of_valid_of_slashes :
    let c : Config := { apiUrl := "https:///host//" }
    c.validate = .ok () ∧ (Client.ofConfig c).endpoint "brokers" = "https:///host/api/brokers" ∧
      HasAuthority "https:///host".toList := by
  intro c
  have hvalid : c.validate = .ok () :=
    Config.validate_eq_ok_iff.mpr ⟨by decide, by decide, by decide⟩
  have hendpoint : (Client.ofConfig c).endpoint "brokers" = "https:///host/api/brokers" := by decide
  obtain ⟨front, slashes, -, -, htext, hauthority, -⟩ := endpoint_of_valid c hvalid "brokers"
  have hfront : front = "https:///host".toList := by
    rw [hendpoint] at htext
    exact List.append_cancel_right (List.append_cancel_right htext.symm)
  refine ⟨hvalid, hendpoint, ?_⟩
  rw [← hfront, hauthority]
  exact ⟨"https", by decide, ['/'], 'h', "ost//".toList, by decide,
    List.forall_mem_singleton.mpr rfl, by decide⟩

/-- **An accepted base URL need not have an authority**: of a scheme and its slashes, only the colon
is left in front of the path. -/
theorem endpoint_without_authority :
    (¬ ∀ (c : Config) (path : String), c.validate = .ok () → ∃ front,
      ((Client.ofConfig c).endpoint path).toList = front ++ "/api/".toList ++ path.toList ∧
        HasAuthority front) ∧
    (Client.ofConfig { apiUrl := "http://" }).endpoint "brokers" = "http:/api/brokers" := by
  let c : Config := { apiUrl := "http://" }
  have htext : (Client.ofConfig c).endpoint "brokers" = "http:/api/brokers" := by decide
  refine ⟨fun h => ?_, htext⟩
  have hvalid : c.validate = .ok () :=
    Config.validate_eq_ok_iff.mpr ⟨by decide, by decide, by decide⟩
  obtain ⟨front, hfront, hauthority⟩ := h c "brokers" hvalid
  have hlength := congrArg List.length (htext ▸ hfront)
  have hfront_length : front.length = 5 := by
    simpa using hlength.symm
  have hle := hauthority.le_length
  omega

end Provisioning
