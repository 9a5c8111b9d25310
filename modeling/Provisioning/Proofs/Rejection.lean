/-
**What a rejection says.**

The backend explains a rejection in whatever form it likes, and its explanation ends in one line of
text.  Nothing of it is lost on the way.  A string is the text, and so is the message of an object
that has one; where nothing is said, a sentence says that; and everything else is written out in
full, in a text that can be read again as what it was.

That an envelope is a rejection is told by its text alone: a word on whether there was a success is
missing, or it is the wrong one.

Main definition:

* `Backend.Explains` — **the text that explains a result**.

Main results:

* `Backend.explains_explanation` — the explanation explains;
* `Backend.rejection_explained` — **a rejection never loses its explanation**.
-/

import Provisioning.Proofs.CreateReply
import Provisioning.Proofs.KeptValue

set_option relaxedAutoImplicit false
set_option autoImplicit false

namespace Provisioning.Backend

open Json (Denotes Number Raw Value)

/-- **The text that explains a result.** -/
inductive Explains : Value → String → Prop
  /-- A string is its own explanation. -/
  | itself (s : String) : Explains (.string s) s
  /-- An object has a message. -/
  | message {members : List (String × Value)} {s : String}
      (h : members.lookup "message" = some (.string s)) : Explains (.object members) s
  /-- Nothing is said. -/
  | nothing : Explains .null "request was not successful"
  /-- Anything else is written out in full, and can be read again. -/
  | whole {v : Value} (hstring : ∀ s, v ≠ .string s) (hnull : v ≠ .null)
      (hmessage : ∀ s, v.member? "message" ≠ some (.string s))
      (hread : Value.ofText? v.compact = some v) : Explains v v.compact

/-- The message of an object is its explanation. -/
theorem explanation_object (members : List (String × Value)) :
    explanation (.object members) =
      ((members.lookup "message").bind Value.string?).getD (Value.object members).compact := by
  rw [explanation, Value.member?]
  · cases (members.lookup "message").bind Value.string? with
    | some message => rfl
    | none => rfl
  · nofun
  · nofun

/-- **The explanation explains**, if the result can be read again. -/
theorem explains_explanation {v : Value} (hread : Value.ofText? v.compact = some v) :
    Explains v (explanation v) := by
  cases v with
  | null => exact .nothing
  | string s => exact .itself s
  | boolean b => exact .whole nofun nofun nofun hread
  | number n => exact .whole nofun nofun nofun hread
  | array items => exact .whole nofun nofun nofun hread
  | object members =>
      rw [explanation_object]
      cases hmessage : members.lookup "message" with
      | none => exact .whole nofun nofun (fun s hs => nomatch hmessage.symm.trans hs) hread
      | some w =>
          cases w with
          | string s => exact .message hmessage
          | null | boolean _ | number _ | array _ | object _ =>
              exact .whole nofun nofun (fun s hs => nomatch hmessage.symm.trans hs) hread

section Results

variable {text : String} {e : Envelope}

/-- The result of an envelope is what its text says, and null where the text does not say. -/
theorem denotes_result (h : Envelope.ofText text = .ok e) :
    match (Json.Document.ofText text).root.given? 1 "result" with
    | some r => Denotes r e.result
    | none => e.result = .null := by
  have hresult := (given_of_ofText h).2
  split
  · rename_i r hgiven
    rw [hgiven] at hresult
    exact Json.denotes_of_toValue? _ r (toValue?_of_anyValue hresult)
  · rename_i hgiven
    rw [hgiven] at hresult
    exact hresult

/-- **The result of an envelope** can be written and read again, if no number in it is a float. -/
theorem ofText?_compact_result (h : Envelope.ofText text = .ok e)
    (hfloat : ∀ x, Number.float x ∉ e.result.numbers) :
    Value.ofText? e.result.compact = some e.result := by
  have hresult := (given_of_ofText h).2
  cases hgiven : (Json.Document.ofText text).root.given? 1 "result" with
  | none =>
      rw [hgiven] at hresult
      rw [show e.result = .null from hresult]
      exact Json.ofText?_compact rfl rfl
  | some r =>
      rw [hgiven] at hresult
      have hread := toValue?_of_anyValue hresult
      -- The result stood inside the bracket of the envelope, and now it stands alone.
      refine Json.ofText?_compact (Json.rereads_of_toValue? _ r (Nat.sub_le _ 1) hread) ?_
      refine Json.integral_of_numbers e.result fun n hn => ⟨?_, fun x hx => hfloat x (hx ▸ hn)⟩
      exact Json.fits_of_mem_numbers text n
        (Json.mem_numbers_of_given? hgiven (Json.mem_numbers_of_toValue? _ r hread hn))

end Results

/-- **A rejection never loses its explanation.**  An envelope is accepted only if its text says that
there was a success.  If the text says that there was none, or says nothing, then there is an error,
and its text explains the result, which is what the text of the envelope says it is. -/
theorem rejection_explained {text : String} {e : Envelope} (h : Envelope.ofText text = .ok e) :
    let root := (Json.Document.ofText text).root
    ((∃ v, e.payload = .ok v) ↔ root.given? 0 "isSuccess" = some (.boolean true)) ∧
      (root.given? 0 "isSuccess" = none ∨ root.given? 0 "isSuccess" = some (.boolean false) →
        (∀ x, Number.float x ∉ e.result.numbers) →
          ∃ message, e.payload = .error message ∧ Explains e.result message) ∧
      match root.given? 1 "result" with
      | some r => Denotes r e.result
      | none => e.result = .null := by
  intro root
  have hsuccess := (given_of_ofText h).1
  refine ⟨?_, fun hword hfloat => ?_, denotes_result h⟩
  · rw [Envelope.payload]
    cases hword : root.given? 0 "isSuccess" with
    | none =>
        rw [hword] at hsuccess
        simp [show e.success = false from hsuccess]
    | some r =>
        rw [hword] at hsuccess
        obtain rfl := boolean_eq_ok hsuccess
        cases e.success with
        | true => simp
        | false => simp
  · have hfailure : e.success = false := by
      rcases hword with hword | hword
      · rw [hword] at hsuccess
        exact hsuccess
      · rw [hword] at hsuccess
        exact (Except.ok.inj hsuccess).symm
    refine ⟨explanation e.result, ?_, explains_explanation (ofText?_compact_result h hfloat)⟩
    rw [Envelope.payload, hfailure]
    rfl

/-- A rejection whose explanation gives a name twice, and has no message. -/
def repeatingReply : String :=
  "\x7b\"result\":\x7b\"why\":true,\"at\":[\"n1\",null],\"why\":null\x7d,\"isSuccess\":false\x7d"

/-- What it says. -/
def repeatingResult : Value :=
  .object [("at", .array [.string "n1", .null]), ("why", .null)]

/-- It is written out without the value that was replaced. -/
theorem rejection_explained_of_repeating_reply :
    Envelope.ofText repeatingReply = .ok ⟨false, repeatingResult⟩ ∧
      ∃ message, (Envelope.mk false repeatingResult).payload = .error message ∧
        Explains repeatingResult message ∧
          message = "\x7b\"at\":[\"n1\",null],\"why\":null\x7d" := by
  have hdocument : Json.Document.ofText repeatingReply =
      ⟨.object [(some "result", .object [(some "why", .boolean true),
        (some "at", .array [.string (some "n1"), .null] true),
        (some "why", .null)] true), (some "isSuccess", .boolean false)] true, true⟩ := by
    cbv
  have henvelope : Envelope.ofText repeatingReply = .ok ⟨false, repeatingResult⟩ := by
    simp only [Envelope.ofText, Json.decodeText, hdocument]
    rfl
  have hword : (Json.Document.ofText repeatingReply).root.given? 0 "isSuccess" =
      some (.boolean false) := by
    rw [hdocument]
    rfl
  have hfloat : ∀ x, Number.float x ∉ repeatingResult.numbers := by
    simp [repeatingResult, Value.numbers, Json.memberNumbers, Json.itemNumbers]
  obtain ⟨-, hrejected, -⟩ := rejection_explained henvelope
  obtain ⟨message, hmessage, hexplains⟩ := hrejected (.inr hword) hfloat
  refine ⟨henvelope, message, hmessage, hexplains, ?_⟩
  cases hexplains with
  | message h => cases h
  | whole _ _ _ _ => rfl

end Provisioning.Backend
