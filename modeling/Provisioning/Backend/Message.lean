/-
**Messages on a connection.**

A request is written as a head of lines and a body of a length that the head tells.  An answer is
read from the bytes that have arrived: its head ends at the first empty line, and says whether the
body has a counted length, comes in chunks, or goes on until the connection ends.  Reading is a
function of all bytes so far, so it does not matter in which portions they came.

Main definitions:

* `Message.ofRequest` — **the bytes of a request**;
* `Message.Framing`, `Message.Head` — what the head of an answer says;
* `Message.answer?` — the answer, as soon as all of it has arrived;
* `Message.ended` — **how the exchange ended**, if no more bytes will arrive.
-/

import Provisioning.Backend.Exchange
import Provisioning.Json.Writer
import Provisioning.Text.Digits

set_option autoImplicit false
set_option relaxedAutoImplicit false

namespace Provisioning.Backend.Message

/-! ### Requests -/

/-- The name of a method. -/
def methodName : Method → String
  | .get => "GET"
  | .post => "POST"

/-- The host and port that a request is for. -/
def hostText (u : Url) : String :=
  String.ofList (u.host.getD [] ++ match u.port with
    | some n => ':' :: Nat.toDigits 10 n
    | none => [])

/-- **The bytes of a request.**  It is the only one on its connection. -/
def ofRequest (r : HttpRequest) : List UInt8 :=
  let body := match r.body with
    | some v => Utf8.encode v.compact.toList
    | none => []
  let about := match r.body with
    | some _ => ["content-type: application/json", s!"content-length: {body.length}"]
    | none => []
  let lines := s!"{methodName r.method} {r.target} HTTP/1.1" :: s!"host: {hostText r.url}"
    :: "accept: */*" :: "connection: close" :: about
  Utf8.encode (lines.flatMap fun line => line.toList ++ ['\r', '\n']) ++ [13, 10] ++ body

/-! ### Lines -/

/-- A line without the carriage return at its end. -/
def trimLine (reversed : List UInt8) : List UInt8 :=
  match reversed with
  | 13 :: rest => rest.reverse
  | line => line.reverse

/-- The first line, of which `reversed` is read already, and the bytes behind it, if it ends. -/
def line? : (reversed : List UInt8) → List UInt8 → Option (List UInt8 × List UInt8)
  | _, [] => none
  | reversed, b :: rest =>
    if b = 10 then some (trimLine reversed, rest) else line? (b :: reversed) rest

theorem length_lt_of_line? {reversed bytes line rest : List UInt8}
    (hline : line? reversed bytes = some (line, rest)) : rest.length < bytes.length := by
  induction bytes generalizing reversed with
  | nil => simp [line?] at hline
  | cons b bytes ih =>
    by_cases hend : b = 10
    · simp only [line?, hend, if_true, Option.some.injEq, Prod.mk.injEq] at hline
      simp [← hline.2]
    · simp only [line?, hend, if_false] at hline
      exact Nat.lt_succ_of_lt (ih hline)

/-- The lines up to the first empty one, and the bytes behind that. -/
def lines? (bytes : List UInt8) : Option (List (List UInt8) × List UInt8) :=
  match hline : line? [] bytes with
  | none => none
  | some ([], rest) => some ([], rest)
  | some (line, rest) =>
    have := length_lt_of_line? hline
    (lines? rest).map fun (lines, rest) => (line :: lines, rest)
termination_by bytes.length

/-! ### Heads -/

/-- How the end of a body is told. -/
inductive Framing where
  | counted (length : Nat)
  | chunked
  /-- The body goes on until the connection ends. -/
  | open
  deriving DecidableEq, Repr

/-- What the head of an answer says. -/
structure Head where
  status : Nat
  framing : Framing
  deriving DecidableEq, Repr

/-- The status that the first line gives. -/
def status? (line : List Char) : Option Nat :=
  if "HTTP/1.".toList.isPrefixOf line then
    let status := ((line.dropWhile (· != ' ')).drop 1).takeWhile (· != ' ')
    if status.length = 3 then Digits.some? 10 status else none
  else none

/-- A text without the blanks around it. -/
def trimmed (text : List Char) : List Char :=
  let isBlank (c : Char) : Bool := c == ' ' || c == '\t'
  ((text.dropWhile isBlank).reverse.dropWhile isBlank).reverse

/-- The value of the first field of a name, in lower case. -/
def field? (name : String) (lines : List (List Char)) : Option (List Char) :=
  let fields := lines.map fun line =>
    (line.takeWhile (· != ':'), (line.dropWhile (· != ':')).drop 1)
  (fields.find? fun (n, _) => n.map Char.toLower == name.toList).map fun (_, value) =>
    (trimmed value).map Char.toLower

/-- Whether answers of a status have no body. -/
def isBodiless (status : Nat) : Bool := status = 204 || status = 304

/-- How the end of the body is told. -/
def framing (status : Nat) (lines : List (List Char)) : Framing :=
  if isBodiless status then .counted 0
  else
    let length := (field? "content-length" lines).bind (Digits.some? 10)
    match field? "transfer-encoding" lines, length with
    | some coding, _ => if coding == "chunked".toList then .chunked else .open
    | none, some length => .counted length
    | none, none => .open

/-- The head of an answer and the bytes behind it, if all of it has arrived. -/
def head? (bytes : List UInt8) : Option (Head × List UInt8) := do
  let (lines, rest) ← lines? bytes
  match lines.map Utf8.decodeLossy with
  | [] => none
  | first :: fields =>
    let status ← status? first
    return (⟨status, framing status fields⟩, rest)

/-! ### Bodies -/

/-- The length that the line of a chunk gives. -/
def chunkLength? (line : List UInt8) : Option Nat :=
  Digits.some? 16 (trimmed ((Utf8.decodeLossy line).takeWhile (· != ';')))

/-- A body in chunks, if its last chunk has arrived. -/
def chunks? (bytes : List UInt8) : Option (List UInt8) :=
  match hline : line? [] bytes with
  | none => none
  | some (line, rest) =>
    match chunkLength? line with
    | none => none
    | some 0 => some []
    | some length =>
      if rest.length < length + 2 then none
      else
        have := length_lt_of_line? hline
        (chunks? (rest.drop (length + 2))).map fun more => rest.take length ++ more
termination_by bytes.length

/-- The body, if its end has arrived. -/
def body? : Framing → List UInt8 → Option (List UInt8)
  | .counted length, bytes => if bytes.length < length then none else some (bytes.take length)
  | .chunked, bytes => chunks? bytes
  | .open, _ => none

/-! ### Answers -/

/-- The answer, as soon as all of it has arrived. -/
def answer? (bytes : List UInt8) : Option Exchange := do
  let (head, rest) ← head? bytes
  let body ← body? head.framing rest
  return .answered head.status (some body)

/-- **How the exchange ended**, if no more bytes will arrive: the connection has ended, or else the
time limit has struck. -/
def ended (limitStruck : Bool) (bytes : List UInt8) : Exchange :=
  match head? bytes with
  | none => if limitStruck then .timedOut else .unreachable
  | some (head, rest) =>
    if head.framing = .open && !limitStruck then .answered head.status (some rest)
    else .answered head.status (body? head.framing rest)

/-- An answer that has arrived in full is how the exchange ends, whatever strikes later. -/
theorem ended_eq_of_answer? {bytes : List UInt8} {e : Exchange} (hanswer : answer? bytes = some e)
    (limitStruck : Bool) : ended limitStruck bytes = e := by
  simp only [answer?, Option.bind_eq_bind, Option.bind_eq_some_iff, Option.pure_def] at hanswer
  obtain ⟨⟨head, rest⟩, hhead, body, hbody, heq⟩ := hanswer
  have hclosed : head.framing ≠ .open := by
    intro hopen
    simp [hopen, body?] at hbody
  simp only [ended, hhead, hclosed, decide_false, Bool.false_and, Bool.false_eq_true, if_false,
    hbody]
  exact Option.some.inj heq

end Provisioning.Backend.Message
