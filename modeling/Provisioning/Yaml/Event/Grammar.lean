/-
**The grammar of a document.**

At each point a stack says what is expected, the innermost construct first.  A token is either taken
by what is expected, or it shows that nothing more comes for it; then that construct is completed,
with an empty scalar where a node is missing, and the token is looked at again.  Each time this
happens what is expected becomes less, so that every token is taken in the end or is a fault.

Main definitions:

* `Yaml.Expectation`, `Yaml.Expectation.weight` — what can be expected;
* `Yaml.Expectation.meet` — **the grammar**: what a token means for what is expected;
* `Yaml.Progress` — what is kept on the way through a document;
* `Yaml.Document.ofTokens?` — **the first document** of a row of tokens.
-/

import Provisioning.Text.Utf8
import Provisioning.Yaml.Event
import Provisioning.Yaml.Token.Reader

set_option autoImplicit false
set_option relaxedAutoImplicit false

namespace Provisioning.Yaml

/-! ### What is expected -/

/-- Which collections a node may be. -/
inductive Place where
  | block
  /-- In a block mapping, where the items of a sequence need no indentation. -/
  | blockEntry
  | flow
  deriving DecidableEq, Repr

/-- What can be expected. -/
inductive Expectation where
  /-- The content of a document behind its mark. -/
  | content
  /-- A node, whose anchor and tag may have been read. -/
  | node (place : Place) (anchor : Option (List Char)) (tag : Option Tag)
  | blockItem
  | blockItemNode
  /-- An item of a sequence that is not indented. -/
  | looseItem
  | looseItemNode
  | blockKey
  | blockKeyNode
  | blockValue
  | blockValueNode
  /-- An item of a flow sequence, at its beginning or behind a comma. -/
  | flowItem
  | flowItemEnd
  /-- The key of a mapping with one entry in a flow sequence. -/
  | pairKey
  | pairValue
  | pairValueNode
  | pairEnd
  /-- An entry of a flow mapping, at its beginning or behind a comma. -/
  | flowKey
  | flowKeyNode
  | flowValue
  | flowValueNode
  /-- The value of a key that stands without a mark. -/
  | flowNoValue
  | flowEntryEnd
  deriving DecidableEq, Repr

namespace Expectation

/-- Any node at a place. -/
def anyNode (place : Place) : Expectation := .node place none none

/-- How often something can be found missing before a token is taken. -/
def weight : Expectation → Nat
  | .blockItem | .blockKey | .flowItemEnd | .flowEntryEnd => 0
  | .node .. | .looseItem | .blockValue | .pairEnd | .flowValue | .flowNoValue => 1
  | .content | .blockItemNode | .blockValueNode | .flowItem | .pairValue | .flowValueNode => 2
  | .looseItemNode | .blockKeyNode | .pairValueNode | .flowKey | .flowKeyNode => 3
  | .pairKey => 4

end Expectation

/-- How often something can be found missing in all that is expected. -/
def totalWeight : List Expectation → Nat
  | [] => 0
  | expected :: below => expected.weight + totalWeight below

theorem totalWeight_append (above below : List Expectation) :
    totalWeight (above ++ below) = totalWeight above + totalWeight below := by
  induction above with
  | nil => simp [totalWeight]
  | cons expected above ih => simp [totalWeight, ih, Nat.add_assoc]

/-! ### The grammar -/

/-- What a token adds to a document. -/
inductive Addition where
  | alias (name : List Char)
  | event (e : Event) (anchor : Option (List Char))
  deriving DecidableEq, Repr

/-- A scalar that is missing. -/
def Addition.missing : Addition := .event (.scalar .empty) none

/-- What a token means for what is expected; `next` is expected instead. -/
inductive Outcome where
  /-- The token is taken. -/
  | take (added : List Addition) (next : List Expectation)
  /-- The token is still to be looked at. -/
  | leave (added : List Addition) (next : List Expectation)
  | fault
  deriving DecidableEq, Repr

/-- What the handles of tags stand for. -/
abbrev Handles := List (List Char × List UInt8)

/-- The handles that need no directive. -/
def Handles.standard : Handles :=
  [(['!'], [0x21]), (['!', '!'], Utf8.encode "tag:yaml.org,2002:".toList)]

/-- A tag in full, if its handle stands for something. -/
def TagName.resolve? (t : TagName) (handles : Handles) : Option Tag :=
  if t.handle.isEmpty then some t.suffix else (handles.lookup t.handle).map (· ++ t.suffix)

namespace Expectation

/-- A node. -/
def meetNode (handles : Handles) (place : Place) (anchor : Option (List Char)) (tag : Option Tag)
    (t : Token) : Outcome :=
  let bare := anchor.isNone && tag.isNone
  let absent : Outcome :=
    if bare then .fault else .leave [.event (.scalar ⟨.plain, tag, []⟩) anchor] []
  match t with
  | .alias name => if bare then .take [.alias name] [] else absent
  | .anchor name => if anchor.isNone then .take [] [.node place (some name) tag] else absent
  | .tag name =>
    if tag.isNone then
      match name.resolve? handles with
      | some full => .take [] [.node place anchor (some full)]
      | none => .fault
    else absent
  | .scalar style text => .take [.event (.scalar ⟨style, tag, text⟩) anchor] []
  | .flowSequenceStart => .take [.event (.sequenceStart tag) anchor] [.flowItem]
  | .flowMappingStart => .take [.event (.mappingStart tag) anchor] [.flowKey]
  | .blockSequenceStart =>
    if place = .flow then absent else .take [.event (.sequenceStart tag) anchor] [.blockItem]
  | .blockMappingStart =>
    if place = .flow then absent else .take [.event (.mappingStart tag) anchor] [.blockKey]
  | .item =>
    if place = .blockEntry then .take [.event (.sequenceStart tag) anchor] [.looseItemNode]
    else absent
  | _ => absent

/-- A node in front of `next`, or a missing one if the token is one of those that follow a node. -/
def meetNodeOr (place : Place) (following : List Token) (next : Expectation) (t : Token) :
    Outcome :=
  if following.contains t then .leave [.missing] [next] else .leave [] [.anyNode place, next]

/-- **The grammar.** -/
def meet (handles : Handles) (expected : Expectation) (t : Token) : Outcome :=
  match expected with
  | .content =>
    match t with
    | .directive _ | .documentStart | .documentEnd | .streamEnd => .leave [.missing] []
    | _ => .leave [] [.anyNode .block]
  | .node place anchor tag => meetNode handles place anchor tag t
  | .blockItem =>
    match t with
    | .item => .take [] [.blockItemNode]
    | .blockEnd => .take [.event .sequenceEnd none] []
    | _ => .fault
  | .blockItemNode => meetNodeOr .block [.item, .blockEnd] .blockItem t
  | .looseItem =>
    match t with
    | .item => .take [] [.looseItemNode]
    | _ => .leave [.event .sequenceEnd none] []
  | .looseItemNode => meetNodeOr .block [.item, .key, .value, .blockEnd] .looseItem t
  | .blockKey =>
    match t with
    | .key => .take [] [.blockKeyNode]
    | .blockEnd => .take [.event .mappingEnd none] []
    | _ => .fault
  | .blockKeyNode => meetNodeOr .blockEntry [.key, .value, .blockEnd] .blockValue t
  | .blockValue =>
    match t with
    | .value => .take [] [.blockValueNode]
    | _ => .leave [.missing] [.blockKey]
  | .blockValueNode => meetNodeOr .blockEntry [.key, .value, .blockEnd] .blockKey t
  | .flowItem =>
    match t with
    | .flowSequenceEnd => .take [.event .sequenceEnd none] []
    | .key => .take [.event (.mappingStart none) none] [.pairKey]
    | _ => .leave [] [.anyNode .flow, .flowItemEnd]
  | .flowItemEnd =>
    match t with
    | .flowSequenceEnd => .take [.event .sequenceEnd none] []
    | .separator => .take [] [.flowItem]
    | _ => .fault
  | .pairKey =>
    -- the token in whose place the key is missing is taken with it
    if [Token.value, .separator, .flowSequenceEnd].contains t then .take [.missing] [.pairValue]
    else .leave [] [.anyNode .flow, .pairValue]
  | .pairValue =>
    match t with
    | .value => .take [] [.pairValueNode]
    | _ => .leave [.missing] [.pairEnd]
  | .pairValueNode => meetNodeOr .flow [.separator, .flowSequenceEnd] .pairEnd t
  | .pairEnd => .leave [.event .mappingEnd none] [.flowItemEnd]
  | .flowKey =>
    match t with
    | .flowMappingEnd => .take [.event .mappingEnd none] []
    | .key => .take [] [.flowKeyNode]
    | _ => .leave [] [.anyNode .flow, .flowNoValue]
  | .flowKeyNode => meetNodeOr .flow [.value, .separator, .flowMappingEnd] .flowValue t
  | .flowValue =>
    match t with
    | .value => .take [] [.flowValueNode]
    | _ => .leave [.missing] [.flowEntryEnd]
  | .flowValueNode => meetNodeOr .flow [.separator, .flowMappingEnd] .flowEntryEnd t
  | .flowNoValue => .leave [.missing] [.flowEntryEnd]
  | .flowEntryEnd =>
    match t with
    | .flowMappingEnd => .take [.event .mappingEnd none] []
    | .separator => .take [] [.flowKey]
    | _ => .fault

/-- When a token is left, less is expected. -/
theorem weight_of_leave {handles : Handles} {expected : Expectation} {t : Token}
    {added : List Addition} {next : List Expectation}
    (hmeet : expected.meet handles t = .leave added next) :
    totalWeight next < expected.weight := by
  cases expected <;> simp only [meet, meetNode, meetNodeOr] at hmeet <;>
    (repeat' split at hmeet) <;>
    first
      | contradiction
      | (simp only [Outcome.leave.injEq] at hmeet
         obtain ⟨-, rfl⟩ := hmeet
         simp [totalWeight, weight, anyNode])

end Expectation

/-! ### Documents -/

/-- What is kept on the way through a document. -/
structure Progress where
  stack : List Expectation
  handles : Handles
  /-- The number of each anchor's name; a number is how many names there were before. -/
  names : List (List Char × Nat) := []
  /-- What happened so far, the last event first. -/
  events : List Event := []
  nodes : List (Nat × Event) := []

namespace Progress

/-- Give an anchor's name to an event. -/
def name (p : Progress) (anchor : Option (List Char)) (e : Event) : Progress :=
  match anchor with
  | none => p
  | some name =>
    let number := p.names.length
    { p with
      names := (name, number) :: p.names.filter (·.1 ≠ name)
      nodes := (number, e) :: p.nodes }

/-- Add to the document; nothing if a name is used that no anchor has. -/
def add? (p : Progress) : Addition → Option Progress
  | .alias name =>
    (p.names.lookup name).map fun number => { p with events := .alias number :: p.events }
  | .event e anchor => let p := p.name anchor e; some { p with events := e :: p.events }

/-- How far a token brings a document. -/
inductive Step where
  /-- The token belongs to the document. -/
  | taken (p : Progress)
  /-- The document ends in front of the token. -/
  | finished (p : Progress)
  | fault (p : Progress)

/-- Read a token. -/
def feed (t : Token) (p : Progress) : Step :=
  match stacked : p.stack with
  | [] => .finished p
  | expected :: below =>
    match met : expected.meet p.handles t with
    | .fault => .fault p
    | .take added next =>
      match added.foldlM add? p with
      | none => .fault p
      | some q => .taken { q with stack := next ++ below }
    | .leave added next =>
      have : totalWeight (next ++ below) < totalWeight p.stack := by
        rw [stacked, totalWeight_append, totalWeight]
        exact Nat.add_lt_add_right (Expectation.weight_of_leave met) _
      match added.foldlM add? p with
      | none => .fault p
      | some q => feed t { q with stack := next ++ below }
termination_by totalWeight p.stack

/-- The document so far. -/
def document (p : Progress) (isWhole : Bool) : Document := ⟨p.events.reverse, p.nodes, isWhole⟩

/-- Read a document to its end.  It is alone if only marks of its end follow. -/
def read (p : Progress) : List Token → Document
  | [] => p.document false
  | t :: rest =>
    match p.feed t with
    | .taken q => q.read rest
    | .finished q => q.document ((t :: rest).dropWhile (· == .documentEnd) == [.streamEnd])
    | .fault q => q.document false

end Progress

/-- The handles after the directives in front of a document; nothing if a directive is given twice
or the version is not one that is known. -/
def Handles.declare? (versioned : Bool) (declared : Handles) : List Directive → Option Handles
  | [] => some (declared ++ .standard)
  | .version major minor :: rest =>
    if versioned || major ≠ 1 || (minor ≠ 1 && minor ≠ 2) then none
    else declare? true declared rest
  | .handle name stands :: rest =>
    if (declared.lookup name).isSome then none
    else declare? versioned (declared ++ [(name, stands)]) rest

/-- The directive that a token is. -/
def Token.directive? : Token → Option Directive
  | .directive d => some d
  | _ => none

/-- A document that is faulty from its beginning. -/
def Document.faulty : Document := ⟨[], [], false⟩

/-- **The first document** of a row of tokens; nothing if there is none.  Directives in front of it
need its mark. -/
def Document.ofTokens? (tokens : List Token) : Option Document :=
  let directives := (tokens.takeWhile (·.directive?.isSome)).filterMap (·.directive?)
  let begin (handles : Handles) (expected : Expectation) (rest : List Token) : Option Document :=
    some (({ stack := [expected], handles } : Progress).read rest)
  match directives, tokens.drop directives.length with
  | [], .streamEnd :: _ => none
  | _, .documentStart :: rest =>
    match Handles.declare? false [] directives with
    | some handles => begin handles .content rest
    | none => some .faulty
  | [], rest => begin .standard (.anyNode .block) rest
  | _, _ => some .faulty

/-- **The first document** of a text; nothing if there is none. -/
def Document.ofText? (text : List Char) : Option Document :=
  Document.ofTokens? (tokens text)

end Provisioning.Yaml
