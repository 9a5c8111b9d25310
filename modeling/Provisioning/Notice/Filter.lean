/-
**Filters of notices.**

Which notices are shown is said by directives.  Those that only speak of notices are ranked: of the
ones that concern a notice the one with the longest path counts, then one that asks for something
named apart, and of two that ask for the same the last.  Those that speak of a stretch of work show
what is said in its course, whatever the others say; here a run is the only stretch of work.  But a
run is only followed at all if some directive shows as much as informative notices.

Main definitions:

* `Notice.Filter.ofText?` — **the filter** of a text;
* `Notice.Filter.ofVerbosity` — the filter where there is no text;
* `Notice.Filter.admits` — **whether a notice is shown**;
* `Notice.Filter.follows` — whether it is shown in the course of which run a notice was given.
-/

import Provisioning.Notice.Directive
import Provisioning.RunId

set_option autoImplicit false
set_option relaxedAutoImplicit false

namespace Provisioning.Notice

/-- A filter. -/
structure Filter where
  directives : List Directive
  deriving DecidableEq, Repr

/-! ### Directives that concern something -/

namespace Directive

/-- The rank of the last severity that is shown. -/
def rank (d : Directive) : Nat := (d.level.map (·.rank)).getD 0

/-- Whether a directive speaks of a part of the program. -/
def reaches (d : Directive) (o : Origin) : Bool := d.target.all (·.isPrefixOf o.path.toList)

/-- Whether a directive only speaks of notices. -/
def ofNotices (d : Directive) : Bool := d.scope.isNone && d.field.all (·.pattern.isNone)

/-- Whether a directive speaks of stretches of work; one that only asks for something named apart
speaks of notices as well. -/
def ofScopes (d : Directive) : Bool := d.scope.isSome || d.field.isSome

/-- Whether a directive concerns a notice. -/
def concerns (d : Directive) (n : Notice) : Bool :=
  d.ofNotices && d.reaches n.origin && d.field.all fun f =>
    n.fieldNames.contains (String.ofList f.name)

/-- Whether a directive concerns runs. -/
def concernsRuns (d : Directive) : Bool :=
  d.ofScopes && d.reaches .orchestrator && d.scope.all (· = runScope.toList) &&
    d.field.all (·.name = runField.toList)

/-- The length of a directive's path; one without a path comes before all others. -/
def reach (d : Directive) : Nat :=
  match d.target with
  | some target => target.length + 1
  | none => 0

/-- The name of what is asked for; no name is before all others. -/
def fieldName (d : Directive) : List Char := (d.field.map (·.name)).getD []

/-- Whether another directive counts before a directive, or as much, where both concern
something. -/
def yieldsTo (d other : Directive) : Bool :=
  d.reach < other.reach || (d.reach = other.reach &&
    !List.lex other.fieldName d.fieldName fun a b => a.toNat < b.toNat)

/-- Whether two directives speak of the same. -/
def isAbout (d other : Directive) : Bool :=
  d.target = other.target && d.scope = other.scope && d.field = other.field

/-- The last of the directives that count most. -/
def governing? (ds : List Directive) : Option Directive :=
  ds.foldl (fun best d => if best.all (·.yieldsTo d) then some d else best) none

/-- The directives without those that a later one takes the place of. -/
def latest : List Directive → List Directive
  | [] => []
  | d :: rest => if rest.any d.isAbout then latest rest else d :: latest rest

end Directive

namespace Filter

/-! ### Filters -/

/-- **The filter** of a text, if each of its directives can be read: they have commas between them.
Without any directive nothing is shown. -/
def ofText? (text : String) : Option Filter := do
  let pieces := (text.toList.splitOn ',').filter (!·.isEmpty)
  return ⟨← pieces.mapM Directive.ofText?⟩

/-- The filter where there is no text: each time more notices were asked for, one severity more is
shown, beginning with warnings. -/
def ofVerbosity (verbose : Nat) : Filter :=
  let level : Severity :=
    match verbose with
    | 0 => .warn
    | 1 => .info
    | 2 => .debug
    | _ => .trace
  ⟨[{ level := some level }]⟩

/-! ### Runs -/

/-- Whether runs are noticed at all. -/
def noticesRuns (f : Filter) : Bool :=
  f.directives.any fun d => Severity.info.rank ≤ d.rank || d.field.any (·.pattern.isSome)

/-- The directives that concern runs. -/
def ofRuns (f : Filter) : List Directive :=
  Directive.latest (f.directives.filter (·.concernsRuns))

/-- Whether it is shown in the course of which run a notice was given. -/
def follows (f : Filter) : Bool :=
  let shown := Directive.governing? (f.directives.filter fun d =>
    d.ofNotices && d.reaches .orchestrator)
  f.noticesRuns && (!f.ofRuns.isEmpty || shown.any (Severity.info.rank ≤ ·.rank))

/-- Whether a run shows a notice that is given in its course. -/
def admitsInRun (f : Filter) (id : RunId) (n : Notice) : Bool :=
  f.noticesRuns && f.ofRuns.any fun d =>
    n.severity.rank ≤ d.rank && d.field.all (·.admits id.text)

/-! ### Notices -/

/-- **Whether a notice is shown**, given perhaps in the course of a run. -/
def admits (f : Filter) (run : Option RunId) (n : Notice) : Bool :=
  run.any (f.admitsInRun · n) ||
    (Directive.governing? (f.directives.filter (·.concerns n))).any (n.severity.rank ≤ ·.rank)

end Filter

end Provisioning.Notice
