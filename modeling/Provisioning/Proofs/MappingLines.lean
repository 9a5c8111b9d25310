/-
**Mappings that are written line by line.**

A mapping can be written with one entry to a line: a key of one word, a colon and a blank, and a
value that is one word or stands in double quotes.  Between the entries there may be lines with
nothing but blanks, and lines with a comment.

What stands between two entries is passed over in different ways: behind a word in search of another
word of the same scalar, and behind a closing quote in search of the next token.  In the end the
reader is at the same place, at the beginning of the next entry or at the end of the text.

Main definitions:

* `Yaml.IsWord`, `Yaml.IsPrintable`, `Yaml.IsRemark` — words, and the texts of quotes and comments;
* `Yaml.Pair`, `Yaml.Line` — entries of a mapping, and lines;
* `Yaml.source` — **the text** of some lines, and `Yaml.behind` — what is behind a line;
* `Yaml.Arrives`, `Yaml.Stops` — on the way to the next entry.

Main results:

* `Yaml.arrives_behind` — **what is between two entries** is passed over;
* `Yaml.stops_behind` — a plain scalar at the end of a line ends there;
* `Yaml.doubleQuoted?_printable` — a text in double quotes that stands for itself.
-/

import Mathlib.Algebra.GroupWithZero.Nat
import Mathlib.Data.List.TakeWhile
import Provisioning.Yaml.Token.Reader

set_option relaxedAutoImplicit false
set_option autoImplicit false

namespace Provisioning.Yaml

open Reader (nextToken)

/-! ### Lines -/

/-- A text that may be a name, and begins with a letter or a digit. -/
structure IsWord (text : List Char) : Prop where
  head : ∃ c rest, text = c :: rest ∧ c.isAlphanum = true
  all : ∀ c ∈ text, isNameCharacter c = true

/-- A text that stands for itself in double quotes. -/
def IsPrintable (text : List Char) : Prop :=
  ∀ c ∈ text, 0x20 ≤ c.toNat ∧ c.toNat ≤ 0x7e ∧ c ≠ '\x22' ∧ c ≠ '\\'

/-- A text that may stand behind a number sign: it goes on to the end of the line. -/
def IsRemark (text : List Char) : Prop :=
  ∀ c ∈ text, isAllowed c = true ∧ isBreak c = false ∧ c ≠ '\r' ∧ c.toNat ≠ 0x85

instance : DecidablePred IsPrintable := fun text => List.decidableBAll _ text

instance : DecidablePred IsRemark := fun text => List.decidableBAll _ text

/-- An entry of a mapping. -/
structure Pair where
  key : List Char
  style : Style
  value : List Char
  deriving DecidableEq, Repr

/-- Lines with an entry, with nothing but blanks, and with a comment behind blanks. -/
inductive Line (α : Type) where
  | entry (a : α)
  | blank (count : Nat)
  | comment (indent : Nat) (text : List Char)
  deriving DecidableEq, Repr

namespace Pair

/-- The text of the value. -/
def shown (a : Pair) : List Char :=
  match a.style with
  | .doubleQuoted => '\x22' :: (a.value ++ ['\x22'])
  | _ => a.value

/-- The text of an entry. -/
def chars (a : Pair) : List Char := a.key ++ ':' :: ' ' :: a.shown

/-- The tokens of an entry. -/
def tokens (a : Pair) : List Token :=
  [.key, .scalar .plain a.key, .value, .scalar a.style a.value]

/-- An entry of one line. -/
structure IsSimple (a : Pair) : Prop where
  key : IsWord a.key
  short : a.key.length ≤ 1024
  value : a.style = .plain ∧ IsWord a.value ∨ a.style = .doubleQuoted ∧ IsPrintable a.value

end Pair

namespace Line

/-- The text of a line. -/
def chars : Line Pair → List Char
  | .entry a => a.chars
  | .blank count => List.replicate count ' '
  | .comment indent text => List.replicate indent ' ' ++ '#' :: text

/-- A line of a mapping that is written line by line. -/
def IsSimple : Line Pair → Prop
  | .entry a => a.IsSimple
  | .blank _ => True
  | .comment _ text => IsRemark text

/-- The entry of a line. -/
def entry? {α : Type} : Line α → Option α
  | .entry a => some a
  | _ => none

/-- The same line with another entry. -/
def map {α β : Type} (f : α → β) : Line α → Line β
  | .entry a => .entry (f a)
  | .blank count => .blank count
  | .comment indent text => .comment indent text

end Line

/-- **The text** of some lines. -/
def source (lines : List (Line Pair)) : List Char := ['\n'].intercalate (lines.map Line.chars)

/-- What is behind a line: the end of the text, or a break and the lines that follow. -/
def behind (lines : List (Line Pair)) : List Char := if lines = [] then [] else '\n' :: source lines

/-- The lines from the next entry on. -/
def toEntry (lines : List (Line Pair)) : List (Line Pair) :=
  lines.dropWhile fun l => l.entry?.isNone

/-- The entries of some lines. -/
def entriesOf {α : Type} (lines : List (Line α)) : List α := lines.filterMap Line.entry?

variable {lines rest : List (Line Pair)} {l : Line Pair} {a : Pair}

@[simp] theorem source_nil : source [] = [] := rfl

@[simp] theorem behind_nil : behind [] = [] := rfl

theorem source_cons (l : Line Pair) (rest : List (Line Pair)) :
    source (l :: rest) = l.chars ++ behind rest := by
  cases rest with
  | nil => exact List.intercalate_singleton.trans (List.append_nil _).symm
  | cons next rest =>
      rw [source, behind, if_neg (List.cons_ne_nil _ _), List.map_cons, List.map_cons,
        List.intercalate_cons_cons, List.append_assoc]
      rfl

theorem behind_of_ne_nil (h : lines ≠ []) : behind lines = '\n' :: source lines := if_neg h

theorem entriesOf_map {α β : Type} (f : α → β) (lines : List (Line α)) :
    entriesOf (lines.map (Line.map f)) = (entriesOf lines).map f := by
  rw [entriesOf, entriesOf, List.filterMap_map, List.map_filterMap]
  congr 1
  funext l
  cases l <;> rfl

/-- The lines from the next entry on begin with that entry. -/
theorem toEntry_of_entries {more : List Pair} (h : entriesOf lines = a :: more) :
    ∃ rest, toEntry lines = .entry a :: rest ∧ entriesOf rest = more := by
  induction lines with
  | nil => cases h
  | cons l lines ih =>
      cases l with
      | entry b =>
          obtain ⟨rfl, hmore⟩ := List.cons_eq_cons.mp h
          exact ⟨lines, rfl, hmore⟩
      | blank count => exact ih h
      | comment indent text => exact ih h

theorem toEntry_of_no_entries (h : entriesOf lines = []) : toEntry lines = [] := by
  rw [toEntry, List.dropWhile_eq_nil_iff]
  intro l hl
  rw [Option.isNone_iff_eq_none]
  exact List.filterMap_eq_nil_iff.mp h l hl

theorem mem_of_mem_toEntry (h : l ∈ toEntry lines) : l ∈ lines :=
  (List.dropWhile_suffix _).subset h

/-! ### Characters -/

variable {c : Char} {text white more before : List Char} {p : Position} {m : Margin}
  {allowed comment : Bool}

theorem ne_of_isNameCharacter (h : isNameCharacter c = true) {d : Char}
    (hd : isNameCharacter d = false) : c ≠ d := by
  rintro rfl
  cases hd.symm.trans h

/-- The characters of names are between the hyphen and the last letter. -/
theorem toNat_of_isNameCharacter (h : isNameCharacter c = true) :
    0x2d ≤ c.toNat ∧ c.toNat ≤ 0x7a := by
  have hranges : isNameCharacter c =
      (((decide ('A'.val ≤ c.val ∧ c.val ≤ 'Z'.val) || 'a'.val ≤ c.val && c.val ≤ 'z'.val) ||
        '0'.val ≤ c.val && c.val ≤ '9'.val) || c == '_' || c == '-') := rfl
  simp only [hranges, Bool.or_eq_true, Bool.and_eq_true, decide_eq_true_eq, beq_iff_eq,
    UInt32.le_iff_toNat_le] at h
  rcases h with (((⟨hlow, hhigh⟩ | ⟨hlow, hhigh⟩) | ⟨hlow, hhigh⟩) | rfl) | rfl
  · exact ⟨Nat.le_trans (by decide) hlow, Nat.le_trans hhigh (by decide)⟩
  · exact ⟨Nat.le_trans (by decide) hlow, Nat.le_trans hhigh (by decide)⟩
  · exact ⟨Nat.le_trans (by decide) hlow, Nat.le_trans hhigh (by decide)⟩
  · decide
  · decide

theorem isNameCharacter_of_isAlphanum (h : c.isAlphanum = true) : isNameCharacter c = true := by
  rw [isNameCharacter, h]
  rfl

/-- Names have no white space. -/
theorem isWhite_of_isNameCharacter (h : isNameCharacter c = true) : isWhite c = false := by
  have hhigh := (toNat_of_isNameCharacter h).2
  have hblank := ne_of_isNameCharacter h (d := ' ') rfl
  have htab := ne_of_isNameCharacter h (d := '\t') rfl
  have hfeed := ne_of_isNameCharacter h (d := '\n') rfl
  simp only [isWhite, isBlank, isBreak, Bool.or_eq_false_iff, beq_eq_false_iff_ne]
  exact ⟨⟨hblank, htab⟩, ⟨hfeed, by omega⟩, by omega⟩

theorem isBreak_of_isWhite (h : isWhite c = false) : isBreak c = false :=
  (Bool.or_eq_false_iff.mp h).2

/-- **A place further on in a line.** -/
theorem behind_eq (h : ∀ c ∈ text, isBreak c = false) : p.behind text =
    ⟨p.line, p.column + text.length, p.bytes + (text.map Char.utf8Size).sum⟩ := by
  induction text generalizing p with
  | nil => rfl
  | cons c text ih =>
      obtain ⟨hc, h⟩ := List.forall_mem_cons.mp h
      have hafter : p.after c = ⟨p.line, p.column + 1, p.bytes + c.utf8Size⟩ := by
        rw [Position.after, hc, if_neg Bool.false_ne_true]
      have hih := @ih (p.after c) h
      rw [Position.behind] at hih ⊢
      rw [List.foldl_cons, hih, hafter, List.length_cons, List.map_cons, List.sum_cons]
      simp only [Position.mk.injEq, true_and]
      omega

/-- A character of a name is one byte. -/
theorem bytes_of_isWord (h : ∀ c ∈ text, isNameCharacter c = true) :
    (text.map Char.utf8Size).sum = text.length := by
  have hone : ∀ c ∈ text, c.utf8Size = 1 := fun c hc =>
    Char.utf8Size_eq_one_iff.mpr (UInt32.le_iff_toNat_le.mpr
      (Nat.le_trans (toNat_of_isNameCharacter (h c hc)).2 (by decide)))
  rw [List.map_congr_left hone, List.map_const', List.sum_replicate_nat, Nat.mul_one]

/-- A text that begins with an entry begins with its key. -/
theorem source_entry (ha : a.IsSimple) (lines : List (Line Pair)) :
    ∃ c rest, source (.entry a :: lines) = c :: rest ∧ isNameCharacter c = true := by
  obtain ⟨c, rest, hkey, hc⟩ := ha.key.head
  refine ⟨c, rest ++ ':' :: ' ' :: a.shown ++ behind lines, ?_, isNameCharacter_of_isAlphanum hc⟩
  rw [source_cons, Line.chars, Pair.chars, hkey]
  rfl

/-! ### On the way to the next entry -/

/-- Blanks are passed over. -/
theorem nextToken_blanks (count : Nat) :
    nextToken false allowed false p (List.replicate count ' ' ++ more) =
      nextToken false allowed false (p.behind (List.replicate count ' ')) more := by
  induction count generalizing p with
  | zero => rfl
  | succ count ih =>
      rw [List.replicate_succ, List.cons_append, nextToken, if_neg (by decide), if_neg (by decide),
        if_neg (by simp), if_pos (by simp), ih]
      rfl

/-- A comment is passed over up to the end of its line. -/
theorem nextToken_comment (h : ∀ c ∈ text, isBreak c = false) :
    nextToken false allowed true p (text ++ more) =
      nextToken false allowed true (p.behind text) more := by
  induction text generalizing p with
  | nil => rfl
  | cons c text ih =>
      obtain ⟨hc, h⟩ := List.forall_mem_cons.mp h
      rw [List.cons_append, nextToken, hc, if_neg Bool.false_ne_true, Bool.true_or, if_pos rfl,
        ih h]
      rfl

/-- A token is not passed over. -/
theorem nextToken_of_isWhite (hc : isWhite c = false) (hsharp : c ≠ '#') (hmark : c ≠ '\ufeff') :
    nextToken false allowed false p (c :: more) = (allowed, ⟨c :: more, p⟩) := by
  have hblank : c ≠ ' ' := by
    rintro rfl
    cases hc
  have htab : c ≠ '\t' := by
    rintro rfl
    cases hc
  rw [nextToken, isBreak_of_isWhite hc]
  simp [hsharp, hmark, hblank, htab]

theorem nextToken_word (hc : isNameCharacter c = true) :
    nextToken false allowed false p (c :: more) = (allowed, ⟨c :: more, p⟩) :=
  nextToken_of_isWhite (isWhite_of_isNameCharacter hc) (ne_of_isNameCharacter hc rfl)
    (ne_of_isNameCharacter hc (by decide))

/-- **A place from which the reader gets to the next entry**, at the beginning of its line, or to
the end of the text. -/
def Arrives (allowed comment : Bool) (p : Position) (text : List Char) (lines : List (Line Pair)) :
    Prop :=
  ∃ b q, nextToken false allowed comment p text = (b, ⟨source (toEntry lines), q⟩) ∧
    (toEntry lines ≠ [] → b = true ∧ q.column = 0)

theorem Arrives.behind
    (h : ∀ q : Position, q.column = 0 → Arrives true false q (source lines) lines) :
    Arrives allowed comment p (behind lines) lines := by
  by_cases hlines : lines = []
  · subst hlines
    exact ⟨allowed, p, rfl, fun hne => absurd rfl hne⟩
  · obtain ⟨b, q, hnext, hentry⟩ := h (p.after '\n') rfl
    refine ⟨b, q, ?_, hentry⟩
    rw [behind_of_ne_nil hlines, nextToken, if_pos (by decide), Bool.not_false, Bool.or_true, hnext]

theorem arrives_source (hlines : ∀ l ∈ lines, l.IsSimple) (hp : p.column = 0) :
    Arrives true false p (source lines) lines := by
  induction lines generalizing p with
  | nil => exact ⟨true, p, rfl, fun hne => absurd rfl hne⟩
  | cons l lines ih =>
      obtain ⟨hl, hlines⟩ := List.forall_mem_cons.mp hlines
      have hbehind {allowed comment : Bool} {p : Position} :
          Arrives allowed comment p (behind lines) lines := Arrives.behind fun q hq => ih hlines hq
      cases l with
      | entry a =>
          obtain ⟨c, rest, hsource, hc⟩ := source_entry hl lines
          refine ⟨true, p, ?_, fun _ => ⟨rfl, hp⟩⟩
          rw [toEntry, List.dropWhile_cons_of_neg (by simp [Line.entry?]), hsource]
          exact nextToken_word hc
      | blank count =>
          obtain ⟨b, q, hnext, hentry⟩ := hbehind
          refine ⟨b, q, ?_, hentry⟩
          rw [source_cons, Line.chars, nextToken_blanks]
          exact hnext
      | comment indent text =>
          obtain ⟨b, q, hnext, hentry⟩ := hbehind
          refine ⟨b, q, ?_, hentry⟩
          rw [source_cons, Line.chars, List.append_assoc, nextToken_blanks, List.cons_append,
            nextToken, if_neg (by decide), if_pos (by simp), nextToken_comment]
          · exact hnext
          · exact fun c hc => (hl c hc).2.1

/-- **What is between two entries** is passed over. -/
theorem arrives_behind (hlines : ∀ l ∈ lines, l.IsSimple) :
    Arrives allowed comment p (behind lines) lines :=
  Arrives.behind fun _ hq => arrives_source hlines hq

/-! ### Scalars -/

/-- The characters of a word belong to a plain scalar. -/
theorem plain?_word (hflow : m.flow = false) (h : ∀ c ∈ text, isNameCharacter c = true) :
    plain? m before [] p (text ++ more) =
      plain? m (text.reverse ++ before) [] (p.behind text) more := by
  induction text generalizing before p with
  | nil => rfl
  | cons c text ih =>
      obtain ⟨hc, h⟩ := List.forall_mem_cons.mp h
      have hcolon : c ≠ ':' := ne_of_isNameCharacter hc rfl
      rw [List.cons_append, plain?, isWhite_of_isNameCharacter hc, if_neg Bool.false_ne_true,
        if_neg (by simp), if_neg (by simp [hflow]), if_neg (by simp [hflow, hcolon]), ih h,
        fold_nil, List.nil_append, List.reverse_cons, List.append_assoc]
      rfl

/-- A colon in front of a blank ends a plain scalar. -/
theorem plain?_colon (hflow : m.flow = false) :
    plain? m before [] p (':' :: ' ' :: more) =
      some ((before.reverse, false), ⟨':' :: ' ' :: more, p⟩) := by
  rw [plain?, if_neg (by decide), if_neg (by simp), if_neg (by simp [hflow]),
    if_pos (by simp [endsWord, isWhite, isBlank])]
  rfl

/-- Blanks may be followed by another word of a plain scalar. -/
theorem plain?_blanks (count : Nat) :
    plain? m before white p (List.replicate count ' ' ++ more) =
      plain? m before (List.replicate count ' ' ++ white) (p.behind (List.replicate count ' '))
        more := by
  induction count generalizing white p with
  | zero => rfl
  | succ count ih =>
      have hrun : List.replicate count ' ' ++ ' ' :: white =
          List.replicate (count + 1) ' ' ++ white := by
        rw [List.replicate_succ', List.append_assoc, List.singleton_append]
      rw [List.replicate_succ, List.cons_append, plain?, if_pos (by decide), if_neg (by simp), ih,
        hrun]
      rfl

/-- A plain scalar has no word that is excluded. -/
theorem plain?_excluded (hc : isWhite c = false) (hrun : white.any isBreak = true)
    (h : m.excludes p (c :: more) = true) :
    plain? m before white p (c :: more) = some ((before.reverse, true), ⟨c :: more, p⟩) := by
  have hne : white.isEmpty = false := by
    cases white with
    | nil => cases hrun
    | cons d white => rfl
  rw [plain?, hc, if_neg Bool.false_ne_true, hne, h, if_pos (by decide), hrun]

/-- What a plain scalar at the end of a line is followed by: not by another word of it, but by a
place from which the reader gets to the next entry. -/
def Stops (m : Margin) (before white : List Char) (p : Position) (text : List Char)
    (lines : List (Line Pair)) : Prop :=
  ∃ ended rest q, plain? m before white p text = some ((before.reverse, ended), ⟨rest, q⟩) ∧
    Arrives ended false q rest lines

theorem Stops.behind
    (h : ∀ white (q : Position), white.any isBreak = true → q.column = 0 →
      Stops m before white q (source lines) lines) :
    Stops m before white p (behind lines) lines := by
  by_cases hlines : lines = []
  · subst hlines
    exact ⟨_, [], p, rfl, _, p, rfl, fun hne => absurd rfl hne⟩
  · obtain ⟨ended, rest, q, hplain, harrives⟩ := h ('\n' :: white) (p.after '\n') rfl rfl
    refine ⟨ended, rest, q, ?_, harrives⟩
    rw [behind_of_ne_nil hlines, plain?, if_pos (by decide), if_neg (by simp), hplain]

theorem stops_source (hflow : m.flow = false) (hleast : m.least = 1)
    (hlines : ∀ l ∈ lines, l.IsSimple) (hrun : white.any isBreak = true) (hp : p.column = 0) :
    Stops m before white p (source lines) lines := by
  induction lines generalizing white p with
  | nil => exact ⟨_, [], p, rfl, _, p, rfl, fun hne => absurd rfl hne⟩
  | cons l lines ih =>
      have harrives := arrives_source hlines hp
      obtain ⟨hl, hrest⟩ := List.forall_mem_cons.mp hlines
      cases l with
      | entry a =>
          obtain ⟨c, rest, hsource, hc⟩ := source_entry hl lines
          rw [hsource] at harrives ⊢
          exact ⟨true, _, p, plain?_excluded (isWhite_of_isNameCharacter hc) hrun
            (by simp [Margin.excludes, hflow, hleast, hp]), harrives⟩
      | blank count =>
          obtain ⟨ended, rest, q, hplain, harrives⟩ : Stops m before
              (List.replicate count ' ' ++ white) (p.behind (List.replicate count ' '))
                (behind lines) lines :=
            Stops.behind fun _ _ hrun hq => ih hrest hrun hq
          refine ⟨ended, rest, q, ?_, harrives⟩
          rw [source_cons, Line.chars, plain?_blanks, hplain]
      | comment indent text =>
          have hbreak : (List.replicate indent ' ' ++ white).any isBreak = true := by
            rw [List.any_append, hrun, Bool.or_true]
          refine ⟨true, '#' :: (text ++ behind lines), p.behind (List.replicate indent ' '), ?_, ?_⟩
          · rw [source_cons, Line.chars, List.append_assoc, plain?_blanks, List.cons_append,
              plain?_excluded (by decide) hbreak (by simp [Margin.excludes])]
          · rw [source_cons, Line.chars, List.append_assoc] at harrives
            obtain ⟨b, q, hnext, hentry⟩ := harrives
            rw [nextToken_blanks] at hnext
            exact ⟨b, q, hnext, hentry⟩

/-- **A plain scalar at the end of a line** ends there. -/
theorem stops_behind (hflow : m.flow = false) (hleast : m.least = 1)
    (hlines : ∀ l ∈ lines, l.IsSimple) : Stops m before white p (behind lines) lines :=
  Stops.behind fun _ _ hrun hq => stops_source hflow hleast hlines hrun hq

/-- White space in double quotes is kept until it is known what follows. -/
theorem doubleQuoted?_white {gap : Gap} (hc : isWhite c = true) :
    doubleQuoted? before gap p (c :: more) =
      doubleQuoted? before { gap with run := c :: gap.run } (p.after c) more := by
  rw [doubleQuoted?.eq_def]
  simp only [hc, if_true]

/-- A character in double quotes that stands for itself. -/
theorem doubleQuoted?_own {gap : Gap} (hc : isWhite c = false) (hp : p.column ≠ 0)
    (hquote : c ≠ '\x22') (hslash : c ≠ '\\') :
    doubleQuoted? before gap p (c :: more) =
      doubleQuoted? (c :: (gap.fold ++ before)) {} (p.after c) more := by
  rw [doubleQuoted?.eq_def]
  simp [hc, hp, hquote, hslash]

theorem doubleQuoted?_quote {gap : Gap} (hp : p.column ≠ 0) :
    doubleQuoted? before gap p ('\x22' :: more) =
      some ((gap.fold ++ before).reverse, ⟨more, p.after '\x22'⟩) := by
  rw [doubleQuoted?.eq_def]
  simp [hp, show isWhite '\x22' = false from rfl]

/-- White space without a break stays as it is. -/
theorem Gap.fold_of_no_break (h : ∀ c ∈ white, isBreak c = false) :
    Gap.fold { run := white } = white := by
  have hnone : white.filter isBreak = [] := by
    rw [List.filter_eq_nil_iff]
    intro c hc
    rw [h c hc]
    exact Bool.false_ne_true
  simp [Gap.fold, Yaml.fold, hnone]

/-- No printable character is a break. -/
theorem isBreak_of_le (hlow : 0x20 ≤ c.toNat) (hhigh : c.toNat ≤ 0x7e) : isBreak c = false := by
  have hfeed : c ≠ '\n' := by
    rintro rfl
    exact absurd hlow (by decide)
  simp only [isBreak, Bool.or_eq_false_iff, beq_eq_false_iff_ne]
  exact ⟨⟨hfeed, by omega⟩, by omega⟩

/-- **A text in double quotes** that stands for itself. -/
theorem doubleQuoted?_printable (htext : IsPrintable text) (hrun : ∀ c ∈ white, isBreak c = false)
    (hp : p.column ≠ 0) :
    ∃ q, doubleQuoted? before { run := white } p (text ++ '\x22' :: more) =
      some (before.reverse ++ white.reverse ++ text, ⟨more, q⟩) := by
  induction text generalizing before white p with
  | nil =>
      refine ⟨p.after '\x22', ?_⟩
      rw [List.nil_append, doubleQuoted?_quote hp, Gap.fold_of_no_break hrun, List.reverse_append,
        List.append_nil]
  | cons c text ih =>
      obtain ⟨⟨hlow, hhigh, hquote, hslash⟩, htext⟩ := List.forall_mem_cons.mp htext
      have hbreak := isBreak_of_le hlow hhigh
      have hcolumn : (p.after c).column ≠ 0 := by
        rw [Position.after, hbreak]
        exact Nat.succ_ne_zero _
      cases hwhite : isWhite c with
      | true =>
          obtain ⟨q, hq⟩ := @ih (c :: white) before (p.after c) htext
            (List.forall_mem_cons (p := (isBreak · = false)).mpr ⟨hbreak, hrun⟩) hcolumn
          refine ⟨q, ?_⟩
          rw [List.cons_append, doubleQuoted?_white hwhite, hq, List.reverse_cons,
            List.append_assoc, List.append_assoc, List.append_assoc, List.singleton_append]
      | false =>
          obtain ⟨q, hq⟩ := @ih [] (c :: (white ++ before)) (p.after c) htext
            (fun _ h => absurd h List.not_mem_nil) hcolumn
          refine ⟨q, ?_⟩
          rw [List.cons_append, doubleQuoted?_own hwhite hp hquote hslash,
            Gap.fold_of_no_break hrun, hq]
          simp

end Provisioning.Yaml
