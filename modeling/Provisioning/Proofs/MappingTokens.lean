/-
**Reading a mapping that is written line by line.**

Reading such a text goes from entry to entry.  An entry takes three steps.  The word that comes
first is read as a scalar, which may turn out to be a key; the colon behind it makes it one, and
where it is the first one, it begins the mapping too; and the value is read up to the end of its
line.  In between nothing is kept but the tokens, so a whole text is read by an induction on its
entries.

Main definitions:

* `Yaml.Reader.Path` — tokens that are read one after the other;
* `Yaml.Reader.between`, `Yaml.Reader.behindKey`, `Yaml.Reader.behindColon` — the reader on its way
  through an entry;
* `Yaml.lineTokens`, `Yaml.mappingOf` — the tokens of some lines, and the document of some entries.

Main results:

* `Yaml.Reader.path_pair` — **an entry is read** in three steps;
* `Yaml.Reader.run_between` — the entries of a mapping are read one after the other;
* `Yaml.tokens_source`, `Yaml.ofText?_source` — the tokens of a text, and **its document**.
-/

import Mathlib.Data.Option.Basic
import Provisioning.Proofs.MappingLines
import Provisioning.Yaml.Event.Grammar

set_option relaxedAutoImplicit false
set_option autoImplicit false

namespace Provisioning.Yaml

open Reader (nextToken)

variable {lines rest : List (Line Pair)} {a : Pair} {c : Char} {p : Position} {allowed : Bool}

/-! ### Tokens -/

namespace Reader

/-- **Tokens that are read one after the other.**  Behind the end of the text there are none. -/
inductive Path : Nat → Reader → Reader → Prop where
  | refl (r : Reader) : Path 0 r r
  | step {n : Nat} {r s t : Reader} (hfresh : r.refreshAll? = some r)
      (hmore : r.tokens.head? ≠ some .streamEnd) (h : r.step? = some s) (rest : Path n s t) :
      Path (n + 1) r t

/-- Reading goes on behind the tokens that were read. -/
theorem run_of_path {n : Nat} {r s : Reader} (h : Path n r s) (fuel : Nat) (known : List Token) :
    ∃ known', run (fuel + n) known r = run fuel known' s := by
  induction h generalizing known with
  | refl r => exact ⟨known, rfl⟩
  | @step n r s t hfresh hmore h _ ih =>
      obtain ⟨known', hrun⟩ := ih r.settled
      refine ⟨known', ?_⟩
      rw [← Nat.add_assoc, run, hfresh]
      simp only [hmore, if_false, h, hrun]

variable {r s : Reader} {tokens : List Token} {columns : List Nat} {cursor : Cursor}

/-- A reader without a candidate has none that is stale. -/
theorem refreshAll?_of_none (hcandidate : r.candidate = none) (houter : r.outer = []) :
    r.refreshAll? = some r := by
  cases r
  subst hcandidate houter
  rfl

/-- At the beginning of a mapping or in it, no collection ends before the end of the text. -/
theorem closeBlocks_position (h : r.columns = [] ∨ r.columns = [0]) :
    r.closeBlocks (r.position.column < ·) = r := by
  have htake : r.columns.takeWhile (r.position.column < ·) = [] := by
    obtain h | h := h <;> rw [h] <;> simp
  rw [closeBlocks, htake]
  split <;> rfl

/-- **A token is read** behind what is passed over. -/
theorem step?_eq {rest : List Char} (hadvance : r.advance = s) (hfresh : s.refreshAll? = some s)
    (hbroken : s.broken = false) (hcolumns : s.columns = [] ∨ s.columns = [0])
    (hrest : s.cursor.rest = c :: rest) : r.step? = s.token? c rest := by
  rw [step?, hadvance, hfresh]
  simp only [Option.bind_eq_bind, Option.bind_some, closeBlocks_position hcolumns, hrest, hbroken]
  simp [guard]

theorem isMarker_of_ne {mark : Char} (h : c ≠ mark) (rest : List Char) :
    isMarker mark (c :: rest) = false := by
  cases rest with
  | nil => rfl
  | cons b rest => cases rest <;> simp [isMarker, h]

/-- A letter or a digit begins a plain scalar. -/
theorem token?_word (hc : c.isAlphanum = true) (rest : List Char) :
    r.token? c rest = r.plainScalar? := by
  have hne {d : Char} (hd : d.isAlphanum = false) : c ≠ d := by
    rintro rfl
    cases hd.symm.trans hc
  have hsign : "-?:,[]\x7b\x7d#&*!|>\x27\x22%@\x60".toList.contains c = false := by
    rw [List.contains_eq_mem, decide_eq_false_iff_not]
    have hnone : "-?:,[]\x7b\x7d#&*!|>\x27\x22%@\x60".toList.any Char.isAlphanum = false := by
      decide
    exact fun hmem => List.any_eq_false.mp hnone c hmem hc
  have hbegins (flow : Bool) : beginsPlain flow c rest = true := by
    have hwhite := isWhite_of_isNameCharacter (isNameCharacter_of_isAlphanum hc)
    rw [beginsPlain, hwhite, hsign]
    rfl
  have hdash := isMarker_of_ne (hne (d := '-') rfl) rest
  have hdots := isMarker_of_ne (hne (d := '.') rfl) rest
  rw [token?, hdash, hdots, hbegins]
  simp [hne (d := '%') rfl, hne (d := '[') rfl, hne (d := ']') rfl, hne (d := '\x7b') rfl,
    hne (d := '\x7d') rfl, hne (d := ',') rfl, hne (d := '-') rfl, hne (d := '?') rfl,
    hne (d := ':') rfl, hne (d := '*') rfl, hne (d := '&') rfl, hne (d := '!') rfl,
    hne (d := '|') rfl, hne (d := '>') rfl, hne (d := '\x27') rfl, hne (d := '\x22') rfl]

/-- A colon behind a word is in front of a value. -/
theorem token?_colon (rest : List Char) : r.token? ':' (' ' :: rest) = r.value? := by
  rw [token?, isMarker_of_ne (by decide), isMarker_of_ne (by decide)]
  simp [endsWord, isWhite, isBlank]

theorem token?_quote (rest : List Char) : r.token? '\x22' rest = r.quoted? .doubleQuoted := by
  rw [token?, isMarker_of_ne (by decide), isMarker_of_ne (by decide)]
  simp

/-- Nothing but the blanks in front of a token is passed over. -/
theorem advance_eq {allowed : Bool} {after : Cursor} (houter : r.outer = [])
    (h : nextToken false r.keyAllowed false r.position r.cursor.rest = (allowed, after)) :
    r.advance = { r with keyAllowed := allowed, cursor := after } := by
  have hflow : r.inFlow = false := by rw [inFlow, houter]; rfl
  rw [advance, hflow, h]

/-- Where a key may be, the next token is a candidate. -/
theorem propose?_of_allowed (hallowed : r.keyAllowed = true) (hcandidate : r.candidate = none)
    (houter : r.outer = []) :
    r.propose? = some { r with
      candidate :=
        some ⟨r.tokens.length, r.position, r.columns.head? == some r.position.column⟩ } := by
  simp [propose?, hallowed, forget?, hcandidate, inFlow, houter, position]

theorem propose?_of_not_allowed (h : r.keyAllowed = false) : r.propose? = some r := by
  rw [propose?, h, if_neg Bool.false_ne_true]

/-- A plain scalar is read from the place of the reader. -/
theorem plainScalar?_eq {text : List Char} {ended : Bool} {after : Cursor}
    (hpropose : r.propose? = some s) (houter : s.outer = [])
    (hplain : plain? ⟨false, (s.columns.head?.map (· + 1)).getD 0⟩ [] [] s.position s.cursor.rest =
      some ((text, ended), after)) :
    r.plainScalar? =
      some ({ s with cursor := after, keyAllowed := ended }.emit (.scalar .plain text)) := by
  have hflow : s.inFlow = false := by rw [inFlow, houter]; rfl
  rw [plainScalar?, hpropose]
  simp only [Option.bind_eq_bind, Option.bind_some, hflow, hplain]
  rfl

/-- A text in double quotes is read from behind the quote. -/
theorem quoted?_eq {text : List Char} {after : Cursor} (hpropose : r.propose? = some s)
    (hquoted : doubleQuoted? [] {} (s.cursor.skip 1).position (s.cursor.skip 1).rest =
      some (text, after)) :
    r.quoted? .doubleQuoted =
      some ({ s with cursor := after, keyAllowed := false }.emit (.scalar .doubleQuoted text)) := by
  rw [quoted?, hpropose]
  simp only [Option.bind_eq_bind, Option.bind_some, hquoted]
  rfl

/-! ### Entries -/

/-- The tokens in front of a key: the first key of a mapping begins it. -/
def opened (columns : List Nat) (tokens : List Token) : List Token :=
  if columns = [] then .blockMappingStart :: tokens else tokens

/-- The reader in front of an entry, or behind the last one. -/
def between (cursor : Cursor) (allowed : Bool) (tokens : List Token) (columns : List Nat) :
    Reader :=
  { cursor, tokens, columns, keyAllowed := allowed }

/-- The reader behind a key. -/
def behindKey (key : List Char) (p : Position) (rest : List Char) (tokens : List Token)
    (columns : List Nat) : Reader where
  cursor := ⟨':' :: ' ' :: rest, p.behind key⟩
  tokens := .scalar .plain key :: tokens
  columns := columns
  candidate := some ⟨tokens.length, p, columns.head? == some p.column⟩
  keyAllowed := false

/-- The tokens up to the colon of an entry, the last one first. -/
def colonTokens (key : List Char) (tokens : List Token) (columns : List Nat) : List Token :=
  .value :: .scalar .plain key :: .key :: opened columns tokens

/-- The reader behind the colon of an entry. -/
def behindColon (key : List Char) (p : Position) (rest : List Char) (tokens : List Token)
    (columns : List Nat) : Reader where
  cursor := ⟨' ' :: rest, (p.behind key).after ':'⟩
  tokens := colonTokens key tokens columns
  columns := [0]
  keyAllowed := false

variable {key rest : List Char} {allowed : Bool} {p : Position}

/-- **A key is read** as a word that may be a key. -/
theorem step?_key (hkey : IsWord key) (hcolumns : columns = [] ∨ columns = [0])
    (hnext : nextToken false allowed false cursor.position cursor.rest =
      (true, ⟨key ++ ':' :: ' ' :: rest, p⟩)) :
    (between cursor allowed tokens columns).step? = some (behindKey key p rest tokens columns) := by
  obtain ⟨c, word, hword, hc⟩ := hkey.head
  rw [step?_eq (advance_eq rfl hnext) (refreshAll?_of_none rfl rfl) rfl hcolumns
    (c := c) (by simp only [hword]; rfl), token?_word hc]
  rw [plainScalar?_eq (propose?_of_allowed rfl rfl rfl) rfl]
  · rfl
  · simp only [between, position]
    rw [plain?_word rfl hkey.all, plain?_colon rfl, List.append_nil, List.reverse_reverse]

/-- The candidate that a key is can still be one at the colon behind it. -/
theorem refreshAll?_behindKey (hkey : IsWord key) (hshort : key.length ≤ 1024) :
    (behindKey key p rest tokens columns).refreshAll? =
      some (behindKey key p rest tokens columns) := by
  have hbehind : p.behind key = ⟨p.line, p.column + key.length, p.bytes + key.length⟩ := by
    rw [behind_eq fun c hc => isBreak_of_isWhite (isWhite_of_isNameCharacter (hkey.all c hc)),
      bytes_of_isWord hkey.all]
  have hfresh : (Candidate.mk tokens.length p (columns.head? == some p.column)).isFresh
      (p.behind key) = true := by
    rw [hbehind, Candidate.isFresh]
    simpa using hshort
  rw [refreshAll?]
  simp only [behindKey, position, refresh?, hfresh, if_true]
  rfl

/-- A token behind all others but one. -/
theorem insert_eq {t first : Token} (htokens : r.tokens = first :: tokens) :
    r.insert tokens.length t = { r with tokens := first :: t :: tokens } := by
  simp [insert, htokens]

/-- **The colon is read** and makes the word a key. -/
theorem step?_colon (hkey : IsWord key) (hshort : key.length ≤ 1024) (hp : p.column = 0)
    (hcolumns : columns = [] ∨ columns = [0]) :
    (behindKey key p rest tokens columns).step? =
      some (behindColon key p rest tokens columns) := by
  rw [step?_eq (advance_eq rfl (nextToken_of_isWhite (by decide) (by decide) (by decide)))
    (refreshAll?_behindKey hkey hshort) rfl hcolumns rfl, token?_colon]
  simp only [value?, behindKey]
  rw [insert_eq rfl]
  have htwo : tokens.length + 1 + 1 - tokens.length = 2 := by omega
  obtain rfl | rfl := hcolumns
  · -- The mapping begins in front of the mark of its first key.
    simp [openBlock, inFlow, insert, htwo, hp, behindColon, colonTokens, opened, emit, skip,
      Cursor.skip, Position.behind, Reader.position]
  · simp [openBlock, inFlow, hp, behindColon, colonTokens, opened, emit, skip, Cursor.skip,
      Position.behind, Reader.position]

/-- The reader in front of a value: the blank behind the colon is passed over. -/
theorem advance_behindColon (hc : isWhite c = false) (hsharp : c ≠ '#') (hmark : c ≠ '\ufeff')
    (more : List Char) : (behindColon key p (c :: more) tokens columns).advance =
      between ⟨c :: more, ((p.behind key).after ':').after ' '⟩ false
        (colonTokens key tokens columns) [0] :=
  advance_eq rfl ((nextToken_blanks 1).trans (nextToken_of_isWhite hc hsharp hmark))

variable {value : List Char} {lines : List (Line Pair)}

/-- **A word is read** as a value, up to the end of its line. -/
theorem step?_plain (hvalue : IsWord value) (hlines : ∀ l ∈ lines, l.IsSimple) :
    ∃ after ended,
      (behindColon key p (value ++ behind lines) tokens columns).step? =
        some (between after ended (.scalar .plain value :: colonTokens key tokens columns) [0]) ∧
      Arrives ended false after.position after.rest lines := by
  obtain ⟨c, rest, hword, hc⟩ := hvalue.head
  have hname : isNameCharacter c = true := hvalue.all c (hword ▸ List.mem_cons_self)
  have hcons : value ++ behind lines = c :: (rest ++ behind lines) := by
    rw [hword]
    rfl
  obtain ⟨q, hq⟩ : ∃ q, q = ((p.behind key).after ':').after ' ' := ⟨_, rfl⟩
  obtain ⟨ended, rest', q', hplain, harrives⟩ : Stops ⟨false, 1⟩ value.reverse [] (q.behind value)
    (behind lines) lines := stops_behind rfl rfl hlines
  have hread : plain? ⟨false, 1⟩ [] [] q (value ++ behind lines) =
      some ((value.reverse.reverse, ended), ⟨rest', q'⟩) :=
    (plain?_word rfl hvalue.all).trans (by rw [List.append_nil, hplain])
  have hadvance := @advance_behindColon c tokens columns key p (isWhite_of_isNameCharacter hname)
    (ne_of_isNameCharacter hname rfl) (ne_of_isNameCharacter hname (by decide))
    (rest ++ behind lines)
  rw [← hcons, ← hq] at hadvance
  have hpropose : (between ⟨value ++ behind lines, q⟩ false (colonTokens key tokens columns)
      [0]).propose? = some _ := propose?_of_not_allowed rfl
  refine ⟨⟨rest', q'⟩, ended, ?_, harrives⟩
  rw [step?_eq hadvance (refreshAll?_of_none rfl rfl) rfl (.inr rfl) hcons, token?_word hc,
    plainScalar?_eq hpropose rfl hread, List.reverse_reverse]
  rfl

/-- **A text in quotes is read** as a value. -/
theorem step?_quoted (hvalue : IsPrintable value) (hlines : ∀ l ∈ lines, l.IsSimple) :
    ∃ after ended,
      (behindColon key p ('\x22' :: (value ++ '\x22' :: behind lines)) tokens columns).step? =
        some (between after ended (.scalar .doubleQuoted value :: colonTokens key tokens columns)
          [0]) ∧
      Arrives ended false after.position after.rest lines := by
  obtain ⟨q, hq⟩ : ∃ q, doubleQuoted? [] {} ((((p.behind key).after ':').after ' ').after '\x22')
      (value ++ '\x22' :: behind lines) = some (value, ⟨behind lines, q⟩) :=
    doubleQuoted?_printable hvalue (fun _ h => absurd h List.not_mem_nil) (Nat.succ_ne_zero _)
  have hpropose : (between ⟨'\x22' :: (value ++ '\x22' :: behind lines),
      ((p.behind key).after ':').after ' '⟩ false (colonTokens key tokens columns) [0]).propose? =
        some _ := propose?_of_not_allowed rfl
  refine ⟨⟨behind lines, q⟩, false, ?_, arrives_behind hlines⟩
  rw [step?_eq (advance_behindColon (by decide) (by decide) (by decide) _)
    (refreshAll?_of_none rfl rfl) rfl (.inr rfl) rfl, token?_quote, quoted?_eq hpropose hq]
  rfl

/-- **The value is read** up to the end of its line. -/
theorem step?_value {a : Pair} (ha : a.IsSimple) (hlines : ∀ l ∈ lines, l.IsSimple) :
    ∃ after ended,
      (behindColon key p (a.shown ++ behind lines) tokens columns).step? =
        some (between after ended (.scalar a.style a.value :: colonTokens key tokens columns) [0]) ∧
      Arrives ended false after.position after.rest lines := by
  obtain ⟨hstyle, hvalue⟩ | ⟨hstyle, hvalue⟩ := ha.value
  · have hshown : a.shown = a.value := by rw [Pair.shown, hstyle]
    rw [hshown, hstyle]
    exact step?_plain hvalue hlines
  · have hshown : a.shown ++ behind lines = '\x22' :: (a.value ++ '\x22' :: behind lines) := by
      simp [Pair.shown, hstyle]
    rw [hshown, hstyle]
    exact step?_quoted hvalue hlines

/-- **An entry is read** in three steps. -/
theorem path_pair {a : Pair} {rest : List (Line Pair)} (hlines : ∀ l ∈ lines, l.IsSimple)
    (hentry : toEntry lines = .entry a :: rest) (hcolumns : columns = [] ∨ columns = [0])
    (htokens : tokens.head? ≠ some .streamEnd)
    (harrives : Arrives allowed false cursor.position cursor.rest lines) :
    ∃ after ended,
      Path 3 (between cursor allowed tokens columns)
        (between after ended (a.tokens.reverse ++ opened columns tokens) [0]) ∧
      Arrives ended false after.position after.rest rest := by
  have hsimple {l : Line Pair} (hl : l ∈ Line.entry a :: rest) : l.IsSimple :=
    hlines l (mem_of_mem_toEntry (hentry ▸ hl))
  have ha : a.IsSimple := hsimple List.mem_cons_self
  obtain ⟨b, q, hnext, hplace⟩ := harrives
  obtain ⟨rfl, hq⟩ := hplace (hentry ▸ List.cons_ne_nil _ _)
  rw [hentry, source_cons, Line.chars, Pair.chars, List.append_assoc] at hnext
  obtain ⟨after, ended, hvalue, harrives⟩ :=
    @step?_value tokens columns a.key q rest a ha fun l hl => hsimple (List.mem_cons_of_mem _ hl)
  refine ⟨after, ended, ?_, harrives⟩
  exact .step (refreshAll?_of_none rfl rfl) htokens (step?_key ha.key hcolumns hnext)
    (.step (refreshAll?_behindKey ha.key ha.short) (by simp [behindKey])
      (step?_colon ha.key ha.short hq hcolumns)
      (.step (refreshAll?_of_none rfl rfl) (by simp [behindColon, colonTokens]) hvalue (.refl _)))

/-! ### Texts -/

/-- **The end of the text** ends the mapping. -/
theorem step?_end {after : Cursor} {b : Bool} (hcolumns : columns = [] ∨ columns = [0])
    (hnext : nextToken false allowed false cursor.position cursor.rest = (b, after))
    (hafter : after.rest = []) :
    ∃ s, (between cursor allowed tokens columns).step? = some s ∧
      s.tokens = .streamEnd :: ((columns.map fun _ => .blockEnd) ++ tokens) ∧
      s.refreshAll? = some s := by
  have hadvance : (between cursor allowed tokens columns).advance =
      between after b tokens columns := advance_eq rfl hnext
  have hclose : (between after b tokens columns).closeBlocks
      ((between after b tokens columns).position.column < ·) = between after b tokens columns :=
    closeBlocks_position hcolumns
  have hstep : (between cursor allowed tokens columns).step? =
      (between after b tokens columns).finish? := by
    rw [step?, hadvance, refreshAll?_of_none rfl rfl]
    simp only [Option.bind_eq_bind, Option.bind_some, hclose]
    simp [between, hafter, guard]
  rw [hstep]
  obtain rfl | rfl := hcolumns
  · exact ⟨_, rfl, rfl, refreshAll?_of_none rfl rfl⟩
  · exact ⟨_, rfl, rfl, refreshAll?_of_none rfl rfl⟩

/-- Behind the last entry only the ends are read. -/
theorem run_end (hnone : entriesOf lines = []) (hcolumns : columns = [] ∨ columns = [0])
    (htokens : tokens.head? ≠ some .streamEnd)
    (harrives : Arrives allowed false cursor.position cursor.rest lines) {fuel : Nat}
    (hfuel : 2 ≤ fuel) (known : List Token) :
    run fuel known (between cursor allowed tokens columns) =
      tokens.reverse ++ (columns.map fun _ => .blockEnd) ++ [.streamEnd] := by
  obtain ⟨fuel, rfl⟩ : ∃ more, fuel = more + 2 := ⟨fuel - 2, by omega⟩
  obtain ⟨b, q, hnext, -⟩ := harrives
  rw [toEntry_of_no_entries hnone] at hnext
  obtain ⟨s, hstep, hs, hfresh⟩ := @step?_end tokens columns cursor allowed _ _ hcolumns hnext rfl
  have hpath : Path 1 (between cursor allowed tokens columns) s :=
    .step (refreshAll?_of_none rfl rfl) htokens hstep (.refl s)
  obtain ⟨known', hrun⟩ := run_of_path hpath (fuel + 1) known
  have hlast : s.tokens.head? = some .streamEnd := by rw [hs]; rfl
  rw [hrun, run, hfresh]
  simp only [hlast, if_true]
  rw [hs]
  obtain rfl | rfl := hcolumns <;> simp

/-- **In a mapping** the entries are read one after the other. -/
theorem run_between (hlines : ∀ l ∈ lines, l.IsSimple) (htokens : tokens.head? ≠ some .streamEnd)
    (harrives : Arrives allowed false cursor.position cursor.rest lines) {fuel : Nat}
    (hfuel : 3 * (entriesOf lines).length + 2 ≤ fuel) (known : List Token) :
    run fuel known (between cursor allowed tokens [0]) =
      tokens.reverse ++ (entriesOf lines).flatMap Pair.tokens ++ [.blockEnd, .streamEnd] := by
  induction hpairs : entriesOf lines generalizing lines cursor allowed tokens fuel known with
  | nil =>
      rw [run_end hpairs (.inr rfl) htokens harrives (by omega)]
      simp
  | cons a more ih =>
      obtain ⟨rest, hentry, hmore⟩ := toEntry_of_entries hpairs
      obtain ⟨after, ended, hpath, harrives⟩ :=
        path_pair hlines hentry (.inr rfl) htokens harrives
      rw [hpairs, List.length_cons] at hfuel
      obtain ⟨fuel, rfl⟩ : ∃ more, fuel = more + 3 := ⟨fuel - 3, by omega⟩
      obtain ⟨known', hrun⟩ := run_of_path hpath fuel known
      have hrest : ∀ l ∈ rest, l.IsSimple := fun l hl =>
        hlines l (mem_of_mem_toEntry (hentry ▸ List.mem_cons_of_mem _ hl))
      rw [hrun, ih hrest (by simp [Pair.tokens]) harrives (by rw [hmore]; omega) known' hmore]
      simp [opened]

end Reader

/-! ### Texts -/

/-- The tokens of some lines. -/
def lineTokens (lines : List (Line Pair)) : List Token :=
  if entriesOf lines = [] then [.streamEnd]
  else .blockMappingStart :: ((entriesOf lines).flatMap Pair.tokens ++ [.blockEnd, .streamEnd])

/-- A text of one portion, or of several that can be read. -/
theorem readableFrom_of_isAllowed {text : List Char} (h : ∀ c ∈ text, isAllowed c = true)
    (size : Nat) (portion : List Char) :
    readableFrom size portion text = ⟨portion.reverse ++ text, false⟩ := by
  induction text generalizing size portion with
  | nil => rw [readableFrom, List.append_nil]
  | cons c text ih =>
      obtain ⟨hc, h⟩ := List.forall_mem_cons.mp h
      rw [readableFrom, hc]
      split
      · simp at *
      · split
        · rw [ih h, List.reverse_cons, List.append_assoc, List.singleton_append]
        · simp [ih h]

/-- Breaks that are line feeds already are not changed. -/
theorem unifyBreaks_of_feeds {text : List Char} (h : ∀ c ∈ text, c ≠ '\r' ∧ c.toNat ≠ 0x85) :
    unifyBreaks text = text := by
  induction text with
  | nil => rfl
  | cons c text ih =>
      obtain ⟨⟨hreturn, hnext⟩, h⟩ := List.forall_mem_cons.mp h
      rw [unifyBreaks]
      · rw [if_neg hnext, ih h]
      · exact fun _ heq => absurd heq hreturn
      · exact hreturn

/-- A character that stays as it is when the text is read. -/
def IsKept (c : Char) : Prop := isAllowed c = true ∧ c ≠ '\r' ∧ c.toNat ≠ 0x85

theorem isKept_of_le (hlow : 0x20 ≤ c.toNat) (hhigh : c.toNat ≤ 0x7e) : IsKept c := by
  refine ⟨?_, ?_, by omega⟩
  · simp [isAllowed, hlow, hhigh]
  · rintro rfl
    exact absurd hlow (by decide)

theorem isKept_of_isNameCharacter (h : isNameCharacter c = true) : IsKept c := by
  obtain ⟨hlow, hhigh⟩ := toNat_of_isNameCharacter h
  exact isKept_of_le (by omega) (by omega)

theorem Pair.IsSimple.isKept (ha : a.IsSimple) : ∀ c ∈ a.chars, IsKept c := by
  have hcolon : IsKept ':' := isKept_of_le (by decide) (by decide)
  have hblank : IsKept ' ' := isKept_of_le (by decide) (by decide)
  have hquote : IsKept '\x22' := isKept_of_le (by decide) (by decide)
  have hshown : ∀ c ∈ a.shown, IsKept c := by
    obtain ⟨hstyle, hvalue⟩ | ⟨hstyle, hvalue⟩ := ha.value
    · rw [Pair.shown, hstyle]
      exact fun c hc => isKept_of_isNameCharacter (hvalue.all c hc)
    · rw [Pair.shown, hstyle]
      simp only [List.forall_mem_cons, List.forall_mem_append]
      exact ⟨hquote, fun c hc => isKept_of_le (hvalue c hc).1 (hvalue c hc).2.1, hquote,
        fun _ h => absurd h List.not_mem_nil⟩
  rw [Pair.chars]
  simp only [List.forall_mem_append, List.forall_mem_cons]
  exact ⟨fun c hc => isKept_of_isNameCharacter (ha.key.all c hc), hcolon, hblank, hshown⟩

/-- **Every character of the text** stays as it is. -/
theorem isKept_source (hlines : ∀ l ∈ lines, l.IsSimple) : ∀ c ∈ source lines, IsKept c := by
  have hblanks (count : Nat) : ∀ c ∈ List.replicate count ' ', IsKept c := fun c hc => by
    rw [(List.mem_replicate.mp hc).2]
    exact isKept_of_le (by decide) (by decide)
  induction lines with
  | nil => simp
  | cons l lines ih =>
      obtain ⟨hl, hlines⟩ := List.forall_mem_cons.mp hlines
      have hchars : ∀ c ∈ l.chars, IsKept c := by
        cases l with
        | entry a => exact hl.isKept
        | blank count => exact hblanks count
        | comment indent text =>
            simp only [Line.chars, List.forall_mem_append, List.forall_mem_cons]
            exact ⟨hblanks indent, isKept_of_le (by decide) (by decide),
              fun c hc => ⟨(hl c hc).1, (hl c hc).2.2⟩⟩
      have hbehind : ∀ c ∈ behind lines, IsKept c := by
        rw [behind]
        split
        · simp
        · exact List.forall_mem_cons.mpr ⟨⟨by decide, by decide, by decide⟩, ih hlines⟩
      rw [source_cons, List.forall_mem_append]
      exact ⟨hchars, hbehind⟩

/-- An entry takes three characters at least, as many as it has steps. -/
theorem length_source (hlines : ∀ l ∈ lines, l.IsSimple) :
    3 * (entriesOf lines).length ≤ (source lines).length := by
  induction lines with
  | nil => exact Nat.le_refl 0
  | cons l lines ih =>
      obtain ⟨hl, hlines⟩ := List.forall_mem_cons.mp hlines
      have hih := ih hlines
      have hbehind : (source lines).length ≤ (behind lines).length := by
        rw [behind]
        split
        · rename_i hnil
          rw [hnil]
          exact Nat.le_refl 0
        · exact Nat.le_succ _
      rw [source_cons, List.length_append]
      cases l with
      | entry a =>
          obtain ⟨c, rest, hkey, -⟩ := hl.key.head
          have hchars : 3 ≤ (Line.entry a).chars.length := by
            simp only [Line.chars, Pair.chars, hkey, List.length_append, List.length_cons]
            omega
          have hpairs : (entriesOf (.entry a :: lines)).length = (entriesOf lines).length + 1 := rfl
          omega
      | blank count | comment indent text =>
          exact hih.trans (hbehind.trans (Nat.le_add_left ..))

/-- **The tokens of a text** that is written line by line. -/
theorem tokens_source (hlines : ∀ l ∈ lines, l.IsSimple) :
    tokens (source lines) = lineTokens lines := by
  have hkept := isKept_source hlines
  have hreadable : readable (source lines) = ⟨source lines, false⟩ := by
    rw [readable, readableFrom_of_isAllowed fun c hc => (hkept c hc).1]
    rfl
  obtain ⟨start, hstart⟩ : ∃ start : Cursor, start = ⟨source lines, {}⟩ := ⟨_, rfl⟩
  have harrives : Arrives true false start.position start.rest lines := by
    rw [hstart]
    exact arrives_source hlines rfl
  have hbefore : ([] : List Token).head? ≠ some .streamEnd := by simp
  have hlength := length_source hlines
  rw [tokens, hreadable]
  simp only [unifyBreaks_of_feeds fun c hc => (hkept c hc).2]
  rw [lineTokens, ← hstart]
  cases hpairs : entriesOf lines with
  | nil =>
      rw [if_pos rfl]
      exact Reader.run_end hpairs (.inl rfl) hbefore harrives (Nat.le_add_left ..) []
  | cons a more =>
      obtain ⟨rest, hentry, rfl⟩ := toEntry_of_entries hpairs
      obtain ⟨after, ended, hpath, harrives⟩ :=
        Reader.path_pair hlines hentry (.inl rfl) hbefore harrives
      have hrest : ∀ l ∈ rest, l.IsSimple := fun l hl =>
        hlines l (mem_of_mem_toEntry (hentry ▸ List.mem_cons_of_mem _ hl))
      rw [hpairs, List.length_cons] at hlength
      obtain ⟨fuel, hfuel⟩ : ∃ fuel, (source lines).length + 2 = fuel + 3 :=
        ⟨(source lines).length - 1, by omega⟩
      obtain ⟨known, hrun⟩ := Reader.run_of_path hpath fuel []
      rw [if_neg (List.cons_ne_nil _ _), hfuel]
      refine hrun.trans ?_
      rw [Reader.run_between hrest (by simp [Pair.tokens]) harrives (by omega)]
      simp [Reader.opened]

/-! ### Documents -/

/-- The events of an entry. -/
def Pair.events (a : Pair) : List Event :=
  [.scalar ⟨.plain, none, a.key⟩, .scalar ⟨a.style, none, a.value⟩]

/-- The document of some entries. -/
def mappingOf (entries : List Pair) : Document :=
  ⟨.mappingStart none :: (entries.flatMap Pair.events ++ [.mappingEnd]), [], true⟩

namespace Progress

variable {r q : Progress} {t : Token} {expected : Expectation} {below next : List Expectation}
  {added : List Addition}

/-- What becomes of a token that means `o` for what is expected, with `below` expected behind it. -/
def carriedOut (t : Token) (below : List Expectation) (r : Progress) : Outcome → Step
  | .fault => .fault r
  | .take added next =>
    match added.foldlM add? r with
    | none => .fault r
    | some q => .taken { q with stack := next ++ below }
  | .leave added next =>
    match added.foldlM add? r with
    | none => .fault r
    | some q => feed t { q with stack := next ++ below }

/-- A token is met by what is expected first, and that decides what becomes of it. -/
theorem feed_eq_carriedOut (hstack : r.stack = expected :: below) :
    r.feed t = r.carriedOut t below (expected.meet r.handles t) := by
  conv => lhs; unfold feed
  split
  · rename_i hnil
    cases hnil.symm.trans hstack
  · rename_i first rest hcons
    obtain ⟨rfl, rfl⟩ := List.cons_eq_cons.mp (hcons.symm.trans hstack)
    split
    · rename_i hfault
      rw [hfault, carriedOut]
    · rename_i added next htake
      refine Eq.trans ?_ (congrArg (r.carriedOut t rest) htake).symm
      cases hadded : added.foldlM add? r with
      | none => simp only [carriedOut, hadded]
      | some q => simp only [carriedOut, hadded]
    · rename_i added next hleave
      refine Eq.trans ?_ (congrArg (r.carriedOut t rest) hleave).symm
      cases hadded : added.foldlM add? r with
      | none => simp only [carriedOut, hadded]
      | some q => simp only [carriedOut, hadded]

/-- A token that is taken. -/
theorem feed_take {s : Progress} (hstack : r.stack = expected :: below)
    (hmeet : expected.meet r.handles t = .take added next)
    (hadd : added.foldlM add? r = some q) (hs : { q with stack := next ++ below } = s) :
    r.feed t = .taken s := by
  rw [feed_eq_carriedOut hstack, hmeet, carriedOut, hadd, ← hs]

/-- A token that is left to what is expected then. -/
theorem feed_leave {s : Progress} (hstack : r.stack = expected :: below)
    (hmeet : expected.meet r.handles t = .leave added next)
    (hadd : added.foldlM add? r = some q) (hs : { q with stack := next ++ below } = s) :
    r.feed t = s.feed t := by
  rw [feed_eq_carriedOut hstack, hmeet, carriedOut, hadd, ← hs]

theorem feed_nil (hstack : r.stack = []) : r.feed t = .finished r := by
  unfold feed
  split
  · rfl
  · rename_i hcons
    cases hcons.symm.trans hstack

/-- What is kept where a certain construct is expected, inside nothing else. -/
def expecting (stack : List Expectation) (events : List Event) : Progress :=
  { stack, handles := .standard, events }

variable {events : List Event} {rest : List Token}

theorem read_of_taken {s : Progress} (h : r.feed t = .taken s) :
    r.read (t :: rest) = s.read rest := by
  rw [read, h]

/-- A scalar where a node of a mapping is expected, and `follows` behind it. -/
theorem feed_scalar {follows : Expectation} {style : Style} {text : List Char}
    (hmeet : expected.meet .standard (.scalar style text) =
      .leave [] [.anyNode .blockEntry, follows]) :
    (expecting [expected] events).feed (.scalar style text) =
      .taken (expecting [follows] (.scalar ⟨style, none, text⟩ :: events)) :=
  (feed_leave rfl hmeet rfl rfl).trans (feed_take rfl rfl rfl rfl)

/-- **An entry of a mapping** is a key and a value. -/
theorem read_pair (a : Pair) : (expecting [.blockKey] events).read (a.tokens ++ rest) =
    (expecting [.blockKey] (a.events.reverse ++ events)).read rest := by
  have hkey : (expecting [.blockKey] events).feed .key =
      .taken (expecting [.blockKeyNode] events) := feed_take rfl rfl rfl rfl
  have hvalue : (expecting [.blockValue] (.scalar ⟨.plain, none, a.key⟩ :: events)).feed .value =
      .taken (expecting [.blockValueNode] (.scalar ⟨.plain, none, a.key⟩ :: events)) :=
    feed_take rfl rfl rfl rfl
  calc (expecting [.blockKey] events).read (a.tokens ++ rest)
      = (expecting [.blockKeyNode] events).read (.scalar .plain a.key :: .value ::
          .scalar a.style a.value :: rest) := read_of_taken hkey
    _ = (expecting [.blockValue] (.scalar ⟨.plain, none, a.key⟩ :: events)).read (.value ::
          .scalar a.style a.value :: rest) := read_of_taken (feed_scalar rfl)
    _ = (expecting [.blockValueNode] (.scalar ⟨.plain, none, a.key⟩ :: events)).read
          (.scalar a.style a.value :: rest) := read_of_taken hvalue
    _ = (expecting [.blockKey] (a.events.reverse ++ events)).read rest :=
          read_of_taken (feed_scalar rfl)

theorem read_pairs (entries : List Pair) :
    (expecting [.blockKey] events).read (entries.flatMap Pair.tokens ++ rest) =
      (expecting [.blockKey] ((entries.flatMap Pair.events).reverse ++ events)).read rest := by
  induction entries generalizing events with
  | nil => rfl
  | cons a entries ih =>
      rw [List.flatMap_cons, List.append_assoc, read_pair, ih, List.flatMap_cons,
        List.reverse_append, List.append_assoc]

end Progress

/-- **The document of a text** that is written line by line. -/
theorem ofText?_source (hlines : ∀ l ∈ lines, l.IsSimple) :
    Document.ofText? (source lines) =
      if entriesOf lines = [] then none else some (mappingOf (entriesOf lines)) := by
  rw [Document.ofText?, tokens_source hlines, lineTokens]
  split
  · rfl
  · have hstart : (Progress.expecting [.anyNode .block] []).feed .blockMappingStart =
        .taken (Progress.expecting [.blockKey] [.mappingStart none]) :=
      Progress.feed_take rfl rfl rfl rfl
    have hend (events : List Event) : (Progress.expecting [.blockKey] events).feed .blockEnd =
        .taken (Progress.expecting [] (.mappingEnd :: events)) := Progress.feed_take rfl rfl rfl rfl
    refine congrArg some ((Progress.read_of_taken hstart).trans ?_)
    rw [Progress.read_pairs, Progress.read_of_taken (hend _), Progress.read, Progress.feed_nil rfl]
    simp [Progress.document, Progress.expecting, mappingOf]

end Provisioning.Yaml
