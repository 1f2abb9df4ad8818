import Mathlib.Logic.Relation
import UiMarkup.Proofs.Document.Grammar
import UiMarkup.Proofs.Document.LineEnds

/-!
# UiMarkup.Proofs.Document.Padding

What may be added to a document without changing it: lines that hold no
values, white space at either end of a line, and comments, even right behind a
value or behind the row that says the end keyword.  A line that can be read
ends where a value may end, so it spells the same values with white space or a
comment behind it (`SpellsLine.append`); and a line without values is no row
(`Pads.rowsOf`), also where it stands behind the last one.

* `Pads`: one such addition;
* `parse_of_pads`: any number of them leaves the document as it is.
-/

namespace UiMarkup.Document

/-! ## additions -/

/-- The start of a line is behind what stands in front of it: nothing, or a
text that ends with a line feed. -/
def AtLineStart (before : List Char) : Prop :=
  before = [] ∨ before.getLast? = some '\n'

/-- The end of a line is in front of what follows: nothing, or a line end of
either kind. -/
def AtLineEnd (after : List Char) : Prop :=
  after = [] ∨ ∃ rest, after = '\n' :: rest ∨ after = '\r' :: '\n' :: rest

/-- The first text becomes the second one by one addition that says no
values. -/
inductive Pads : List Char → List Char → Prop
  | line {before after line : List Char} (hplace : AtLineStart before)
      (hline : SpellsLine [] line) : Pads (before ++ after) (before ++ (line ++ '\n' :: after))
  | lastLine {text line : List Char} (hline : SpellsLine [] line) :
      Pads text (text ++ '\n' :: line)
  | lead {before after gap : List Char} (hplace : AtLineStart before) (hgap : IsGap gap) :
      Pads (before ++ after) (before ++ (gap ++ after))
  | trail {before after gap : List Char} (hplace : AtLineEnd after) (hgap : IsGap gap) :
      Pads (before ++ after) (before ++ (gap ++ after))
  | comment {before after text : List Char} (hplace : AtLineEnd after) (htext : '\n' ∉ text) :
      Pads (before ++ after) (before ++ ('#' :: text ++ after))

/-! ## one line -/

/-- White space alone spells no values. -/
theorem spellsLine_of_isGap {gap : List Char} (h : IsGap gap) : SpellsLine [] gap :=
  ⟨gap, [], (List.append_nil gap).symm, h, .nothing⟩

/-- A comment alone spells no values. -/
theorem spellsLine_of_comment {text : List Char} (h : '\n' ∉ text) : SpellsLine [] ('#' :: text) :=
  ⟨[], _, rfl, isGap_nil, .comment h⟩

/-- White space in front of a line that spells values. -/
theorem SpellsLine.lead {values : List Value} {gap line : List Char} (hgap : IsGap gap)
    (h : SpellsLine values line) : SpellsLine values (gap ++ line) := by
  induction gap with
  | nil => exact h
  | cons c gap ih =>
      obtain ⟨hc, hmore⟩ := List.forall_mem_cons.1 hgap
      exact .blank hc (ih hmore)

/-- A value may end in front of what spells no values. -/
theorem endsValue_of_spellsLine {rest : List Char} (h : SpellsLine [] rest) : EndsValue rest := by
  obtain ⟨gap, more, rfl, hgap, hmore⟩ := h
  exact endsValue_of_laysOut hgap (fun hvalues => absurd rfl hvalues) hmore

/-- A line spells the same values with a text behind it that spells none. -/
theorem SpellsLine.append {values : List Value} {line rest : List Char}
    (h : SpellsLine values line) (hrest : SpellsLine [] rest) :
    SpellsLine values (line ++ rest) := by
  obtain ⟨gap, laidOut, rfl, hgap, hlaidOut⟩ := h
  rw [List.append_assoc]
  refine .lead hgap ?_
  clear hgap
  induction hlaidOut with
  | nothing => exact hrest
  | comment htext =>
      have hfeed := lineFeed_not_mem_of_spellsLine hrest
      exact spellsLine_of_comment (by simp [htext, hfeed])
  | @value v values cs gap more hv hgap hapart hmore ih =>
      have hends : EndsValue (gap ++ (more ++ rest)) := by
        cases gap with
        | cons c gap => exact .inl (hgap c List.mem_cons_self).1
        | nil =>
            cases hmore with
            | nothing => exact endsValue_of_spellsLine hrest
            | comment => exact .inr rfl
            | value => exact absurd rfl (hapart (List.cons_ne_nil _ _))
      rw [List.append_assoc, List.append_assoc]
      exact .cons hv hends (.lead hgap ih)

/-! ## the rows of a text -/

/-- Lines of which the same is read have the same rows. -/
theorem rowsOf_congr {ls ms : List (List Char)} (h : ls.map readValues = ms.map readValues)
    {rows : List (List Value)} : RowsOf ls rows ↔ RowsOf ms rows := by
  have hkept : ∀ {ls ms : List (List Char)}, ls.map readValues = ms.map readValues →
      RowsOf ls rows → RowsOf ms rows := by
    intro ls ms h hrows
    obtain ⟨read, hread, rfl⟩ := exists_readRows_of_rowsOf hrows 1
    rw [readRows_congr h 1] at hread
    exact rowsOf_of_readRows hread
  exact ⟨hkept h, hkept h.symm⟩

/-- The rows of lines and further lines. -/
theorem rowsOf_append {ls ms : List (List Char)} {rows : List (List Value)} :
    RowsOf (ls ++ ms) rows ↔
      ∃ first rest, RowsOf ls first ∧ RowsOf ms rest ∧ rows = first ++ rest := by
  induction ls generalizing rows with
  | nil => simp [rowsOf_nil]
  | cons line ls ih =>
      rw [List.cons_append]
      simp only [rowsOf_cons, ih]
      constructor
      · rintro ⟨vs, _, hvs, ⟨first, rest, hfirst, hrest, rfl⟩, rfl⟩
        refine ⟨_, rest, ⟨vs, first, hvs, hfirst, rfl⟩, hrest, ?_⟩
        split <;> rfl
      · rintro ⟨_, rest, ⟨vs, first, hvs, hfirst, rfl⟩, hrest, rfl⟩
        refine ⟨vs, _, hvs, ⟨first, rest, hfirst, hrest, rfl⟩, ?_⟩
        split <;> rfl

/-- A line without values in front of others. -/
theorem rowsOf_cons_of_nil {line : List Char} (h : readValues line = .ok [])
    {ls : List (List Char)} {rows : List (List Value)} (hrows : RowsOf ls rows) :
    RowsOf (line :: ls) rows :=
  rowsOf_cons.2 ⟨[], rows, h, hrows, rfl⟩

/-- A text without line feeds is one line, unless it is empty. -/
theorem lines_eq_singleton {line : List Char} (hfeed : '\n' ∉ line) (hne : line ≠ []) :
    lines line = [line] := by
  induction line with
  | nil => exact absurd rfl hne
  | cons c line ih =>
      obtain ⟨hc, hline⟩ := not_or.1 (mt List.mem_cons.2 hfeed)
      have hnext : c = '\r' → line.head? ≠ some '\n' := fun _ hhead =>
        hline (List.mem_of_mem_head? hhead)
      rw [lines_cons (fun h => hc h.symm) hnext]
      cases line with
      | nil => simp
      | cons d line => rw [ih hline (List.cons_ne_nil d line)]

/-- The rows of a text are those of its first line and of its other lines. -/
theorem rowsOf_lines_cons_iff {line : List Char} (hfeed : '\n' ∉ line) {rest : List Char}
    {rows : List (List Value)} :
    RowsOf (lines (line ++ '\n' :: rest)) rows ↔ RowsOf (line :: lines rest) rows :=
  rowsOf_congr (map_readValues_lines hfeed rest)

/-- The rows of a text without line feeds are those of one line. -/
theorem rowsOf_lines_iff {line : List Char} (hfeed : '\n' ∉ line) {rows : List (List Value)} :
    RowsOf (lines line) rows ↔ RowsOf [line] rows := by
  by_cases hne : line = []
  · subst hne
    simp [rowsOf_nil, rowsOf_cons, readValues]
  · rw [lines_eq_singleton hfeed hne]

/-- The rows of a text whose first line ends in front of `after` are those of
that line and of lines that do not depend on it. -/
theorem AtLineEnd.exists_rowsOf_iff {after : List Char} (h : AtLineEnd after) :
    ∃ ls, ∀ line rows, '\n' ∉ line →
      (RowsOf (lines (line ++ after)) rows ↔ RowsOf (line :: ls) rows) := by
  obtain rfl | ⟨rest, rfl | rfl⟩ := h
  · refine ⟨[], fun line rows hfeed => ?_⟩
    rw [List.append_nil]
    exact rowsOf_lines_iff hfeed
  · exact ⟨lines rest, fun line rows hfeed => rowsOf_lines_cons_iff hfeed⟩
  · exact ⟨lines rest, fun line rows hfeed => by rw [lines_append_lineEnd hfeed]⟩

/-- A text that ends with a line feed is cut into its lines apart from what
follows. -/
theorem AtLineStart.map_readValues_lines_append {before : List Char} (h : AtLineStart before)
    (after : List Char) :
    (lines (before ++ after)).map readValues = (lines before ++ lines after).map readValues := by
  induction before using inductionOnLines with
  | last line hline =>
      obtain rfl | hlast := h
      · rw [List.nil_append, lines_nil, List.nil_append]
      · exact absurd (List.mem_of_getLast? hlast) hline
  | cons line rest hline ih =>
      have hrest : AtLineStart rest := by
        cases rest with
        | nil => exact .inl rfl
        | cons c rest => simpa [AtLineStart, List.getLast?_append, List.getLast?_cons] using h
      have hmore := ih hrest
      rw [List.map_append] at hmore ⊢
      rw [List.append_assoc, List.cons_append, map_readValues_lines hline,
        map_readValues_lines hline, hmore, List.cons_append]

/-- A text keeps its rows if all that stands behind the start of a line keeps
its rows. -/
theorem AtLineStart.rowsOf {before after after' : List Char} (h : AtLineStart before)
    (hafter : ∀ rows, RowsOf (lines after) rows → RowsOf (lines after') rows)
    {rows : List (List Value)} (hrows : RowsOf (lines (before ++ after)) rows) :
    RowsOf (lines (before ++ after')) rows := by
  rw [rowsOf_congr (h.map_readValues_lines_append _), rowsOf_append] at hrows ⊢
  obtain ⟨first, rest, hfirst, hrest, rfl⟩ := hrows
  exact ⟨first, rest, hfirst, hafter rest hrest, rfl⟩

/-- Every text has a first line. -/
theorem exists_atLineEnd (text : List Char) :
    ∃ line after, text = line ++ after ∧ '\n' ∉ line ∧ AtLineEnd after := by
  induction text using inductionOnLines with
  | last line hline => exact ⟨line, [], (List.append_nil line).symm, hline, .inl rfl⟩
  | cons line rest hline _ => exact ⟨line, _, rfl, hline, .inr ⟨rest, .inl rfl⟩⟩

/-- Every text has a last line. -/
theorem exists_atLineStart (text : List Char) :
    ∃ before line, text = before ++ line ∧ AtLineStart before ∧ '\n' ∉ line := by
  induction text using inductionOnLines with
  | last line hline => exact ⟨[], line, rfl, .inl rfl, hline⟩
  | cons line rest hline ih =>
      obtain ⟨before, last, rfl, hbefore, hlast⟩ := ih
      refine ⟨line ++ '\n' :: before, last, by simp, .inr ?_, hlast⟩
      obtain rfl | hfeed := hbefore
      · simp
      · simp [List.getLast?_append, List.getLast?_cons, hfeed]

/-! ## additions keep the rows -/

/-- What spells no values may be added at the end of a line. -/
theorem rowsOf_insert_atLineEnd {before after extra : List Char} (hplace : AtLineEnd after)
    (hextra : SpellsLine [] extra) {rows : List (List Value)}
    (h : RowsOf (lines (before ++ after)) rows) :
    RowsOf (lines (before ++ (extra ++ after))) rows := by
  obtain ⟨front, line, rfl, hfront, hline⟩ := exists_atLineStart before
  obtain ⟨ls, hrows⟩ := hplace.exists_rowsOf_iff
  rw [List.append_assoc] at h ⊢
  refine hfront.rowsOf (fun rows h => ?_) h
  have hfeed : '\n' ∉ line ++ extra := by
    simp [hline, lineFeed_not_mem_of_spellsLine hextra]
  rw [hrows line rows hline, rowsOf_cons] at h
  obtain ⟨vs, rest, hvs, hrest, rfl⟩ := h
  have hspells := (spellsLine_of_readValues hline hvs).append hextra
  rw [← List.append_assoc, hrows _ _ hfeed, rowsOf_cons]
  exact ⟨vs, rest, readValues_of_spellsLine hspells, hrest, rfl⟩

/-- No addition changes the rows of a text. -/
theorem Pads.rowsOf {text text' : List Char} (h : Pads text text') {rows : List (List Value)}
    (hrows : RowsOf (lines text) rows) : RowsOf (lines text') rows := by
  cases h with
  | @line before after line hplace hline =>
      refine hplace.rowsOf (fun rows h => ?_) hrows
      rw [rowsOf_lines_cons_iff (lineFeed_not_mem_of_spellsLine hline)]
      exact rowsOf_cons_of_nil (readValues_of_spellsLine hline) h
  | @lastLine _ line hline =>
      obtain ⟨before, last, rfl, hbefore, hlast⟩ := exists_atLineStart text
      have hsilent := lineFeed_not_mem_of_spellsLine hline
      rw [List.append_assoc]
      refine hbefore.rowsOf (fun rows h => ?_) hrows
      rw [rowsOf_lines_iff hlast, rowsOf_cons] at h
      rw [rowsOf_lines_cons_iff hlast, rowsOf_cons]
      obtain ⟨vs, rest, hvs, hrest, rfl⟩ := h
      refine ⟨vs, rest, hvs, (rowsOf_lines_iff hsilent).2 ?_, rfl⟩
      exact rowsOf_cons_of_nil (readValues_of_spellsLine hline) hrest
  | @lead before after gap hplace hgap =>
      obtain ⟨line, rest, rfl, hline, hrest⟩ := exists_atLineEnd after
      obtain ⟨ls, hends⟩ := hrest.exists_rowsOf_iff
      have hfeed : '\n' ∉ gap ++ line := by simp [lineFeed_not_mem_of_isGap hgap, hline]
      have hread : readValues (gap ++ line) = readValues line :=
        readValues_append_blanks (fun c hc => (hgap c hc).1) line
      refine hplace.rowsOf (fun rows h => ?_) hrows
      rw [← List.append_assoc, hends _ _ hfeed, rowsOf_cons, hread, ← rowsOf_cons]
      exact (hends _ _ hline).1 h
  | trail hplace hgap => exact rowsOf_insert_atLineEnd hplace (spellsLine_of_isGap hgap) hrows
  | comment hplace htext => exact rowsOf_insert_atLineEnd hplace (spellsLine_of_comment htext) hrows

/-- **What may be added to a document**: lines without values, white space at
the ends of lines and comments, any number of each, leave a text that is read
as the same document, with the same end keyword. -/
theorem parse_of_pads {text text' : String} {d : Document} (h : parse text = .ok d)
    (hpads : Relation.ReflTransGen Pads text.toList text'.toList) : parse text' = .ok d := by
  rw [parse_eq_ok_iff_derives] at h ⊢
  obtain ⟨rows, hrows, hunfolds⟩ := h
  refine ⟨rows, ?_, hunfolds⟩
  generalize text'.toList = padded at hpads
  induction hpads with
  | refl => exact hrows
  | tail _ hpad ih => exact hpad.rowsOf ih

/-- A line in front of the root element, white space in front of its name, a
comment right behind the name and in front of a line end of two characters, and
both behind the row that says the end keyword. -/
theorem parse_of_pads_commented :
    parse "A\r\nEnd" = .ok ⟨⟨"A", []⟩, some "End"⟩ ∧
    Relation.ReflTransGen Pads "A\r\nEnd".toList "\t#\n\u3000A#\"\r\nEnd \n#".toList ∧
    parse "\t#\n\u3000A#\"\r\nEnd \n#" = .ok ⟨⟨"A", []⟩, some "End"⟩ := by
  have hread : parse "A\r\nEnd" = .ok ⟨⟨"A", []⟩, some "End"⟩ := by rfl
  have hgap : ∀ {c : Char}, Text.isBlank c = true ∧ c ≠ '\n' → IsGap [c] := fun h =>
    List.forall_mem_singleton.2 h
  have hline : Pads ['A', '\r', '\n', 'E', 'n', 'd']
      ['\t', '#', '\n', 'A', '\r', '\n', 'E', 'n', 'd'] :=
    @Pads.line [] _ ['\t', '#'] (.inl rfl) ⟨['\t'], ['#'], rfl, hgap (by decide),
      .comment (by decide)⟩
  have hlead : Pads ['\t', '#', '\n', 'A', '\r', '\n', 'E', 'n', 'd']
      ['\t', '#', '\n', '\u3000', 'A', '\r', '\n', 'E', 'n', 'd'] :=
    @Pads.lead ['\t', '#', '\n'] _ ['\u3000'] (.inr rfl) (hgap (by decide))
  have hcomment : Pads ['\t', '#', '\n', '\u3000', 'A', '\r', '\n', 'E', 'n', 'd']
      ['\t', '#', '\n', '\u3000', 'A', '#', '"', '\r', '\n', 'E', 'n', 'd'] :=
    @Pads.comment ['\t', '#', '\n', '\u3000', 'A'] _ ['"'] (.inr ⟨_, .inr rfl⟩) (by decide)
  have htrail : Pads ['\t', '#', '\n', '\u3000', 'A', '#', '"', '\r', '\n', 'E', 'n', 'd']
      ['\t', '#', '\n', '\u3000', 'A', '#', '"', '\r', '\n', 'E', 'n', 'd', ' '] :=
    @Pads.trail ['\t', '#', '\n', '\u3000', 'A', '#', '"', '\r', '\n', 'E', 'n', 'd'] [] [' ']
      (.inl rfl) (hgap (by decide))
  have hlastLine : Pads ['\t', '#', '\n', '\u3000', 'A', '#', '"', '\r', '\n', 'E', 'n', 'd', ' ']
      ['\t', '#', '\n', '\u3000', 'A', '#', '"', '\r', '\n', 'E', 'n', 'd', ' ', '\n', '#'] :=
    .lastLine (spellsLine_of_comment (by decide))
  have hpads : Relation.ReflTransGen Pads "A\r\nEnd".toList
      "\t#\n\u3000A#\"\r\nEnd \n#".toList :=
    ((((Relation.ReflTransGen.single hline).tail hlead).tail hcomment).tail htrail).tail hlastLine
  exact ⟨hread, hpads, parse_of_pads hread hpads⟩

end UiMarkup.Document
