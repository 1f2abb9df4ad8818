import UiMarkup.Proofs.Document.RoundTrip

/-!
# UiMarkup.Proofs.Document.Faults

Which fault of a text is reported, and at which line.  All lines are read
before any row is looked at, so the first line that cannot be read decides.
If all can be read, the end keyword is looked up behind the last row, and then
the rows are taken in, one after the other.  The last row closes an element
itself, so the reader never ends outside of all elements without a root
element:

* `readRows_eq_error_iff`: the lines that cannot be read;
* `Fails`: what can be wrong with rows, and `fails_of_ofChars`, that nothing
  else is reported;
* `faults_of_parse`: all faults, with their lines.
-/

namespace UiMarkup.Document

/-! ## where a fault lies -/

/-- The line behind `index` others is the first one that cannot be read, and
this is why. -/
def FirstUnreadable (ls : List (List Char)) (index : Nat) (fault : Fault) : Prop :=
  (∃ line, ls[index]? = some line ∧ readValues line = .error fault) ∧
    ∀ line ∈ ls.take index, ∃ values, readValues line = .ok values

/-- The line of this number, counting from one, holds values. -/
def HoldsValues (ls : List (List Char)) (number : Nat) : Prop :=
  ∃ index line first others, number = index + 1 ∧ ls[index]? = some line ∧
    readValues line = .ok (first :: others)

/-- The rows are those of open elements, and the innermost one has this name:
the last row says the end keyword, and more elements were opened than closed. -/
def EndsInside (rows : List (List Value)) (name : String) : Prop :=
  ∃ keyword element outer, rows.getLast? = some [keyword] ∧
    Opened keyword (element :: outer) rows ∧ element.name = name

/-- A line that holds values is one of the lines. -/
theorem HoldsValues.range {ls : List (List Char)} {number : Nat} (h : HoldsValues ls number) :
    1 ≤ number ∧ number ≤ ls.length := by
  obtain ⟨index, line, first, others, rfl, hline, -⟩ := h
  have hindex : index < ls.length := (List.getElem?_eq_some_iff.1 hline).1
  omega

/-- The first line that cannot be read is the first one of all, or stands
behind one that can. -/
theorem firstUnreadable_cons_iff {line : List Char} {more : List (List Char)} {index : Nat}
    {fault : Fault} :
    FirstUnreadable (line :: more) index fault ↔
      index = 0 ∧ readValues line = .error fault ∨
        ∃ i values, index = i + 1 ∧ readValues line = .ok values ∧
          FirstUnreadable more i fault := by
  cases index with
  | zero => simp [FirstUnreadable]
  | succ i => simp [FirstUnreadable, and_left_comm]

/-! ## the lines -/

/-- Lines are not read exactly if there is a first one that cannot be read, and
then it decides. -/
theorem readRows_eq_error_iff {number : Nat} {ls : List (List Char)} {e : Error} :
    readRows number ls = .error e ↔
      ∃ index fault, FirstUnreadable ls index fault ∧ e = .malformed (number + index) fault := by
  induction ls generalizing number with
  | nil => simp [readRows, FirstUnreadable]
  | cons line more ih =>
      simp only [firstUnreadable_cons_iff]
      cases hline : readValues line with
      | error fault =>
          have hread : readRows number (line :: more) = .error (.malformed number fault) := by
            rw [readRows, hline]
          rw [hread]
          constructor
          · intro h
            exact ⟨0, fault, .inl ⟨rfl, rfl⟩, (Except.error.inj h).symm⟩
          · rintro ⟨index, fault', ⟨rfl, hfault⟩ | ⟨i, values, -, hvalues, -⟩, rfl⟩
            · rw [Except.error.inj hfault, Nat.add_zero]
            · cases hvalues
      | ok values =>
          have hread : readRows number (line :: more) = .error e ↔
              readRows (number + 1) more = .error e := by
            rw [readRows, hline, bind_eq_error]
            cases values <;> simp
          rw [hread, ih]
          constructor
          · rintro ⟨i, fault, hfirst, rfl⟩
            exact ⟨i + 1, fault, .inr ⟨i, values, rfl, rfl, hfirst⟩, by rw [Nat.add_right_comm,
              Nat.add_assoc]⟩
          · rintro ⟨index, fault, ⟨-, hfault⟩ | ⟨i, _, rfl, -, hfirst⟩, rfl⟩
            · cases hfault
            · exact ⟨i, fault, hfirst, by rw [Nat.add_right_comm, Nat.add_assoc]⟩

/-- Every row is what is read of a line. -/
theorem exists_of_mem_readRows {number : Nat} {ls : List (List Char)} {rows : List Row}
    (h : readRows number ls = .ok rows) :
    ∀ row ∈ rows, ∃ index line, row.line = number + index ∧ ls[index]? = some line ∧
      readValues line = .ok row.values := by
  induction ls generalizing number rows with
  | nil =>
      cases h
      simp
  | cons line more ih =>
      obtain ⟨values, rest, hvalues, hrest, hrows⟩ := readRows_cons_eq_ok.1 h
      have hmore : ∀ row ∈ rest, ∃ index content, row.line = number + index ∧
          (line :: more)[index]? = some content ∧ readValues content = .ok row.values := by
        intro row hrow
        obtain ⟨index, content, hline, hcontent, hread⟩ := ih hrest row hrow
        exact ⟨index + 1, content, by omega, hcontent, hread⟩
      cases values with
      | nil =>
          rw [hrows]
          exact hmore
      | cons first others =>
          rw [hrows]
          exact List.forall_mem_cons.2 ⟨⟨0, line, rfl, rfl, hvalues⟩, hmore⟩

/-- The line of every row holds values. -/
theorem holdsValues_of_mem_readRows {ls : List (List Char)} {rows : List Row}
    (hrows : readRows 1 ls = .ok rows) {row : Row} (hrow : row ∈ rows) :
    HoldsValues ls row.line := by
  obtain ⟨index, line, hnumber, hline, hread⟩ := exists_of_mem_readRows hrows row hrow
  exact ⟨index, line, row.first, row.others, by omega, hline, hread⟩

/-! ## the rows -/

/-- The faults of a row that is looked at when the end keyword is known or is
looked up: all but those of the text as a whole. -/
def Fault.OfRow (fault : Fault) : Prop :=
  fault ≠ .noRootElement ∧ ∀ name, fault ≠ .elementNotClosed name

/-- What is refused of a row is reported at its line. -/
theorem exists_of_step_eq_error {keyword : Value} {p : Progress} {row : Row} {e : Error}
    (h : p.step keyword row = .error e) :
    ∃ fault : Fault, fault.OfRow ∧ e = .malformed row.line fault := by
  have hrow : ∀ {fault : Fault}, fault.OfRow →
      (Except.error (.malformed row.line fault) : Except Error Progress) = .error e →
      ∃ fault : Fault, fault.OfRow ∧ e = .malformed row.line fault := by
    intro fault hfault h
    exact ⟨fault, hfault, (Except.error.inj h).symm⟩
  obtain ⟨line, first, others⟩ := row
  cases p with
  | complete root => exact hrow (by simp [Fault.OfRow]) h
  | inside openElements =>
      cases others with
      | nil =>
          simp only [Progress.step] at h
          split at h
          · split at h
            · exact hrow (by simp [Fault.OfRow]) h
            · cases h
            · cases h
          · split at h
            · exact hrow (by simp [Fault.OfRow]) h
            · cases h
      | cons v values =>
          simp only [Progress.step] at h
          split at h
          · exact hrow (by simp [Fault.OfRow]) h
          · exact hrow (by simp [Fault.OfRow]) h
          · cases h

/-- Rows of open elements lead to these elements. -/
theorem foldlM_of_opened {keyword : Value} {openElements : List Element}
    {values : List (List Value)} (h : Opened keyword openElements values) {rows : List Row}
    (hrows : rows.map Row.values = values) :
    rows.foldlM (Progress.step keyword) (.inside []) = .ok (.inside openElements) := by
  induction h generalizing rows with
  | nil =>
      rw [List.map_eq_nil_iff.1 hrows]
      rfl
  | @cons e outer before inner hname hnodes _ ih =>
      obtain ⟨front, rest, rfl, hfront, hrest⟩ := List.map_eq_append_iff.1 hrows
      obtain ⟨row, innerRows, rfl, hrow, hinner⟩ := List.map_eq_cons_iff.1 hrest
      have hopens : Progress.step keyword (.inside outer) row =
          .ok (.inside (.empty e.name :: outer)) :=
        step_of_takes (by rw [hrow]; exact .opens hname)
      have hfold := foldlM_of_unfolds hnodes hinner (.empty e.name) outer
      rw [List.foldlM_append, ih hfront, ok_bind, List.foldlM_cons, hopens, ok_bind, hfold]
      rfl

/-- The rows that lead to open elements are theirs. -/
theorem opened_of_foldlM {keyword : Value} {openElements : List Element} {rows : List Row}
    (h : rows.foldlM (Progress.step keyword) (.inside []) = .ok (.inside openElements)) :
    Opened keyword openElements (rows.map Row.values) := by
  have hreached := reached_of_foldlM (.inside .nil) h
  rw [List.nil_append] at hreached
  generalize rows.map Row.values = values at hreached
  cases hreached with
  | inside hopened => exact hopened

/-- The last row closes an element, so that either the root element is complete
behind it or another one is still open. -/
theorem foldlM_ne_inside_nil {rows : List Row} {keyword : Value}
    (hkeyword : endKeywordOf rows = .ok keyword) :
    rows.foldlM (Progress.step keyword) (.inside []) ≠ .ok (.inside []) := by
  intro h
  have hlast := getLast?_of_endKeywordOf hkeyword
  have hopened := opened_of_foldlM h
  generalize rows.map Row.values = values at hlast hopened
  cases hopened with
  | nil => cases hlast

/-! ## the whole text -/

/-- What can be wrong with the rows of a text of `lineCount` lines. -/
inductive Fails (lineCount : Nat) (rows : List Row) : Error → Prop
  | noRow (h : rows = []) : Fails lineCount rows (.malformed 1 .noRootElement)
  | atRow {row : Row} {fault : Fault} (hrow : row ∈ rows) (hfault : fault.OfRow) :
      Fails lineCount rows (.malformed row.line fault)
  | inside {keyword : Value} {element : Element} {outer : List Element}
      (hlast : (rows.map Row.values).getLast? = some [keyword])
      (hopened : Opened keyword (element :: outer) (rows.map Row.values)) :
      Fails lineCount rows (.malformed (max 1 lineCount) (.elementNotClosed element.name))

/-- If there is no end keyword, there is no row, or the last one holds several
values. -/
theorem fails_of_endKeywordOf {rows : List Row} {e : Error} (h : endKeywordOf rows = .error e)
    (lineCount : Nat) : Fails lineCount rows e := by
  rw [endKeywordOf] at h
  cases hlast : rows.getLast? with
  | none =>
      simp only [hlast] at h
      rw [← Except.error.inj h]
      exact .noRow (List.getLast?_eq_none_iff.1 hlast)
  | some row =>
      simp only [hlast] at h
      split at h
      · cases h
      · rw [← Except.error.inj h]
        exact .atRow (List.mem_of_getLast? hlast) (by simp [Fault.OfRow])

/-- If all lines can be read, nothing else is reported than what can be wrong
with rows. -/
theorem fails_of_ofChars {text : List Char} {rows : List Row} {e : Error}
    (hrows : readRows 1 (lines text) = .ok rows) (h : ofChars text = .error e) :
    Fails (lines text).length rows e := by
  rw [ofChars, hrows, ok_bind, bind_eq_error] at h
  obtain hkeyword | ⟨keyword, hkeyword, h⟩ := h
  · exact fails_of_endKeywordOf hkeyword _
  · rw [bind_eq_error] at h
    obtain hfold | ⟨progress, hfold, h⟩ := h
    · obtain ⟨row, hrow, p, hstep⟩ := foldlM_eq_error hfold
      obtain ⟨fault, hfault, rfl⟩ := exists_of_step_eq_error hstep
      exact .atRow hrow hfault
    · rw [bind_eq_error] at h
      obtain hroot | ⟨root, -, h⟩ := h
      · cases progress with
        | complete root => cases hroot
        | inside openElements =>
            cases openElements with
            | nil => exact absurd hfold (foldlM_ne_inside_nil hkeyword)
            | cons element outer =>
                rw [← Except.error.inj hroot]
                exact .inside (getLast?_of_endKeywordOf hkeyword) (opened_of_foldlM hfold)
      · cases h

/-- An error of a text lies at a line that cannot be read, at a row, at the
first line if there is no row, or at the last one. -/
theorem exists_of_ofChars_eq_error {text : List Char} {e : Error} (h : ofChars text = .error e) :
    ∃ number fault, e = .malformed number fault ∧ 1 ≤ number ∧
      number ≤ max 1 (lines text).length := by
  cases hrows : readRows 1 (lines text) with
  | error e' =>
      obtain ⟨index, fault, ⟨⟨line, hline, -⟩, -⟩, rfl⟩ := readRows_eq_error_iff.1 hrows
      have hindex : index < (lines text).length := (List.getElem?_eq_some_iff.1 hline).1
      rw [ofChars, hrows, error_bind] at h
      exact ⟨1 + index, fault, (Except.error.inj h).symm, by omega, by omega⟩
  | ok rows =>
      cases fails_of_ofChars hrows h with
      | noRow => exact ⟨1, _, rfl, by omega, by omega⟩
      | @atRow row fault hrow =>
          obtain ⟨hfirst, hlast⟩ := (holdsValues_of_mem_readRows hrows hrow).range
          exact ⟨row.line, fault, rfl, hfirst, by omega⟩
      | inside => exact ⟨_, _, rfl, by omega, by omega⟩

/-- The first line that cannot be read decides. -/
theorem ofChars_of_firstUnreadable {text : List Char} {index : Nat} {fault : Fault}
    (h : FirstUnreadable (lines text) index fault) :
    ofChars text = .error (.malformed (index + 1) fault) := by
  have hrows : readRows 1 (lines text) = .error (.malformed (1 + index) fault) :=
    readRows_eq_error_iff.2 ⟨index, fault, h, rfl⟩
  rw [ofChars, hrows, Nat.add_comm 1 index]
  rfl

/-- Either there is a first line that cannot be read, or all lines can be
read. -/
theorem firstUnreadable_or_rowsOf (ls : List (List Char)) :
    (∃ index fault, FirstUnreadable ls index fault) ∨ ∃ rows, RowsOf ls rows := by
  cases hrows : readRows 1 ls with
  | error e =>
      obtain ⟨index, fault, hfirst, -⟩ := readRows_eq_error_iff.1 hrows
      exact .inl ⟨index, fault, hfirst⟩
  | ok rows => exact .inr ⟨_, rowsOf_of_readRows hrows⟩

section

variable {text : List Char} {rows : List Row}

/-- There is no root element exactly if there is no row. -/
theorem ofChars_eq_noRootElement_iff (hrows : readRows 1 (lines text) = .ok rows) {number : Nat} :
    ofChars text = .error (.malformed number .noRootElement) ↔ number = 1 ∧ rows = [] := by
  constructor
  · intro h
    cases fails_of_ofChars hrows h with
    | noRow hnone => exact ⟨rfl, hnone⟩
    | atRow _ hfault => exact absurd rfl hfault.1
  · rintro ⟨rfl, rfl⟩
    rw [ofChars, hrows]
    rfl

/-- An element is not closed exactly if the rows end inside of it. -/
theorem ofChars_eq_elementNotClosed_iff (hrows : readRows 1 (lines text) = .ok rows)
    {number : Nat} {name : String} :
    ofChars text = .error (.malformed number (.elementNotClosed name)) ↔
      number = max 1 (lines text).length ∧ EndsInside (rows.map Row.values) name := by
  constructor
  · intro h
    cases fails_of_ofChars hrows h with
    | atRow _ hfault => exact absurd rfl (hfault.2 name)
    | inside hlast hopened => exact ⟨rfl, _, _, _, hlast, hopened, rfl⟩
  · rintro ⟨rfl, keyword, element, outer, hlast, hopened, rfl⟩
    have hkeyword : endKeywordOf rows = .ok keyword := by
      rw [List.getLast?_map, Option.map_eq_some_iff] at hlast
      obtain ⟨row, hrow, hvalues⟩ := hlast
      obtain ⟨front, rfl⟩ := List.getLast?_eq_some_iff.1 hrow
      exact endKeywordOf_concat hvalues front
    rw [ofChars, hrows, ok_bind, hkeyword, ok_bind, foldlM_of_opened hopened rfl, ok_bind]
    rfl

/-- A fault of a row lies at a line that holds values. -/
theorem holdsValues_of_ofChars (hrows : readRows 1 (lines text) = .ok rows) {number : Nat}
    {fault : Fault} (h : ofChars text = .error (.malformed number fault)) (hfault : fault.OfRow) :
    HoldsValues (lines text) number := by
  cases fails_of_ofChars hrows h with
  | noRow => exact absurd rfl hfault.1
  | atRow hrow => exact holdsValues_of_mem_readRows hrows hrow
  | inside => exact absurd rfl (hfault.2 _)

end

/-- **The faults of a text**: every error is a fault at one of its lines, or at
the first line if it has none.  The first line that cannot be read is reported
whatever else is wrong.  If all can be read, then there is no root element
exactly if no line holds values, and never behind the last row; an element is
not closed exactly if the rows end inside of it, and it is the innermost one;
and every other fault lies at a line that holds values. -/
theorem faults_of_parse (text : String) :
    (∀ e, parse text = .error e → ∃ number fault, e = .malformed number fault ∧ 1 ≤ number ∧
      number ≤ max 1 (lines text.toList).length) ∧
    ((∃ index fault, FirstUnreadable (lines text.toList) index fault) ∨
      ∃ rows, RowsOf (lines text.toList) rows) ∧
    (∀ index fault, FirstUnreadable (lines text.toList) index fault →
      parse text = .error (.malformed (index + 1) fault)) ∧
    (∀ rows, RowsOf (lines text.toList) rows →
      (∀ number, parse text = .error (.malformed number .noRootElement) ↔
        number = 1 ∧ rows = []) ∧
      (∀ number name, parse text = .error (.malformed number (.elementNotClosed name)) ↔
        number = max 1 (lines text.toList).length ∧ EndsInside rows name) ∧
      ∀ number fault, parse text = .error (.malformed number fault) → fault.OfRow →
        HoldsValues (lines text.toList) number) ∧
    ∀ rows keyword, endKeywordOf rows = .ok keyword →
      rows.foldlM (Progress.step keyword) (.inside []) ≠ .ok (.inside []) := by
  refine ⟨fun e => exists_of_ofChars_eq_error, firstUnreadable_or_rowsOf _,
    fun index fault => ofChars_of_firstUnreadable, ?readable,
    fun rows keyword => foldlM_ne_inside_nil⟩
  case readable =>
    intro values hvalues
    obtain ⟨rows, hrows, rfl⟩ := exists_readRows_of_rowsOf hvalues 1
    refine ⟨fun number => ?_, fun number name => ofChars_eq_elementNotClosed_iff hrows,
      fun number fault => holdsValues_of_ofChars hrows⟩
    rw [List.map_eq_nil_iff]
    exact ofChars_eq_noRootElement_iff hrows

/-- The line that cannot be read is reported, although two other faults stand in
front of it; without it, the first of these is, and behind a row of one value
an element is left open. -/
example :
    parse "End\n - x\nA\n\"" = .error (.malformed 4 .stringNotClosed) ∧
    parse "End\n - x\nA\nEnd" = .error (.malformed 1 .unexpectedEndKeyword) ∧
    parse "A\n B\n C\n end\nEnd" = .error (.malformed 5 (.elementNotClosed "A")) := by
  decide

end UiMarkup.Document
