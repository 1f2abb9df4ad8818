import UiMarkup.Proofs.Document.Spelling

/-!
# UiMarkup.Proofs.Document.Lines

Where the lines of a text lie.  A line ends at a line feed, and a carriage
return at its very end belongs to the line end; so a line is cut out whole if
it holds no line feed and does not end with a carriage return.  Every written
row is such a line:

* `lines_append_lineFeed`: the first line of a text;
* `lines_flatMap_writeRow`: the lines of written rows.
-/

namespace UiMarkup.Document

open Text (isBlank)

/-! ## cutting off the first line -/

/-- A character that does not end a line belongs to the first one. -/
theorem lines_cons {c : Char} {cs : List Char} (hfeed : c ≠ '\n')
    (hreturn : c = '\r' → cs.head? ≠ some '\n') :
    lines (c :: cs) =
      match lines cs with
      | [] => [[c]]
      | line :: more => (c :: line) :: more := by
  rw [lines.eq_def]
  split
  · next h => cases h
  · next rest h => exact absurd (List.cons.inj h).1 hfeed
  · next rest h =>
    obtain ⟨hc, hcs⟩ := List.cons.inj h
    exact absurd (by rw [hcs]; rfl) (hreturn hc)
  · next h =>
    obtain ⟨rfl, rfl⟩ := List.cons.inj h
    rfl

/-- A line feed ends the line in front of it. -/
theorem lines_append_lineFeed {line : List Char} (hfeed : '\n' ∉ line)
    (hreturn : line.getLast? ≠ some '\r') (rest : List Char) :
    lines (line ++ '\n' :: rest) = line :: lines rest := by
  induction line with
  | nil => rw [List.nil_append, lines]
  | cons c line ih =>
      have hc : c ≠ '\n' := fun h => hfeed (h ▸ List.mem_cons_self)
      have hline : '\n' ∉ line := fun h => hfeed (List.mem_cons_of_mem c h)
      have hnext : c = '\r' → (line ++ '\n' :: rest).head? ≠ some '\n' := by
        rintro rfl
        cases line with
        | nil => exact absurd rfl hreturn
        | cons d line =>
            have hd : d ≠ '\n' := fun h => hline (h ▸ List.mem_cons_self)
            simpa using hd
      have hlast : line.getLast? ≠ some '\r' := by
        cases line with
        | nil => simp
        | cons d line => rwa [List.getLast?_cons_cons] at hreturn
      rw [List.cons_append, lines_cons hc hnext, ih hline hlast]

/-! ## written rows -/

/-- The line of a row without its line feed. -/
def rowLine (row : Nat × List Value) : List Char :=
  List.replicate row.1 '\t' ++ writeValues row.2

/-- A row is written as its line and a line feed. -/
theorem writeRow_eq (row : Nat × List Value) : writeRow row = rowLine row ++ ['\n'] := rfl

/-- Written values hold no line feed. -/
theorem lineFeed_not_mem_writeValues (values : List Value) : '\n' ∉ writeValues values := by
  induction values with
  | nil => simp [writeValues]
  | cons v values ih =>
      have hv := lineFeed_not_mem_of_spells (spells_writeValue v)
      cases values with
      | nil => rwa [writeValues]
      | cons w values =>
          rw [writeValues]
          · simp only [List.mem_append, List.mem_cons, not_or]
            exact ⟨hv, by decide, ih⟩
          · simp

/-- The line of a row holds no line feed. -/
theorem lineFeed_not_mem_rowLine (row : Nat × List Value) : '\n' ∉ rowLine row := by
  intro h
  rcases List.mem_append.1 h with htab | hvalues
  · exact absurd (List.eq_of_mem_replicate htab) (by decide)
  · exact lineFeed_not_mem_writeValues row.2 hvalues

/-- The last character of written values is no white space. -/
theorem exists_getLast?_writeValues {values : List Value} (h : values ≠ []) :
    ∃ c, (writeValues values).getLast? = some c ∧ isBlank c = false := by
  induction values with
  | nil => exact absurd rfl h
  | cons v values ih =>
      cases values with
      | nil =>
          rw [writeValues]
          exact exists_getLast?_of_spells (spells_writeValue v)
      | cons w values =>
          obtain ⟨c, hc, hblank⟩ := ih (by simp)
          refine ⟨c, ?_, hblank⟩
          rw [writeValues]
          · rw [List.getLast?_append, List.getLast?_cons, hc]
            rfl
          · simp

/-- The line of a row does not end with a carriage return. -/
theorem getLast?_rowLine_ne (row : Nat × List Value) : (rowLine row).getLast? ≠ some '\r' := by
  obtain ⟨depth, values⟩ := row
  rw [rowLine, List.getLast?_append]
  cases values with
  | nil =>
      intro h
      simp only [writeValues, List.getLast?_nil, Option.none_or] at h
      exact absurd (List.eq_of_mem_replicate (List.mem_of_getLast? h)) (by decide)
  | cons v values =>
      obtain ⟨c, hc, hblank⟩ := exists_getLast?_writeValues (List.cons_ne_nil v values)
      rw [hc, Option.some_or]
      intro h
      rw [Option.some.inj h, Text.isBlank_lineEnds.2] at hblank
      exact absurd hblank (by decide)

/-- The lines of written rows are the lines of the rows. -/
theorem lines_flatMap_writeRow (rows : List (Nat × List Value)) :
    lines (rows.flatMap writeRow) = rows.map rowLine := by
  induction rows with
  | nil => exact lines_nil
  | cons row rows ih =>
      rw [List.flatMap_cons, writeRow_eq, List.append_assoc, List.singleton_append,
        lines_append_lineFeed (lineFeed_not_mem_rowLine row) (getLast?_rowLine_ne row), ih,
        List.map_cons]

/-- The line of a row holds the values of the row. -/
theorem readValues_rowLine (row : Nat × List Value) : readValues (rowLine row) = .ok row.2 := by
  have htab : isBlank '\t' = true := by decide
  rw [rowLine, readValues_append_blanks, readValues_writeValues]
  intro c hc
  rw [List.eq_of_mem_replicate hc, htab]

end UiMarkup.Document
