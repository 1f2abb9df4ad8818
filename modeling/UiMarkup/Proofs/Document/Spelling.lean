import UiMarkup.Document.Writer

/-!
# UiMarkup.Proofs.Document.Spelling

The spellings of a value on a line and what the reader makes of them.  A null
value is spelled `-`.  A text is spelled as it is, if no character of it would
end the value, or between quotes.  Whatever spelling is chosen, the reader
gives the value back, provided that a separator, a comment or the end of the
line follows:

* `readValues_append_of_spells`: one spelled value in front of a line;
* `spells_writeValue`: the writer spells every value;
* `readValues_writeValues`: a written row of values is read back.
-/

namespace UiMarkup.Document

open Text (isBlank)

/-! ## spellings -/

/-- Whether a value may end right before the rest of a line: nothing is left,
or the rest begins with white space or with a comment. -/
def EndsValue : List Char → Prop
  | [] => True
  | c :: _ => isBlank c = true ∨ c = '#'

/-- A value may end before white space. -/
theorem endsValue_of_isBlank {c : Char} (h : isBlank c = true) (rest : List Char) :
    EndsValue (c :: rest) :=
  .inl h

/-- Whether a character may stand in a value without quotes. -/
def IsBare (c : Char) : Prop :=
  isBlank c = false ∧ c ≠ '"' ∧ c ≠ '#'

/-- The spellings of a value. -/
inductive Spells : Value → List Char → Prop
  | null : Spells none ['-']
  | bare {cs : List Char} (hne : cs ≠ []) (hdash : cs ≠ ['-']) (hbare : ∀ c ∈ cs, IsBare c) :
      Spells (some (String.ofList cs)) cs
  | quoted (cs : List Char) :
      Spells (some (String.ofList cs)) ('"' :: (cs.flatMap quotedChar ++ ['"']))

/-- The writer spells every value. -/
theorem spells_writeValue (v : Value) : Spells v (writeValue v) := by
  cases v with
  | none => exact .null
  | some s =>
      obtain ⟨cs, rfl⟩ : ∃ cs, s = String.ofList cs := ⟨s.toList, String.ofList_toList.symm⟩
      cases hq : needsQuotes cs with
      | true =>
          have hw : writeValue (some (String.ofList cs)) =
              '"' :: (cs.flatMap quotedChar ++ ['"']) := by
            simp [writeValue, hq]
          rw [hw]
          exact .quoted cs
      | false =>
          have hw : writeValue (some (String.ofList cs)) = cs := by simp [writeValue, hq]
          simp only [needsQuotes, Bool.or_eq_false_iff, decide_eq_false_iff_not,
            List.any_eq_false, beq_iff_eq, Bool.or_eq_true, not_or] at hq
          obtain ⟨⟨hne, hdash⟩, hbare⟩ := hq
          rw [hw]
          refine .bare hne hdash fun c hc => ?_
          obtain ⟨⟨hblank, hquote⟩, hmark⟩ := hbare c hc
          exact ⟨by simpa using hblank, hquote, hmark⟩

/-- A character between quotes is written without a line feed. -/
theorem lineFeed_not_mem_quotedChar (c : Char) : '\n' ∉ quotedChar c := by
  by_cases hquote : c = '"'
  · rw [quotedChar, if_pos hquote]
    decide
  · by_cases hfeed : c = '\n'
    · rw [quotedChar, if_neg hquote, if_pos hfeed]
      decide
    · rw [quotedChar, if_neg hquote, if_neg hfeed, List.mem_singleton]
      exact fun h => hfeed h.symm

/-- No spelling holds a line feed. -/
theorem lineFeed_not_mem_of_spells {v : Value} {cs : List Char} (h : Spells v cs) :
    '\n' ∉ cs := by
  cases h with
  | null => decide
  | bare _ _ hbare =>
      intro hmem
      have := (hbare _ hmem).1
      simp [Text.isBlank_lineEnds] at this
  | quoted cs => simpa using fun c _ => lineFeed_not_mem_quotedChar c

/-- The last character of a spelling is no white space. -/
theorem exists_getLast?_of_spells {v : Value} {cs : List Char} (h : Spells v cs) :
    ∃ c, cs.getLast? = some c ∧ isBlank c = false := by
  cases h with
  | null => exact ⟨'-', rfl, Text.isBlank_marks.2.2⟩
  | bare hne _ hbare =>
      exact ⟨_, List.getLast?_eq_some_getLast hne, (hbare _ (List.getLast_mem hne)).1⟩
  | quoted cs =>
      refine ⟨'"', ?_, Text.isBlank_marks.1⟩
      rw [← List.cons_append, List.getLast?_concat]

/-! ## reading a spelling -/

/-- White space in front of the values changes nothing. -/
theorem readValues_blank {c : Char} (h : isBlank c = true) (rest : List Char) :
    readValues (c :: rest) = readValues rest := by
  rw [readValues, if_pos h]

/-- A run of white space in front of the values changes nothing. -/
theorem readValues_append_blanks {blanks : List Char} (h : ∀ c ∈ blanks, isBlank c = true)
    (rest : List Char) : readValues (blanks ++ rest) = readValues rest := by
  induction blanks with
  | nil => rfl
  | cons c blanks ih =>
      rw [List.cons_append, readValues_blank (h c List.mem_cons_self)]
      exact ih fun d hd => h d (List.mem_cons_of_mem c hd)

/-- A comment holds no values. -/
theorem readValues_comment (rest : List Char) : readValues ('#' :: rest) = .ok [] := by
  rw [readValues, if_neg (by simp [Text.isBlank_marks]), if_pos rfl]

/-- Between quotes, a character other than the quote stands for itself. -/
theorem readQuoted_cons {c : Char} (h : c ≠ '"') (rest : List Char) :
    readQuoted (c :: rest) = (readQuoted rest).map fun r => (c :: r.1, r.2) := by
  rw [readQuoted]
  · rfl
  all_goals simp_all

/-- Between quotes, a doubled quote stands for a quote. -/
theorem readQuoted_doubled (rest : List Char) :
    readQuoted ('"' :: '"' :: rest) = (readQuoted rest).map fun r => ('"' :: r.1, r.2) := by
  rw [readQuoted]
  rfl

/-- Between quotes, a slash between two quotes stands for a line feed. -/
theorem readQuoted_lineFeed (rest : List Char) :
    readQuoted ('"' :: '/' :: '"' :: rest) =
      (readQuoted rest).map fun r => ('\n' :: r.1, r.2) := by
  rw [readQuoted]
  rfl

/-- The written form of a character between quotes is read as that character. -/
theorem readQuoted_quotedChar (c : Char) (rest : List Char) :
    readQuoted (quotedChar c ++ rest) = (readQuoted rest).map fun r => (c :: r.1, r.2) := by
  by_cases hquote : c = '"'
  · rw [quotedChar, if_pos hquote, hquote]
    exact readQuoted_doubled rest
  · by_cases hfeed : c = '\n'
    · rw [quotedChar, if_neg hquote, if_pos hfeed, hfeed]
      exact readQuoted_lineFeed rest
    · rw [quotedChar, if_neg hquote, if_neg hfeed]
      exact readQuoted_cons hquote rest

/-- A quote closes the value where a value may end. -/
theorem readQuoted_close {rest : List Char} (h : EndsValue rest) :
    readQuoted ('"' :: rest) = (readValues rest).map fun values => ([], values) := by
  cases rest with
  | nil => rfl
  | cons c rest =>
      rcases h with hblank | rfl
      · have hquote : c ≠ '"' := by rintro rfl; simp [Text.isBlank_marks] at hblank
        have hslash : c ≠ '/' := by rintro rfl; revert hblank; decide
        rw [readValues_blank hblank, readQuoted, if_pos hblank]
        · rfl
        all_goals simp_all
      · rw [readValues_comment, readQuoted, if_neg (by simp [Text.isBlank_marks]), if_pos rfl]
        · rfl
        all_goals simp

/-- A text between quotes is read back. -/
theorem readQuoted_flatMap (cs : List Char) {rest : List Char} (h : EndsValue rest) :
    readQuoted (cs.flatMap quotedChar ++ '"' :: rest) =
      (readValues rest).map fun values => (cs, values) := by
  induction cs with
  | nil => exact readQuoted_close h
  | cons c cs ih =>
      rw [List.flatMap_cons, List.append_assoc, readQuoted_quotedChar, ih]
      cases readValues rest <;> rfl

/-- An unquoted value ends where a value may end. -/
theorem readWord_end {rest : List Char} (h : EndsValue rest) :
    readWord rest = (readValues rest).map fun values => ([], values) := by
  cases rest with
  | nil => rfl
  | cons c rest =>
      rcases h with hblank | rfl
      · rw [readWord, if_pos hblank, readValues_blank hblank]
        rfl
      · rw [readValues_comment, readWord, if_neg (by simp [Text.isBlank_marks]), if_pos rfl]
        rfl

/-- Bare characters are read as they stand. -/
theorem readWord_append {cs : List Char} (hcs : ∀ c ∈ cs, IsBare c) {rest : List Char}
    (h : EndsValue rest) :
    readWord (cs ++ rest) = (readValues rest).map fun values => (cs, values) := by
  induction cs with
  | nil => exact readWord_end h
  | cons c cs ih =>
      obtain ⟨hblank, hquote, hmark⟩ := hcs c List.mem_cons_self
      rw [List.cons_append, readWord, if_neg (by simp [hblank]), if_neg hmark, if_neg hquote,
        ih fun d hd => hcs d (List.mem_cons_of_mem c hd)]
      cases readValues rest <;> rfl

/-- A spelled value in front of a line is read as that value. -/
theorem readValues_append_of_spells {v : Value} {cs rest : List Char} (hv : Spells v cs)
    (h : EndsValue rest) :
    readValues (cs ++ rest) = (readValues rest).map (v :: ·) := by
  have hword : ∀ {cs : List Char}, cs ≠ [] → (∀ c ∈ cs, IsBare c) →
      readValues (cs ++ rest) = (readValues rest).map (wordValue cs :: ·) := by
    intro cs hne hcs
    obtain ⟨c, cs, rfl⟩ := List.exists_cons_of_ne_nil hne
    obtain ⟨hblank, hquote, hmark⟩ := hcs c List.mem_cons_self
    rw [List.cons_append, readValues, if_neg (by simp [hblank]), if_neg hmark, if_neg hquote,
      readWord_append (fun d hd => hcs d (List.mem_cons_of_mem c hd)) h]
    cases readValues rest <;> rfl
  cases hv with
  | null => exact hword (by simp) (by simp [IsBare, Text.isBlank_marks])
  | bare hne hdash hbare =>
      rw [hword hne hbare, wordValue, if_neg hdash]
  | quoted cs =>
      rw [List.cons_append, List.append_assoc, readValues,
        if_neg (by simp [Text.isBlank_marks]), if_neg (by simp), if_pos rfl, List.singleton_append,
        readQuoted_flatMap cs h]
      cases readValues rest <;> rfl

/-- A written row of values is read back. -/
theorem readValues_writeValues (values : List Value) :
    readValues (writeValues values) = .ok values := by
  induction values with
  | nil => rfl
  | cons v values ih =>
      cases values with
      | nil =>
          have h : readValues (writeValue v ++ []) = (readValues []).map (v :: ·) :=
            readValues_append_of_spells (spells_writeValue v) trivial
          rw [List.append_nil] at h
          rw [writeValues, h, readValues]
          rfl
      | cons w values =>
          have hblank : isBlank ' ' = true := by decide
          rw [writeValues, readValues_append_of_spells (spells_writeValue v)
            (endsValue_of_isBlank hblank _), readValues_blank hblank, ih]
          · rfl
          · simp

end UiMarkup.Document
