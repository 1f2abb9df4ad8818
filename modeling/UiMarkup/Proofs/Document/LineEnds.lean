import UiMarkup.Proofs.Document.Layout
import UiMarkup.Proofs.Document.Lines
import UiMarkup.Document.Reader

/-!
# UiMarkup.Proofs.Document.LineEnds

The two ways to end a line.  A carriage return in front of a line feed belongs
to the line end, and a second one in front of it is white space at the end of
the line.  White space there changes nothing, not even for a line that cannot
be read: between quotes it is one more character of a value that is not
closed, and behind half a line break it is not the quote that is missing.  So
a text may be written with either line end, or with both:

* `readValues_concat_blank`: white space at the end of any line;
* `map_readValues_lines`: what is read of the first line of a text;
* `parse_withReturns`: a carriage return in front of every line feed.
-/

namespace UiMarkup.Document

open Text (isBlank)

/-! ## white space at the end of a line -/

/-- A value between quotes is read from the quote on. -/
theorem readValues_quote (rest : List Char) :
    readValues ('"' :: rest) =
      (readQuoted rest).map fun r => some (String.ofList r.1) :: r.2 := by
  have hblank : ¬ isBlank '"' = true := by simp [Text.isBlank_marks]
  rw [readValues, if_neg hblank, if_neg (by decide), if_pos rfl]
  rfl

/-- An unquoted value is read from its first character on. -/
theorem readValues_bare {c : Char} (h : IsBare c) (rest : List Char) :
    readValues (c :: rest) = (readWord rest).map fun r => wordValue (c :: r.1) :: r.2 := by
  obtain ⟨hblank, hquote, hmark⟩ := h
  rw [readValues, if_neg (by simp [hblank]), if_neg hmark, if_neg hquote]
  rfl

/-- A quote inside an unquoted value is refused. -/
theorem readWord_quote (rest : List Char) : readWord ('"' :: rest) = .error .quoteInValue := by
  have hblank : ¬ isBlank '"' = true := by simp [Text.isBlank_marks]
  rw [readWord, if_neg hblank, if_neg (by decide), if_pos rfl]

/-- White space at the end of a line changes neither what is read of it nor why
it cannot be read. -/
theorem readValues_concat_blank {c : Char} (h : isBlank c = true) (line : List Char) :
    readValues (line ++ [c]) = readValues line := by
  have hquote : c ≠ '"' := by rintro rfl; simp [Text.isBlank_marks] at h
  have hnothing : EndsValue [] := trivial
  have hends : EndsValue [c] := endsValue_of_isBlank h []
  have hnone : readValues [c] = readValues [] := readValues_blank h []
  -- the three readers call each other, so all three are followed at once
  refine readValues.induct (fun line => readValues (line ++ [c]) = readValues line)
    (fun line => readWord (line ++ [c]) = readWord line)
    (fun line => readQuoted (line ++ [c]) = readQuoted line)
    ?nothing ?blank ?comment ?quote ?bare
    ?wordEnd ?wordBlank ?wordComment ?wordQuote ?wordBare
    ?notClosed ?closed ?doubled ?lineFeed ?broken ?closedBlank ?closedComment ?closedText ?char
    line
  case nothing => exact hnone
  case blank =>
    intro d rest hd ih
    rw [List.cons_append, readValues_blank hd, readValues_blank hd, ih]
  case comment =>
    intro rest _
    rw [List.cons_append, readValues_comment, readValues_comment]
  case quote =>
    intro rest _ _ ih
    rw [List.cons_append, readValues_quote, readValues_quote, ih]
  case bare =>
    intro d rest hblank hmark hd ih
    have hbare : IsBare d := ⟨by simpa using hblank, hd, hmark⟩
    rw [List.cons_append, readValues_bare hbare, readValues_bare hbare, ih]
  case wordEnd =>
    have hword := readWord_end hends
    rw [hnone] at hword
    exact hword.trans (readWord_end hnothing).symm
  case wordBlank =>
    intro d rest hd ih
    have hd' : ∀ more, EndsValue (d :: more) := endsValue_of_isBlank hd
    rw [List.cons_append, readWord_end (hd' _), readWord_end (hd' _), readValues_blank hd,
      readValues_blank hd, ih]
  case wordComment =>
    intro rest _
    have hmark : ∀ more, EndsValue ('#' :: more) := fun more => .inr rfl
    rw [List.cons_append, readWord_end (hmark _), readWord_end (hmark _), readValues_comment,
      readValues_comment]
  case wordQuote =>
    intro rest _ _
    rw [List.cons_append, readWord_quote, readWord_quote]
  case wordBare =>
    intro d rest hblank hmark hd ih
    have hbare : IsBare d := ⟨by simpa using hblank, hd, hmark⟩
    rw [List.cons_append, readWord_bare hbare, readWord_bare hbare, ih]
  case notClosed => rw [List.nil_append, readQuoted_cons hquote]; rfl
  case closed =>
    have hclose := readQuoted_close hends
    rw [hnone] at hclose
    exact hclose.trans (readQuoted_close hnothing).symm
  case doubled =>
    intro rest ih
    rw [List.cons_append, List.cons_append, readQuoted_doubled, readQuoted_doubled, ih]
  case lineFeed =>
    intro rest ih
    rw [List.cons_append, List.cons_append, List.cons_append, readQuoted_lineFeed,
      readQuoted_lineFeed, ih]
  case broken =>
    intro rest hrest
    have hrest' : ∀ more, rest ++ [c] = '"' :: more → False := by
      intro more heq
      cases rest with
      | nil => exact hquote (List.cons.inj heq).1
      | cons d rest => exact hrest rest (by rw [(List.cons.inj heq).1])
    rw [List.cons_append, List.cons_append, readQuoted, readQuoted]
    · exact hrest
    · exact hrest'
  case closedBlank =>
    intro d rest _ _ _ hd ih
    have hd' : ∀ more, EndsValue (d :: more) := endsValue_of_isBlank hd
    rw [List.cons_append, List.cons_append, readQuoted_close (hd' _), readQuoted_close (hd' _),
      readValues_blank hd, readValues_blank hd, ih]
  case closedComment =>
    intro rest _ _ _ _
    have hmark : ∀ more, EndsValue ('#' :: more) := fun more => .inr rfl
    rw [List.cons_append, List.cons_append, readQuoted_close (hmark _),
      readQuoted_close (hmark _), readValues_comment, readValues_comment]
  case closedText =>
    intro d rest hd hfeed hslash hblank hmark
    rw [List.cons_append, List.cons_append, readQuoted, readQuoted]
    all_goals simp_all
  case char =>
    intro d rest hlone _ _ _ hother ih
    have hd : d ≠ '"' := by
      intro hd
      cases rest with
      | nil => exact hlone hd rfl
      | cons e rest => exact hother e rest hd rfl
    rw [List.cons_append, readQuoted_cons hd, readQuoted_cons hd, ih]

/-! ## line by line -/

/-- A text without a line feed is one line, or a line feed ends its first
line: what holds of texts of the first kind, and of a line in front of a text
that it holds of, holds of all texts. -/
@[elab_as_elim] theorem inductionOnLines {motive : List Char → Prop}
    (last : ∀ line, '\n' ∉ line → motive line)
    (cons : ∀ line rest, '\n' ∉ line → motive rest → motive (line ++ '\n' :: rest))
    (text : List Char) : motive text := by
  -- `line` is what has been passed by of the first line
  have hafter : ∀ line, '\n' ∉ line → motive (line ++ text) := by
    induction text with
    | nil =>
        intro line hline
        rw [List.append_nil]
        exact last line hline
    | cons c text ih =>
        intro line hline
        by_cases hc : c = '\n'
        · subst hc
          exact cons line text hline (ih [] List.not_mem_nil)
        · have hmore : '\n' ∉ line ++ [c] := by
            rw [List.mem_append, List.mem_singleton, not_or]
            exact ⟨hline, fun h => hc h.symm⟩
          rw [← List.singleton_append, ← List.append_assoc]
          exact ih (line ++ [c]) hmore
  exact hafter [] List.not_mem_nil

/-- A carriage return in front of a line feed belongs to the line end. -/
theorem lines_append_lineEnd {line : List Char} (hfeed : '\n' ∉ line) (rest : List Char) :
    lines (line ++ '\r' :: '\n' :: rest) = line :: lines rest := by
  induction line with
  | nil => rw [List.nil_append, lines]
  | cons c line ih =>
      obtain ⟨hc, hline⟩ := not_or.1 (mt List.mem_cons.2 hfeed)
      have hnext : c = '\r' → (line ++ '\r' :: '\n' :: rest).head? ≠ some '\n' := by
        intro _ hhead
        cases line with
        | nil => simp at hhead
        | cons d line =>
            have hd : d = '\n' := Option.some.inj hhead
            exact hline (hd ▸ List.mem_cons_self)
      rw [List.cons_append, lines_cons (fun h => hc h.symm) hnext, ih hline]

/-- What is read of the first line of a text is what is read of all that
stands in front of its first line feed. -/
theorem map_readValues_lines {line : List Char} (hfeed : '\n' ∉ line) (rest : List Char) :
    (lines (line ++ '\n' :: rest)).map readValues =
      readValues line :: (lines rest).map readValues := by
  by_cases hreturn : line.getLast? = some '\r'
  · obtain ⟨front, rfl⟩ := List.getLast?_eq_some_iff.1 hreturn
    have hfront : '\n' ∉ front := fun h => hfeed (List.mem_append_left _ h)
    rw [List.append_assoc, List.singleton_append, lines_append_lineEnd hfront, List.map_cons,
      readValues_concat_blank Text.isBlank_lineEnds.2]
  · rw [lines_append_lineFeed hfeed hreturn, List.map_cons]

/-- A text is read by what is read of each of its lines. -/
theorem readRows_congr {ls ms : List (List Char)}
    (h : ls.map readValues = ms.map readValues) (number : Nat) :
    readRows number ls = readRows number ms := by
  induction ls generalizing number ms with
  | nil =>
      rw [List.map_nil, eq_comm, List.map_eq_nil_iff] at h
      rw [h]
  | cons line ls ih =>
      obtain ⟨line', ms', rfl, hline, hmore⟩ := List.map_eq_cons_iff.1 h.symm
      rw [readRows, readRows, hline, ih hmore.symm]

/-- Two texts are read alike if what is read of each line is the same. -/
theorem ofChars_congr {s t : List Char}
    (h : (lines s).map readValues = (lines t).map readValues) : ofChars s = ofChars t := by
  have hlength : (lines s).length = (lines t).length := by
    simpa only [List.length_map] using congrArg List.length h
  rw [ofChars, ofChars, readRows_congr h, hlength]

/-! ## carriage returns -/

/-- A text with a carriage return in front of every line feed, whether there is
one already or not. -/
def withReturns (text : List Char) : List Char :=
  text.flatMap fun c => if c = '\n' then ['\r', '\n'] else [c]

/-- Nothing is added to a text without line feeds. -/
theorem withReturns_eq_self {line : List Char} (h : '\n' ∉ line) : withReturns line = line := by
  induction line with
  | nil => rfl
  | cons c line ih =>
      obtain ⟨hc, hline⟩ := not_or.1 (mt List.mem_cons.2 h)
      have hmore : withReturns line = line := ih hline
      rw [withReturns] at hmore ⊢
      rw [List.flatMap_cons, if_neg fun h => hc h.symm, hmore, List.singleton_append]

/-- The first line gets its carriage return. -/
theorem withReturns_append_lineFeed {line : List Char} (h : '\n' ∉ line) (rest : List Char) :
    withReturns (line ++ '\n' :: rest) = (line ++ ['\r']) ++ '\n' :: withReturns rest := by
  have hline : withReturns line = line := withReturns_eq_self h
  rw [withReturns] at hline ⊢
  rw [List.flatMap_append, hline, List.flatMap_cons, if_pos rfl, withReturns, List.append_assoc]
  rfl

/-- **Line ends do not matter**: a text with a carriage return in front of every
line feed gives the same document or the same error, whatever line ends it has
already and wherever else it holds carriage returns. -/
theorem parse_withReturns (text : String) :
    parse (String.ofList (withReturns text.toList)) = parse text := by
  rw [parse, parse, String.toList_ofList]
  apply ofChars_congr
  induction text.toList using inductionOnLines with
  | last line hline => rw [withReturns_eq_self hline]
  | cons line rest hline ih =>
      have hreturned : '\n' ∉ line ++ ['\r'] := by simp [hline]
      rw [withReturns_append_lineFeed hline, map_readValues_lines hreturned,
        map_readValues_lines hline, ih, readValues_concat_blank Text.isBlank_lineEnds.2]

/-- A line feed of each kind, a carriage return between quotes that are not
closed, and the same error at the same line. -/
example : withReturns "A\n\r\n b \"\r\nEnd".toList = "A\r\n\r\r\n b \"\r\r\nEnd".toList ∧
    parse "A\n\r\n b \"\r\nEnd" = .error (.malformed 3 .stringNotClosed) := by
  decide

end UiMarkup.Document
