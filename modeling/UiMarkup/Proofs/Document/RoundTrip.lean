import UiMarkup.Proofs.Document.Grammar
import UiMarkup.Proofs.Document.Lines

/-!
# UiMarkup.Proofs.Document.RoundTrip

Writing a document and reading it again.  What the writer unfolds a tree into
is one of the unfoldings of the grammar, provided that the tree has any: all
closing rows are the end keyword itself.  A document that was read from a text
has an unfolding, whatever its end keyword is and whatever characters its
names and values hold, and so:

* `parse_render_of_parse`: a document that was read is read again from its
  own text.
-/

namespace UiMarkup.Document

/-! ## the rows of the writer -/

/-- A keyword matches itself. -/
theorem matches_self (keyword : Value) : Matches keyword keyword :=
  closes_iff_matches.1 (closes_self keyword)

/-- Every row of an unfolding holds a value. -/
theorem ne_nil_of_unfolds {keyword : Value} {nodes : List Node} {rows : List (List Value)}
    (h : Unfolds keyword nodes rows) : ∀ row ∈ rows, row ≠ [] := by
  induction h with
  | nil => simp
  | attr _ _ ih =>
      intro row hrow
      rcases List.mem_cons.1 hrow with rfl | hrow
      · simp
      · exact ih row hrow
  | elem _ _ _ _ ihnodes ihmore =>
      intro row hrow
      rcases List.mem_cons.1 hrow with rfl | hrow
      · simp
      · rcases List.mem_append.1 hrow with hrow | hrow
        · exact ihnodes row hrow
        · rcases List.mem_cons.1 hrow with rfl | hrow
          · simp
          · exact ihmore row hrow

/-- Nodes that have an unfolding are unfolded by the writer. -/
theorem unfolds_nodesRows {keyword : Value} {nodes : List Node} {rows : List (List Value)}
    (h : Unfolds keyword nodes rows) (depth : Nat) :
    Unfolds keyword nodes ((nodesRows keyword depth nodes).map Prod.snd) := by
  induction h generalizing depth with
  | nil => exact .nil
  | attr hvalues _ ih => exact .attr hvalues (ih depth)
  | elem hname _ _ _ ihnodes ihmore =>
      have h := Unfolds.elem hname (ihnodes (depth + 1)) (matches_self keyword) (ihmore depth)
      simpa [nodesRows, nodeRows] using h

/-- A document that has an unfolding is unfolded by the writer. -/
theorem documentUnfolds_nodeRows {d : Document} {rows : List (List Value)}
    (h : DocumentUnfolds d rows) :
    DocumentUnfolds d ((nodeRows d.endKeyword 0 d.root.toNode).map Prod.snd) := by
  cases h with
  | intro hname hnodes =>
      have h := DocumentUnfolds.intro hname (unfolds_nodesRows hnodes 1)
      simpa [nodeRows, Element.toNode] using h

/-- Every row of a document holds a value. -/
theorem ne_nil_of_documentUnfolds {d : Document} {rows : List (List Value)}
    (h : DocumentUnfolds d rows) : ∀ row ∈ rows, row ≠ [] := by
  cases h with
  | intro _ hnodes =>
      intro row hrow
      rcases List.mem_cons.1 hrow with rfl | hrow
      · simp
      · rcases List.mem_append.1 hrow with hrow | hrow
        · exact ne_nil_of_unfolds hnodes row hrow
        · rw [List.mem_singleton.1 hrow]
          simp

/-! ## reading what was written -/

/-- The rows of written rows are those rows. -/
theorem rowsOf_flatMap_writeRow {rows : List (Nat × List Value)}
    (h : ∀ row ∈ rows.map Prod.snd, row ≠ []) :
    RowsOf (lines (rows.flatMap writeRow)) (rows.map Prod.snd) := by
  refine ⟨rows.map Prod.snd, ?_, ?_⟩
  · rw [lines_flatMap_writeRow, List.forall₂_map_left_iff, List.forall₂_map_right_iff,
      List.forall₂_same]
    exact fun row _ => readValues_rowLine row
  · exact (List.filter_eq_self.2 fun row hrow => decide_eq_true (h row hrow)).symm

/-- A document that has an unfolding is derived from its own text. -/
theorem derives_render {d : Document} {rows : List (List Value)} (h : DocumentUnfolds d rows) :
    Derives d.render d := by
  have hrows := documentUnfolds_nodeRows h
  refine ⟨_, ?_, hrows⟩
  rw [render, String.toList_ofList, toChars]
  exact rowsOf_flatMap_writeRow (ne_nil_of_documentUnfolds hrows)

/-- **Round trip**: a document that was read from a text is read again from
the text that it is written as, with the same tree and the same end keyword. -/
theorem parse_render_of_parse {text : String} {d : Document} (h : parse text = .ok d) :
    parse d.render = .ok d := by
  obtain ⟨rows, -, hunfolds⟩ := parse_eq_ok_iff_derives.1 h
  exact parse_eq_ok_iff_derives.2 (derives_render hunfolds)

/-- The round trip of a document whose end keyword needs quotes, whose root has
the name of the null mark, and whose values hold quotes, slashes, line ends and
comment marks. -/
theorem parse_render_of_parse_quoted :
    parse ("# head\n\"-\"\r\n a\rb - \"\"\"\"/\"/\r\" \"#-\"\n the\n \"THE \"\"END\"\"\"#\n" ++
        "\"The \"\"End\"\"\"\n\u3000") =
      .ok ⟨⟨"-", [.attr ⟨"a", [some "b", none, some "\"\n/\r", some "#-"]⟩, .elem "the" []]⟩,
        some "The \"End\""⟩ ∧
    parse (Document.render
        ⟨⟨"-", [.attr ⟨"a", [some "b", none, some "\"\n/\r", some "#-"]⟩, .elem "the" []]⟩,
          some "The \"End\""⟩) =
      .ok ⟨⟨"-", [.attr ⟨"a", [some "b", none, some "\"\n/\r", some "#-"]⟩, .elem "the" []]⟩,
        some "The \"End\""⟩ := by
  refine ⟨?read, parse_render_of_parse ?read⟩
  rfl

end UiMarkup.Document
