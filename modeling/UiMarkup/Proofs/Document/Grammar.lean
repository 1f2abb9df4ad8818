import Mathlib.Data.List.Forall2
import UiMarkup.Document.Reader
import UiMarkup.Proofs.Outcome

/-!
# UiMarkup.Proofs.Document.Grammar

The grammar of documents, said without a stack.  The lines of a text that hold
values are its rows.  A list of nodes unfolds into rows: an attribute is one
row of its name and its values, and an element is a row with its name, the
rows of its nodes and a row that matches the end keyword.  A document is
derived from a text whose rows are those of its root element, closed by the
end keyword itself.

The reader keeps a stack of open elements.  What it has taken in at any moment
is the unfolding of that stack (`Opened`), each row changes it in one of four
ways (`Takes`), and so:

* `parse_eq_ok_and_unique`: a text is read exactly if a document can be
  derived from it, and then the result is the only one.
-/

namespace UiMarkup.Document

/-! ## the grammar -/

/-- Two values are the same keyword: both are null, or both are texts that
agree but for the case of the letters `A` to `Z`. -/
inductive Matches : Value → Value → Prop
  | null : Matches none none
  | text {s t : String} (h : s.toList.map Char.toLower = t.toList.map Char.toLower) :
      Matches (some s) (some t)

/-- The unfoldings of a list of nodes under an end keyword.  An attribute has
at least one value, the name of an element does not match the keyword, and the
row that closes an element does. -/
inductive Unfolds (keyword : Value) : List Node → List (List Value) → Prop
  | nil : Unfolds keyword [] []
  | attr {a : Attribute} {more : List Node} {rows : List (List Value)}
      (hvalues : a.values ≠ []) (hmore : Unfolds keyword more rows) :
      Unfolds keyword (.attr a :: more) ((some a.name :: a.values) :: rows)
  | elem {name : String} {nodes more : List Node} {inner rows : List (List Value)}
      {closing : Value} (hname : ¬ Matches (some name) keyword)
      (hnodes : Unfolds keyword nodes inner) (hclosing : Matches closing keyword)
      (hmore : Unfolds keyword more rows) :
      Unfolds keyword (.elem name nodes :: more) ([some name] :: (inner ++ [closing] :: rows))

/-- The unfoldings of a document: those of its root element, where the last
row is the end keyword itself. -/
inductive DocumentUnfolds : Document → List (List Value) → Prop
  | intro {root : Element} {keyword : Value} {inner : List (List Value)}
      (hname : ¬ Matches (some root.name) keyword)
      (hnodes : Unfolds keyword root.nodes inner) :
      DocumentUnfolds ⟨root, keyword⟩ ([some root.name] :: (inner ++ [[keyword]]))

/-- The rows of lines: every line can be read, and those that hold values are
the rows, in order. -/
def RowsOf (ls : List (List Char)) (rows : List (List Value)) : Prop :=
  ∃ values, List.Forall₂ (fun line vs => readValues line = .ok vs) ls values ∧
    rows = values.filter (· ≠ [])

/-- A document can be derived from a text: its rows are an unfolding. -/
def Derives (text : String) (d : Document) : Prop :=
  ∃ rows, RowsOf (lines text.toList) rows ∧ DocumentUnfolds d rows

/-! ## the rows that the reader finds -/

/-- The values of a row. -/
def Row.values (row : Row) : List Value :=
  row.first :: row.others

/-- Without lines there are no rows. -/
theorem rowsOf_nil {rows : List (List Value)} : RowsOf [] rows ↔ rows = [] := by
  constructor
  · rintro ⟨values, hvalues, rfl⟩
    cases hvalues
    rfl
  · rintro rfl
    exact ⟨[], .nil, rfl⟩

/-- The first line gives one row or none. -/
theorem rowsOf_cons {line : List Char} {more : List (List Char)} {rows : List (List Value)} :
    RowsOf (line :: more) rows ↔
      ∃ vs rest, readValues line = .ok vs ∧ RowsOf more rest ∧
        rows = if vs = [] then rest else vs :: rest := by
  constructor
  · rintro ⟨values, hvalues, rfl⟩
    cases hvalues with
    | @cons _ vs _ values hvs hmore =>
        refine ⟨vs, _, hvs, ⟨values, hmore, rfl⟩, ?_⟩
        by_cases h : vs = [] <;> simp [h]
  · rintro ⟨vs, rest, hvs, ⟨values, hmore, rfl⟩, rfl⟩
    refine ⟨vs :: values, .cons hvs hmore, ?_⟩
    by_cases h : vs = [] <;> simp [h]

/-- The reader numbers the rows that the lines hold. -/
theorem readRows_cons_eq_ok {number : Nat} {line : List Char} {more : List (List Char)}
    {rows : List Row} :
    readRows number (line :: more) = .ok rows ↔
      ∃ vs rest, readValues line = .ok vs ∧ readRows (number + 1) more = .ok rest ∧
        rows = match vs with
          | [] => rest
          | first :: others => ⟨number, first, others⟩ :: rest := by
  rw [readRows]
  cases readValues line with
  | error fault => simp
  | ok vs =>
      cases readRows (number + 1) more with
      | error e => simp
      | ok rest => cases vs <;> simp [eq_comm]

/-- What the reader finds are the rows of the lines. -/
theorem rowsOf_of_readRows {number : Nat} {ls : List (List Char)} {rows : List Row}
    (h : readRows number ls = .ok rows) : RowsOf ls (rows.map Row.values) := by
  induction ls generalizing number rows with
  | nil =>
      rw [readRows] at h
      rw [← Except.ok.inj h]
      exact rowsOf_nil.2 rfl
  | cons line more ih =>
      obtain ⟨vs, rest, hvs, hrest, rfl⟩ := readRows_cons_eq_ok.1 h
      refine rowsOf_cons.2 ⟨vs, _, hvs, ih hrest, ?_⟩
      cases vs <;> rfl

/-- The reader finds the rows of lines that can all be read. -/
theorem exists_readRows_of_rowsOf {ls : List (List Char)} {rows : List (List Value)}
    (h : RowsOf ls rows) (number : Nat) :
    ∃ found, readRows number ls = .ok found ∧ found.map Row.values = rows := by
  induction ls generalizing number rows with
  | nil => exact ⟨[], rfl, (rowsOf_nil.1 h).symm⟩
  | cons line more ih =>
      obtain ⟨vs, rest, hvs, hrest, rfl⟩ := rowsOf_cons.1 h
      obtain ⟨found, hfound, rfl⟩ := ih hrest (number + 1)
      refine ⟨_, readRows_cons_eq_ok.2 ⟨vs, found, hvs, hfound, rfl⟩, ?_⟩
      cases vs <;> rfl

/-! ## one row -/

/-- The reader closes an element at a value that matches the keyword. -/
theorem closes_iff_matches {keyword v : Value} : closes keyword v = true ↔ Matches v keyword := by
  cases v with
  | none =>
      cases keyword with
      | none => exact iff_of_true rfl .null
      | some t => exact iff_of_false (by simp [closes]) (by intro h; cases h)
  | some s =>
      cases keyword with
      | none => exact iff_of_false (by simp [closes]) (by intro h; cases h)
      | some t =>
          rw [closes, Option.any_some, Text.sameKeyword_iff]
          exact ⟨.text, fun h => by cases h; assumption⟩

/-- What a row makes of the open elements: it opens an element, gives the
innermost one an attribute, or closes it, as a node of the next one or as the
root. -/
inductive Takes (keyword : Value) : List Element → List Value → Progress → Prop
  | opens {name : String} {openElements : List Element}
      (hname : ¬ Matches (some name) keyword) :
      Takes keyword openElements [some name] (.inside (.empty name :: openElements))
  | gives {name : String} {values : List Value} {parent : Element} {outer : List Element}
      (hvalues : values ≠ []) :
      Takes keyword (parent :: outer) (some name :: values)
        (.inside (parent.push (.attr ⟨name, values⟩) :: outer))
  | closes {closing : Value} {element parent : Element} {outer : List Element}
      (hclosing : Matches closing keyword) :
      Takes keyword (element :: parent :: outer) [closing]
        (.inside (parent.push element.toNode :: outer))
  | completes {closing : Value} {root : Element} (hclosing : Matches closing keyword) :
      Takes keyword [root] [closing] (.complete root)

/-- Every row that the reader takes in while an element is open, or opens the
first one with, is taken in one of these four ways. -/
theorem takes_of_step {keyword : Value} {openElements : List Element} {row : Row} {q : Progress}
    (h : Progress.step keyword (.inside openElements) row = .ok q) :
    Takes keyword openElements row.values q := by
  obtain ⟨line, first, others⟩ := row
  cases others with
  | nil =>
      by_cases hcloses : closes keyword first = true
      · have hclosing := closes_iff_matches.1 hcloses
        simp only [Progress.step, if_pos hcloses] at h
        match openElements, h with
        | [root], h =>
            rw [← Except.ok.inj h]
            exact .completes hclosing
        | element :: parent :: outer, h =>
            rw [← Except.ok.inj h]
            exact .closes hclosing
      · simp only [Progress.step, if_neg hcloses] at h
        cases first with
        | none => cases h
        | some name =>
            rw [← Except.ok.inj h]
            exact .opens fun hm => hcloses (closes_iff_matches.2 hm)
  | cons v values =>
      match first, openElements, h with
      | some name, parent :: outer, h =>
          rw [← Except.ok.inj h]
          exact .gives (List.cons_ne_nil v values)

/-- The reader takes in every row in each of the four ways that fits it. -/
theorem step_of_takes {keyword : Value} {openElements : List Element} {row : Row} {q : Progress}
    (h : Takes keyword openElements row.values q) :
    Progress.step keyword (.inside openElements) row = .ok q := by
  obtain ⟨line, first, others⟩ := row
  change Takes keyword openElements (first :: others) q at h
  cases h with
  | @opens name _ hname =>
      have hcloses : ¬ closes keyword (some name) = true := fun h => hname (closes_iff_matches.1 h)
      simp only [Progress.step, if_neg hcloses]
  | gives hvalues =>
      obtain ⟨v, values, rfl⟩ := List.exists_cons_of_ne_nil hvalues
      rfl
  | closes hclosing => simp only [Progress.step, if_pos (closes_iff_matches.2 hclosing)]
  | completes hclosing => simp only [Progress.step, if_pos (closes_iff_matches.2 hclosing)]

/-! ## all rows -/

/-- One unfolding behind another. -/
theorem Unfolds.append {keyword : Value} {xs ys : List Node} {rows more : List (List Value)}
    (hxs : Unfolds keyword xs rows) (hys : Unfolds keyword ys more) :
    Unfolds keyword (xs ++ ys) (rows ++ more) := by
  induction hxs with
  | nil => exact hys
  | attr hvalues _ ih => exact .attr hvalues ih
  | elem hname hnodes hclosing _ _ ih =>
      rw [List.cons_append, List.cons_append, List.append_assoc, List.cons_append]
      exact .elem hname hnodes hclosing ih

/-- The rows of open elements, the innermost first: each has its name and its
nodes so far, and no closing row yet. -/
inductive Opened (keyword : Value) : List Element → List (List Value) → Prop
  | nil : Opened keyword [] []
  | cons {e : Element} {outer : List Element} {before inner : List (List Value)}
      (hname : ¬ Matches (some e.name) keyword) (hnodes : Unfolds keyword e.nodes inner)
      (houter : Opened keyword outer before) :
      Opened keyword (e :: outer) (before ++ [some e.name] :: inner)

/-- The rows that lead to a progress. -/
inductive Reached (keyword : Value) : Progress → List (List Value) → Prop
  | inside {openElements : List Element} {rows : List (List Value)}
      (h : Opened keyword openElements rows) : Reached keyword (.inside openElements) rows
  | complete {root : Element} {closing : Value} {inner : List (List Value)}
      (hname : ¬ Matches (some root.name) keyword) (hnodes : Unfolds keyword root.nodes inner)
      (hclosing : Matches closing keyword) :
      Reached keyword (.complete root) ([some root.name] :: (inner ++ [[closing]]))

/-- One row further, the progress is still reached by the rows taken in. -/
theorem reached_of_takes {keyword : Value} {openElements : List Element}
    {rows : List (List Value)} {values : List Value} {q : Progress}
    (hopen : Opened keyword openElements rows) (h : Takes keyword openElements values q) :
    Reached keyword q (rows ++ [values]) := by
  cases h with
  | opens hname => exact .inside (.cons hname .nil hopen)
  | gives hvalues =>
      cases hopen with
      | cons hname hnodes houter =>
          refine .inside ?_
          rw [List.append_assoc, List.cons_append]
          exact .cons hname (hnodes.append (.attr hvalues .nil)) houter
  | closes hclosing =>
      cases hopen with
      | cons hname hnodes houter =>
          cases houter with
          | @cons _ _ before inner hparent hothers hbelow =>
              refine .inside ?_
              rw [List.append_assoc, List.append_assoc, List.cons_append, List.cons_append]
              exact .cons hparent (hothers.append (.elem hname hnodes hclosing .nil)) hbelow
  | completes hclosing =>
      cases hopen with
      | cons hname hnodes houter =>
          cases houter
          exact .complete hname hnodes hclosing

/-- The progress after a run is reached by the rows taken in before it and
those of the run. -/
theorem reached_of_foldlM {keyword : Value} {rows : List Row} {p q : Progress}
    {before : List (List Value)} (hp : Reached keyword p before)
    (h : rows.foldlM (Progress.step keyword) p = .ok q) :
    Reached keyword q (before ++ rows.map Row.values) := by
  induction rows generalizing p before with
  | nil =>
      rw [List.foldlM_nil] at h
      cases h
      rwa [List.map_nil, List.append_nil]
  | cons row rows ih =>
      rw [List.foldlM_cons] at h
      cases hstep : p.step keyword row with
      | error e =>
          rw [hstep] at h
          cases h
      | ok next =>
          rw [hstep] at h
          cases hp with
          | complete => cases hstep
          | inside hopen =>
              have hnext := ih (reached_of_takes hopen (takes_of_step hstep)) h
              rwa [List.append_assoc] at hnext

/-- The rows of an unfolding give the innermost open element its nodes. -/
theorem foldlM_of_unfolds {keyword : Value} {nodes : List Node} {values : List (List Value)}
    (h : Unfolds keyword nodes values) {rows : List Row} (hrows : rows.map Row.values = values)
    (e : Element) (outer : List Element) :
    rows.foldlM (Progress.step keyword) (.inside (e :: outer)) =
      .ok (.inside (⟨e.name, e.nodes ++ nodes⟩ :: outer)) := by
  induction h generalizing rows e outer with
  | nil =>
      rw [List.map_eq_nil_iff.1 hrows, List.append_nil]
      rfl
  | @attr a more values hvalues _ ih =>
      obtain ⟨row, rest, rfl, hrow, hrest⟩ := List.map_eq_cons_iff.1 hrows
      have hstep : Progress.step keyword (.inside (e :: outer)) row =
          .ok (.inside (e.push (.attr a) :: outer)) :=
        step_of_takes (by rw [hrow]; exact .gives hvalues)
      have hmore := ih hrest (e.push (.attr a)) outer
      rw [Element.nodes_push, List.append_assoc] at hmore
      rw [List.foldlM_cons, hstep, ok_bind]
      exact hmore
  | @elem name nodes more inner values closing hname _ hclosing _ ihnodes ihmore =>
      obtain ⟨row, rest, rfl, hrow, hrest⟩ := List.map_eq_cons_iff.1 hrows
      obtain ⟨innerRows, tail, rfl, hinner, htail⟩ := List.map_eq_append_iff.1 hrest
      obtain ⟨last, moreRows, rfl, hlast, hmoreRows⟩ := List.map_eq_cons_iff.1 htail
      have hopens : Progress.step keyword (.inside (e :: outer)) row =
          .ok (.inside (.empty name :: e :: outer)) :=
        step_of_takes (by rw [hrow]; exact .opens hname)
      have hcloses : Progress.step keyword (.inside (⟨name, nodes⟩ :: e :: outer)) last =
          .ok (.inside (e.push (.elem name nodes) :: outer)) :=
        step_of_takes (by rw [hlast]; exact .closes hclosing)
      have hnodes := ihnodes hinner (.empty name) (e :: outer)
      rw [Element.empty, List.nil_append] at hnodes
      have hmore := ihmore hmoreRows (e.push (.elem name nodes)) outer
      rw [Element.nodes_push, List.append_assoc] at hmore
      rw [List.foldlM_cons, hopens, ok_bind, List.foldlM_append, Element.empty, hnodes, ok_bind,
        List.foldlM_cons, hcloses, ok_bind]
      exact hmore

/-! ## the whole text -/

/-- The end keyword is the only value of the last row. -/
theorem endKeywordOf_concat {row : Row} {keyword : Value} (h : row.values = [keyword])
    (rows : List Row) : endKeywordOf (rows ++ [row]) = .ok keyword := by
  obtain ⟨line, first, others⟩ := row
  obtain ⟨rfl, rfl⟩ := List.cons.inj h
  rw [endKeywordOf, List.getLast?_concat]
  exact if_pos rfl

/-- The value that closes elements stands alone in the last row. -/
theorem getLast?_of_endKeywordOf {rows : List Row} {keyword : Value}
    (h : endKeywordOf rows = .ok keyword) :
    (rows.map Row.values).getLast? = some [keyword] := by
  rw [endKeywordOf] at h
  rw [List.getLast?_map]
  cases hlast : rows.getLast? with
  | none =>
      rw [hlast] at h
      cases h
  | some row =>
      obtain ⟨line, first, others⟩ := row
      rw [hlast] at h
      simp only at h
      split at h
      · next hothers =>
          subst hothers
          rw [← Except.ok.inj h]
          rfl
      · cases h

/-- Rows that the reader makes a document of are an unfolding of it. -/
theorem documentUnfolds_of_foldlM {rows : List Row} {root : Element} {keyword : Value}
    (hkeyword : endKeywordOf rows = .ok keyword)
    (h : rows.foldlM (Progress.step keyword) (.inside []) = .ok (.complete root)) :
    DocumentUnfolds ⟨root, keyword⟩ (rows.map Row.values) := by
  have hlast := getLast?_of_endKeywordOf hkeyword
  have hreached := reached_of_foldlM (.inside .nil) h
  rw [List.nil_append] at hreached
  generalize rows.map Row.values = values at hlast hreached
  cases hreached with
  | @complete _ closing inner hname hnodes hclosing =>
      rw [← List.cons_append, List.getLast?_concat] at hlast
      obtain rfl := List.singleton_inj.1 (Option.some.inj hlast)
      exact .intro hname hnodes

/-- The reader makes of the rows of a document its root element. -/
theorem foldlM_of_documentUnfolds {d : Document} {rows : List Row}
    (h : DocumentUnfolds d (rows.map Row.values)) :
    endKeywordOf rows = .ok d.endKeyword ∧
      rows.foldlM (Progress.step d.endKeyword) (.inside []) = .ok (.complete d.root) := by
  generalize hvalues : rows.map Row.values = values at h
  cases h with
  | @intro root keyword inner hname hnodes =>
      obtain ⟨row, rest, rfl, hrow, hrest⟩ := List.map_eq_cons_iff.1 hvalues
      obtain ⟨innerRows, tail, rfl, hinner, htail⟩ := List.map_eq_append_iff.1 hrest
      obtain ⟨last, none, rfl, hlast, hnone⟩ := List.map_eq_cons_iff.1 htail
      obtain rfl := List.map_eq_nil_iff.1 hnone
      have hopens : Progress.step keyword (.inside []) row =
          .ok (.inside [.empty root.name]) :=
        step_of_takes (by rw [hrow]; exact .opens hname)
      have hcloses : Progress.step keyword (.inside [root]) last = .ok (.complete root) :=
        step_of_takes (by rw [hlast]; exact .completes (closes_iff_matches.1 (closes_self keyword)))
      have hfold := foldlM_of_unfolds hnodes hinner (.empty root.name) []
      refine ⟨?_, ?_⟩
      · rw [← List.cons_append]
        exact endKeywordOf_concat hlast _
      · rw [List.foldlM_cons, hopens, ok_bind, List.foldlM_append, hfold, ok_bind,
          List.foldlM_cons]
        exact congrArg (· >>= _) hcloses

/-- The reader succeeds exactly if all lines can be read, the last row gives an
end keyword, and the rows make up one element. -/
theorem ofChars_eq_ok_iff {text : List Char} {d : Document} :
    ofChars text = .ok d ↔
      ∃ rows, readRows 1 (lines text) = .ok rows ∧ endKeywordOf rows = .ok d.endKeyword ∧
        rows.foldlM (Progress.step d.endKeyword) (.inside []) = .ok (.complete d.root) := by
  simp only [ofChars, bind_eq_ok]
  constructor
  · rintro ⟨rows, hrows, keyword, hkeyword, progress, hfold, root, hroot, hd⟩
    cases hd
    cases progress with
    | complete r =>
        cases hroot
        exact ⟨rows, hrows, hkeyword, hfold⟩
    | inside openElements => cases openElements <;> cases hroot
  · rintro ⟨rows, hrows, hkeyword, hfold⟩
    exact ⟨rows, hrows, d.endKeyword, hkeyword, _, hfold, d.root, rfl, rfl⟩

/-- A text is read as a document exactly if that document can be derived from
it. -/
theorem parse_eq_ok_iff_derives {text : String} {d : Document} :
    parse text = .ok d ↔ Derives text d := by
  rw [parse, ofChars_eq_ok_iff]
  constructor
  · rintro ⟨rows, hrows, hkeyword, hfold⟩
    exact ⟨_, rowsOf_of_readRows hrows, documentUnfolds_of_foldlM hkeyword hfold⟩
  · rintro ⟨values, hvalues, hunfolds⟩
    obtain ⟨rows, hrows, rfl⟩ := exists_readRows_of_rowsOf hvalues 1
    exact ⟨rows, hrows, foldlM_of_documentUnfolds hunfolds⟩

/-- **The reader accepts the grammar**: a text is read as a document exactly if
that document can be derived from it, and no text derives two documents. -/
theorem parse_eq_ok_and_unique (text : String) (d : Document) :
    (parse text = .ok d ↔ Derives text d) ∧
      ∀ d', Derives text d → Derives text d' → d' = d := by
  refine ⟨parse_eq_ok_iff_derives, fun d' hd hd' => ?_⟩
  rw [← parse_eq_ok_iff_derives] at hd hd'
  exact Except.ok.inj (hd'.symm.trans hd)

end UiMarkup.Document
