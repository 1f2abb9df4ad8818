import UiMarkup.Document.Line
import UiMarkup.Text.AsciiCase

/-!
# UiMarkup.Document.Reader

From a text to its tree.  A line with one value opens an element of that name,
or closes the innermost open one if the value matches the end keyword; a line
with more values is an attribute of the innermost open element.  The end
keyword is not fixed: it is what the last line with values holds.

* `Document.parse` reads a whole text;
* `Progress.step` takes in one line.
-/

namespace UiMarkup.Document

/-! ## rows: the lines with values -/

/-- A line that holds at least one value: its number, its first value and the
others. -/
structure Row where
  line : Nat
  first : Value
  others : List Value
  deriving DecidableEq

/-- Reads the values of lines numbered from `number` on and keeps the lines
that hold any.  The first line that cannot be read decides the error. -/
def readRows (number : Nat) : List (List Char) → Except Error (List Row)
  | [] => .ok []
  | line :: more =>
    match readValues line with
    | .error fault => .error (.malformed number fault)
    | .ok values => do
      let rows ← readRows (number + 1) more
      match values with
      | [] => .ok rows
      | first :: others => .ok (⟨number, first, others⟩ :: rows)

/-- The value that closes elements: the only value of the last row. -/
def endKeywordOf (rows : List Row) : Except Error Value :=
  match rows.getLast? with
  | none => .error (.malformed 1 .noRootElement)
  | some row =>
    if row.others = [] then .ok row.first else .error (.malformed row.line .endKeywordLine)

/-- Whether a value closes an element: it is the end keyword, but for the case
of the letters `A` to `Z`. -/
def closes (endKeyword : Value) : Value → Bool
  | none => endKeyword.isNone
  | some s => endKeyword.any (Text.sameKeyword s)

/-- The end keyword closes elements. -/
@[simp] theorem closes_self (keyword : Value) : closes keyword keyword = true := by
  cases keyword <;> simp [closes]

/-! ## the tree, row by row -/

/-- How far the tree has grown: some elements are open, the innermost first,
or the root element is complete. -/
inductive Progress where
  | inside (openElements : List Element)
  | complete (root : Element)

/-- Takes in one row. -/
def Progress.step (endKeyword : Value) (progress : Progress) (row : Row) :
    Except Error Progress :=
  match progress with
  | .complete _ => .error (.malformed row.line .afterRoot)
  | .inside openElements =>
    match row.others with
    | [] =>
      if closes endKeyword row.first then
        match openElements with
        | [] => .error (.malformed row.line .unexpectedEndKeyword)
        | [root] => .ok (.complete root)
        | element :: parent :: outer => .ok (.inside (parent.push element.toNode :: outer))
      else
        match row.first with
        | none => .error (.malformed row.line .nullElementName)
        | some name => .ok (.inside (.empty name :: openElements))
    | values =>
      match row.first, openElements with
      | none, _ => .error (.malformed row.line .nullAttributeName)
      | some _, [] => .error (.malformed row.line .attributeOutside)
      | some name, parent :: outer =>
        .ok (.inside (parent.push (.attr ⟨name, values⟩) :: outer))

/-- The root element that a document of `lineCount` lines has grown. -/
def Progress.root (lineCount : Nat) : Progress → Except Error Element
  | .complete root => .ok root
  | .inside (element :: _) =>
    .error (.malformed (max 1 lineCount) (.elementNotClosed element.name))
  | .inside [] => .error (.malformed 1 .noRootElement)

/-- Reads a document from the characters of its text. -/
def ofChars (text : List Char) : Except Error Document := do
  let rows ← readRows 1 (lines text)
  let endKeyword ← endKeywordOf rows
  let progress ← rows.foldlM (Progress.step endKeyword) (.inside [])
  let root ← progress.root (lines text).length
  .ok ⟨root, endKeyword⟩

/-- Reads a document from its text. -/
def parse (text : String) : Except Error Document :=
  ofChars text.toList

end UiMarkup.Document
