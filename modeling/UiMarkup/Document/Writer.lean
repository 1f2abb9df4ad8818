import UiMarkup.Document.Line

/-!
# UiMarkup.Document.Writer

From a tree to a text.  The tree unfolds into rows of values: an attribute is
one row, an element is a row with its name, the rows of its nodes and a row
with the end keyword.  A row is written as a line, indented by one tab for
every element around it.
-/

namespace UiMarkup.Document

/-! ## unfolding -/

mutual
/-- The rows of a node that stands inside `depth` elements, each with its own
depth. -/
def nodeRows (endKeyword : Value) (depth : Nat) : Node → List (Nat × List Value)
  | .attr a => [(depth, some a.name :: a.values)]
  | .elem name nodes =>
    (depth, [some name]) :: (nodesRows endKeyword (depth + 1) nodes ++ [(depth, [endKeyword])])

/-- The rows of nodes that stand one after the other. -/
def nodesRows (endKeyword : Value) (depth : Nat) : List Node → List (Nat × List Value)
  | [] => []
  | x :: more => nodeRows endKeyword depth x ++ nodesRows endKeyword depth more
end

/-! ## text -/

/-- The values of a row with a space between each two. -/
def writeValues : List Value → List Char
  | [] => []
  | [v] => writeValue v
  | v :: more => writeValue v ++ ' ' :: writeValues more

/-- The line of a row. -/
def writeRow (row : Nat × List Value) : List Char :=
  List.replicate row.1 '\t' ++ writeValues row.2 ++ ['\n']

/-- The characters of the text of a document. -/
def toChars (d : Document) : List Char :=
  (nodeRows d.endKeyword 0 d.root.toNode).flatMap writeRow

/-- The text of a document. -/
def render (d : Document) : String :=
  String.ofList d.toChars

end UiMarkup.Document
