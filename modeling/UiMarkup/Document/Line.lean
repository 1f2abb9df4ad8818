import UiMarkup.Document.Error
import UiMarkup.Text.Blank

/-!
# UiMarkup.Document.Line

The lines of a text and the values on a line.  Values are separated by white
space; `-` is null, a comment runs from `#` to the end of the line, and a
value between quotes may hold any character: a quote inside it is doubled and
a line feed is written `"/"`.

* `lines` cuts a text at its line feeds, with or without a carriage return;
* `readValues` reads the values of one line;
* `writeValue` is the plain spelling of a value.
-/

namespace UiMarkup.Document

open Text (isBlank)

/-! ## lines -/

/-- The lines of a text.  A line ends at a line feed, and a carriage return
right before the line feed belongs to the line end; what follows the last line
feed is one more line unless it is empty. -/
def lines : List Char → List (List Char)
  | [] => []
  | '\n' :: rest => [] :: lines rest
  | '\r' :: '\n' :: rest => [] :: lines rest
  | c :: rest =>
    match lines rest with
    | [] => [[c]]
    | line :: more => (c :: line) :: more

/-- The empty text has no lines. -/
@[simp] theorem lines_nil : lines [] = [] := by
  simp [lines]

/-! ## the spelling of a value -/

/-- Whether a text is written between quotes: it is empty, or would be read as
null, or holds a character that ends an unquoted value. -/
def needsQuotes (cs : List Char) : Bool :=
  cs = [] || cs = ['-'] || cs.any fun c => isBlank c || c == '"' || c == '#'

/-- One character between quotes. -/
def quotedChar (c : Char) : List Char :=
  if c = '"' then ['"', '"'] else if c = '\n' then ['"', '/', '"'] else [c]

/-- The spelling of a value. -/
def writeValue : Value → List Char
  | none => ['-']
  | some s =>
    if needsQuotes s.toList then '"' :: s.toList.flatMap quotedChar ++ ['"'] else s.toList

/-! ## reading a line -/

/-- The value that an unquoted word stands for. -/
def wordValue (cs : List Char) : Value :=
  if cs = ['-'] then none else some (String.ofList cs)

mutual
/-- The values from a place where one may begin. -/
def readValues : List Char → Except Fault (List Value)
  | [] => .ok []
  | c :: rest =>
    if isBlank c then readValues rest
    else if c = '#' then .ok []
    else if c = '"' then do
      let (cs, values) ← readQuoted rest
      .ok (some (String.ofList cs) :: values)
    else do
      let (cs, values) ← readWord rest
      .ok (wordValue (c :: cs) :: values)

/-- The rest of an unquoted value, and the values behind it. -/
def readWord : List Char → Except Fault (List Char × List Value)
  | [] => .ok ([], [])
  | c :: rest =>
    if isBlank c then do
      let values ← readValues rest
      .ok ([], values)
    else if c = '#' then .ok ([], [])
    else if c = '"' then .error .quoteInValue
    else do
      let (cs, values) ← readWord rest
      .ok (c :: cs, values)

/-- The rest of a quoted value up to the closing quote, and the values behind
it. -/
def readQuoted : List Char → Except Fault (List Char × List Value)
  | [] => .error .stringNotClosed
  | ['"'] => .ok ([], [])
  | '"' :: '"' :: rest => do
    let (cs, values) ← readQuoted rest
    .ok ('"' :: cs, values)
  | '"' :: '/' :: '"' :: rest => do
    let (cs, values) ← readQuoted rest
    .ok ('\n' :: cs, values)
  | '"' :: '/' :: _ => .error .brokenLineBreak
  | '"' :: c :: rest =>
    if isBlank c then do
      let values ← readValues rest
      .ok ([], values)
    else if c = '#' then .ok ([], [])
    else .error .textAfterString
  | c :: rest => do
    let (cs, values) ← readQuoted rest
    .ok (c :: cs, values)
end

end UiMarkup.Document
