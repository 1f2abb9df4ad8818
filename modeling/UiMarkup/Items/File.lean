import UiMarkup.Items.Declaration

/-!
# UiMarkup.Items.File

Items and dialects from the content of a file.  A file that is missing or is
not text in UTF-8 cannot be read.
-/

namespace UiMarkup.Items

/-- The text of a file; there is no content if the file is missing. -/
def textOfFile (content : Option ByteArray) : Except Error String :=
  match content.bind String.fromUTF8? with
  | some text => .ok text
  | none => .error .unreadableFile

/-- The store that a file declares, in the standard dialect. -/
def ofFile [Observer.Storage S ω] (content : Option ByteArray) : Except Error (Items S ω) := do
  let text ← textOfFile content
  parse text

/-- The dialect that a file gives. -/
def Dialect.ofFile (content : Option ByteArray) : Except Error Dialect := do
  let text ← textOfFile content
  ofToml text

end UiMarkup.Items
