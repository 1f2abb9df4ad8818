import UiMarkup.Document.Error
import UiMarkup.Items.Kind

/-!
# UiMarkup.Items.Error

What can be wrong with the declaration, the dialect or the use of items.
-/

namespace UiMarkup.Items

/-- The kinds of what stands at a path: an item of a kind, or a group. -/
inductive EntryKind where
  | item (kind : Kind)
  | group
  deriving DecidableEq

/-- The name of a kind of entry in messages. -/
def EntryKind.name : EntryKind → String
  | .item kind => kind.name
  | .group => "group"

/-- What is looked for at a path. -/
inductive Sought where
  | anyItem
  | only (kind : Kind)
  | group
  deriving DecidableEq

/-- The name of what is looked for in messages. -/
def Sought.name : Sought → String
  | .anyItem => "item"
  | .only kind => kind.name
  | .group => "group"

/-- The faults of a dialect. -/
inductive DialectFault where
  /-- The text of the options is malformed, or an option has a value of the
  wrong type. -/
  | unreadable
  | emptySeparator
  | separatorHoldsPoint
  deriving DecidableEq

/-- The wording of a fault of a dialect. -/
def DialectFault.message : DialectFault → String
  | .unreadable => "the text is not a table of options"
  | .emptySeparator => "sub_item_separator must not be empty"
  | .separatorHoldsPoint => "sub_item_separator must not contain the path separator '.'"

/-- What is wrong with items. -/
inductive Error where
  /-- The document is malformed, or does not have the form of a document of
  items. -/
  | document (e : Document.Error)
  /-- The name of an item or a group is no name. -/
  | invalidName (name : String)
  /-- The item is declared by a tag that is none. -/
  | unsupportedType (name tag : String)
  /-- The option does not follow an item with options. -/
  | orphanOption (option : String)
  /-- The group has an entry of the same name. -/
  | duplicateName (group name : String)
  /-- There is nothing at the path. -/
  | missingPath (sought : Sought) (path : String)
  /-- There is something else at the path. -/
  | wrongKind (sought : Sought) (found : EntryKind) (path : String)
  /-- The command has no action. -/
  | unboundCommand (name : String)
  /-- The file cannot be read as a text. -/
  | unreadableFile
  /-- The dialect is at fault. -/
  | dialect (fault : DialectFault)
  deriving DecidableEq

namespace Error

/-- Whether the error is that of looking up a path. -/
def isLookup : Error → Bool
  | .missingPath _ _ | .wrongKind _ _ _ => true
  | _ => false

/-- The wording of an error. -/
def message : Error → String
  | .document e => e.message
  | .invalidName name => s!"\"{name}\" is not a valid name"
  | .unsupportedType name tag => s!"Item \"{name}\" has unsupported type \"{tag}\""
  | .orphanOption option =>
    s!"Syntax error: enum option \"{option}\" does not follow an enum item"
  | .duplicateName group name =>
    s!"Group \"{group}\" already contains an item with name \"{name}\""
  | .missingPath sought path =>
    let kind := sought.name
    s!"Does not contain a {kind} with path \"{path}\""
  | .wrongKind sought found path =>
    let kind := sought.name
    let other := found.name
    s!"Does not contain a {kind} with path \"{path}\" (found {other})"
  | .unboundCommand name => s!"Command \"{name}\" is not bound"
  | .unreadableFile => "Failed to read items file"
  | .dialect fault =>
    let text := fault.message
    s!"Invalid loader options: {text}"

end Error

end UiMarkup.Items
