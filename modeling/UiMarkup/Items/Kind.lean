/-!
# UiMarkup.Items.Kind

The kinds of items and the tags that documents declare them by.
-/

namespace UiMarkup.Items

/-- The kinds of items. -/
inductive Kind where
  /-- Without a value. -/
  | plain
  /-- An action that the program binds. -/
  | command
  /-- A text. -/
  | text
  /-- A boolean. -/
  | flag
  /-- One of some options. -/
  | choice
  deriving DecidableEq, Inhabited

namespace Kind

/-- All kinds. -/
def all : List Kind := [.plain, .command, .text, .flag, .choice]

/-- The tag that declares an item of a kind. -/
def tag : Kind → String
  | .plain => "Item"
  | .command => "Command"
  | .text => "String"
  | .flag => "Bool"
  | .choice => "Enum"

/-- The name of a kind in messages. -/
def name : Kind → String
  | .plain => "item"
  | .command => "command"
  | .text => "string"
  | .flag => "bool"
  | .choice => "enum"

/-- The kind that a tag declares. -/
def ofTag? (tag : String) : Option Kind :=
  all.find? (·.tag == tag)

/-- Every kind is declared by its tag. -/
@[simp] theorem ofTag?_tag (k : Kind) : ofTag? k.tag = some k := by
  cases k <;> decide

/-- A tag declares no kind but the one it is the tag of. -/
theorem ofTag?_eq_some {tag : String} {k : Kind} (h : ofTag? tag = some k) : k.tag = tag := by
  simpa using List.find?_some h

end Kind

end UiMarkup.Items
