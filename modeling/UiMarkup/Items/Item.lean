import UiMarkup.Items.Kind
import UiMarkup.Observer.Property

/-!
# UiMarkup.Items.Item

Items: a name with a title and a hint, and by kind a value that is observed
or an action.  `ω` is the type of observers and actions, and `S` the storage in
which a signal keeps its observers.
-/

namespace UiMarkup

namespace Items

open Observer (Observed Signal Storage)

/-- What every item has: a name, and perhaps a title and a hint. -/
structure Info where
  name : String
  title : Option String
  hint : Option String
  deriving DecidableEq, Inhabited

/-- The info of a new item. -/
def Info.ofName (name : String) : Info := ⟨name, none, none⟩

/-- What an item has by its kind.  A choice is a place among the options; it
is not limited to the places that exist. -/
inductive Content (S ω : Type) where
  | plain
  | command (action : Option ω)
  | text (state : Observed String S)
  | flag (state : Observed Bool S)
  | choice (state : Observed UInt64 S) (options : List Info)

namespace Content

/-- The kind of an item with this content. -/
def kind : Content S ω → Kind
  | .plain => .plain
  | .command _ => .command
  | .text _ => .text
  | .flag _ => .flag
  | .choice _ _ => .choice

/-- The content of a new item of a kind. -/
def ofKind [Storage S ω] : Kind → Content S ω
  | .plain => .plain
  | .command => .command none
  | .text => .text (.ofValue "")
  | .flag => .flag (.ofValue false)
  | .choice => .choice (.ofValue 0) []

/-- A new item has the kind that it is made for. -/
@[simp] theorem kind_ofKind [Storage S ω] (k : Kind) : (ofKind k : Content S ω).kind = k := by
  cases k <;> rfl

/-- The signal of the changes, for an item with a value. -/
def changed? : Content S ω → Option (Signal S)
  | .text state => some state.changed
  | .flag state => some state.changed
  | .choice state _ => some state.changed
  | .plain | .command _ => none

/-- The content with another signal of the changes. -/
def setChanged (s : Signal S) : Content S ω → Content S ω
  | .text state => .text { state with changed := s }
  | .flag state => .flag { state with changed := s }
  | .choice state options => .choice { state with changed := s } options
  | content => content

/-- Another signal does not change the kind. -/
@[simp] theorem kind_setChanged (s : Signal S) (c : Content S ω) :
    (c.setChanged s).kind = c.kind := by
  cases c <;> rfl

end Content

end Items

/-- An item. -/
structure Item (S ω : Type) where
  info : Items.Info
  content : Items.Content S ω

namespace Item

open Items

/-- A new item of a kind. -/
def ofKind [Observer.Storage S ω] (kind : Kind) (name : String) : Item S ω :=
  ⟨.ofName name, .ofKind kind⟩

/-- The kind of an item. -/
def kind (i : Item S ω) : Kind :=
  i.content.kind

/-- The name of an item. -/
def name (i : Item S ω) : String :=
  i.info.name

/-- The item with another title, or none. -/
def setTitle (title : Option String) (i : Item S ω) : Item S ω :=
  { i with info := { i.info with title } }

/-- The item with another hint, or none. -/
def setHint (hint : Option String) (i : Item S ω) : Item S ω :=
  { i with info := { i.info with hint } }

/-- The item with one more option, if it is a choice. -/
def addOption? (option : Info) (i : Item S ω) : Option (Item S ω) :=
  match i.content with
  | .choice state options => some { i with content := .choice state (options ++ [option]) }
  | _ => none

/-- The option in the chosen place, if the item is a choice and there is one. -/
def selected? (i : Item S ω) : Option Info :=
  match i.content with
  | .choice state options => options[state.value.toNat]?
  | _ => none

end Item

end UiMarkup
