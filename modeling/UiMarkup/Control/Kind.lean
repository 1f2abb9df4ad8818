/-!
# UiMarkup.Control.Kind

The kinds of controls.  Their names are the names of the elements that
describe them.
-/

namespace UiMarkup

/-- The kinds of controls. -/
inductive ControlKind where
  | linearLayout
  | gridLayout
  | tabControl
  | menuBar
  | button
  | checkBox
  | textBox
  | label
  | nothing
  deriving DecidableEq, Inhabited

namespace ControlKind

/-- All kinds. -/
def all : List ControlKind :=
  [.linearLayout, .gridLayout, .tabControl, .menuBar, .button, .checkBox, .textBox, .label,
    .nothing]

/-- The name of a kind. -/
def name : ControlKind → String
  | .linearLayout => "LinearLayout"
  | .gridLayout => "GridLayout"
  | .tabControl => "TabControl"
  | .menuBar => "MenuBar"
  | .button => "Button"
  | .checkBox => "CheckBox"
  | .textBox => "TextBox"
  | .label => "Label"
  | .nothing => "Nothing"

/-- The kind of a name. -/
def ofName? (name : String) : Option ControlKind :=
  all.find? (·.name == name)

/-- Every kind is the kind of its name. -/
@[simp] theorem ofName?_name (k : ControlKind) : ofName? k.name = some k := by
  cases k <;> decide

/-- A name that has a kind is the name of that kind. -/
theorem name_of_ofName? {n : String} {k : ControlKind} (h : ofName? n = some k) : k.name = n := by
  simpa using List.find?_some h

/-- Whether controls of a kind may have a margin. -/
def hasMargin : ControlKind → Bool
  | .linearLayout | .button | .checkBox => true
  | _ => false

end ControlKind

end UiMarkup
