import UiMarkup.Control.Kind
import UiMarkup.Document.Error

/-!
# UiMarkup.Control.Error

What can be wrong with the description of controls, and with changes of a
control that is shown.
-/

namespace UiMarkup.Control

/-- The kinds of what can be appended to a control. -/
inductive SlotKind where
  | linearChild
  | gridChild
  | tab
  | menu
  deriving DecidableEq

/-- The name of a kind of slot in messages. -/
def SlotKind.name : SlotKind → String
  | .linearChild => "linear layout child"
  | .gridChild => "grid layout child"
  | .tab => "tab"
  | .menu => "drop-down menu"

/-- Why a change of a control is refused. -/
inductive Refusal where
  /-- It is to be shown and is shown already. -/
  | alreadyAttached
  /-- Something is to be appended while it is shown. -/
  | appendWhileAttached (slot : SlotKind)
  /-- It is not made to hold what is to be appended. -/
  | wrongSlot (slot : SlotKind)
  /-- It is to be handed out while it is shown. -/
  | stillAttached
  deriving DecidableEq

/-- The wording of a refusal. -/
def Refusal.message : Refusal → String
  | .alreadyAttached => "instance is already attached"
  | .appendWhileAttached slot =>
    let name := slot.name
    s!"cannot add a {name} after the control is attached"
  | .wrongSlot slot =>
    let name := slot.name
    s!"does not accept a {name}"
  | .stillAttached => "instance must be detached first"

/-- What is wrong with a control. -/
inductive Error where
  /-- The description is malformed or does not have the form that its control
  demands. -/
  | document (e : Document.Error)
  /-- An element in the place of a control has the name of none. -/
  | unsupportedElement (name : String)
  /-- A change of a control is refused. -/
  | unsupportedMutation (kind : ControlKind) (refusal : Refusal)
  /-- The platform cannot show a control. -/
  | rendering (message : String)
  deriving DecidableEq

/-- The wording of an error. -/
def Error.message : Error → String
  | .document e => e.message
  | .unsupportedElement name => s!"Not supported element \"{name}\""
  | .unsupportedMutation kind refusal =>
    let control := kind.name
    let text := refusal.message
    s!"Unsupported mutation of {control}: {text}"
  | .rendering text => s!"Render adapter error: {text}"

end UiMarkup.Control
