import UiMarkup.Control.Reader
import UiMarkup.Items.Declaration

/-!
# UiMarkup.Screen

A screen of a program: a control together with the items that it refers to.
-/

namespace UiMarkup.Screen

/-- What can be wrong with a screen and its items. -/
inductive Error where
  | document (e : Document.Error)
  | items (e : Items.Error)
  | control (e : Control.Error)
  deriving DecidableEq

/-- The wording of an error. -/
def Error.message : Error → String
  | .document e => e.message
  | .items e => e.message
  | .control e => e.message

/-- The item that a control refers to by a path. -/
def resolve (s : Items S ω) (path : String) : Except Error (Item S ω) :=
  (s.item path).mapError .items

/-- The items that a control refers to, in order; the first path that leads to
none is the error. -/
def resolveAll (s : Items S ω) (c : Control) : Except Error (List (Item S ω)) :=
  c.itemPaths.mapM (resolve s)

end UiMarkup.Screen
