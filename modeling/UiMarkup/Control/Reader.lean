import UiMarkup.Control.Basic
import UiMarkup.Control.Error
import UiMarkup.Document.Value
import UiMarkup.Document.Reader

/-!
# UiMarkup.Control.Reader

From a document to a control.  Every kind of control says which attributes and
which elements its element may have, and how many of each; an element that
deviates fails as a whole.

* `Control.ofElement` reads a tree;
* `Control.parse` reads a text.
-/

namespace UiMarkup.Control

open Number (Binary64)

/-! ## parts without controls -/

/-- Reads the attribute of a name, if there is one. -/
def readOptional (e : Element) (name : String)
    (read : Attribute → Except Document.Error α) : Except Document.Error (Option α) := do
  match ← e.optionalAttribute name with
  | none => .ok none
  | some a => do
    let x ← read a
    .ok (some x)

/-- The only text of the attribute of a name, if there is one. -/
def optionalText (e : Element) (name : String) : Except Document.Error (Option String) :=
  readOptional e name Attribute.onlyText

/-- One side of a margin; nothing said is zero. -/
def readSide (e : Element) (name : String) : Except Document.Error Binary64 := do
  let side ← readOptional e name Attribute.onlyFloat
  .ok (side.getD Binary64.zero)

/-- The margin that an element gives in a child element, if there is one. -/
def readMargin (e : Element) : Except Document.Error (Option Margin) := do
  match ← e.optionalElement "Margin" with
  | none => .ok none
  | some margin => do
    margin.requireAttributeNames ["Left", "Top", "Right", "Bottom"]
    margin.requireNoElements
    let left ← readSide margin "Left"
    let top ← readSide margin "Top"
    let right ← readSide margin "Right"
    let bottom ← readSide margin "Bottom"
    .ok (some ⟨left, top, right, bottom⟩)

/-- A number of cells, at least `least`. -/
def readCells (a : Attribute) (index : UInt64) (least : Int) (expected : Document.Expected) :
    Except Document.Error UInt32 := do
  let n ← a.integerAt index
  if n < least ∨ UInt32.size ≤ n then .error (a.invalid index expected)
  else .ok (UInt32.ofNat n.toNat)

/-- The columns or rows of a child of a grid: the first one, and perhaps their
number. -/
def readSpan (a : Attribute) : Except Document.Error Span := do
  a.requireCountBetween 1 2
  let index ← readCells a 0 0 .nonNegative
  let span ← if a.values.length = 2 then readCells a 1 1 .positive else .ok 1
  if (Span.mk index span).stop?.isNone then .error (a.invalid 0 .indexBeforeSpan)
  else .ok ⟨index, span⟩

/-- The orientation of a linear layout. -/
def readOrientation (e : Element) : Except Document.Error Orientation := do
  let index ← readOptional e "Direction" (·.onlyChoice Orientation.names)
  .ok ((index.bind Orientation.ofIndex?).getD .horizontal)

/-! ## controls without controls inside -/

/-- The entries that the attributes of a menu declare, in order. -/
def readEntries : List Attribute → Except Document.Error (List MenuEntry)
  | [] => .ok []
  | a :: more =>
    let entry? : Option (String → MenuEntry) :=
      if a.name = "Command" then some .command
      else if a.name = "CheckItem" then some .check
      else if a.name = "Enum" then some .choice
      else none
    match entry? with
    | none => readEntries more
    | some entry => do
      let path ← a.onlyText
      let entries ← readEntries more
      .ok (entry path :: entries)

/-- A menu. -/
def readMenu (e : Element) : Except Document.Error Menu := do
  e.requireAttributeNames ["Item", "Command", "CheckItem", "Enum"]
  e.requireNoElements
  let title ← optionalText e "Item"
  let entries ← readEntries e.attributes
  .ok ⟨title, entries⟩

/-- A menu bar. -/
def readMenuBar (e : Element) : Except Document.Error Control := do
  e.requireNoAttributes
  e.requireElementNames ["DropDownMenu"]
  let menus ← (e.elementsNamed "DropDownMenu").mapM readMenu
  .ok (.menuBar menus)

/-- A button. -/
def readButton (e : Element) : Except Document.Error Control := do
  e.requireAttributeNames ["Command"]
  e.requireElementNames ["Margin"]
  let command ← optionalText e "Command"
  let margin ← readMargin e
  .ok (.button command margin)

/-- A check box. -/
def readCheckBox (e : Element) : Except Document.Error Control := do
  e.requireNoAttributes
  e.requireElementNames ["Margin"]
  let margin ← readMargin e
  .ok (.checkBox margin)

/-- A text box. -/
def readTextBox (e : Element) : Except Document.Error Control := do
  e.requireAttributeNames ["MultiLine", "Item"]
  e.requireNoElements
  let multiLine ← readOptional e "MultiLine" Attribute.onlyFlag
  let item ← optionalText e "Item"
  .ok (.textBox (multiLine.getD false) item)

/-- A label. -/
def readLabel (e : Element) : Except Document.Error Control := do
  e.requireNoElements
  e.requireAttributeNames ["Item"]
  let item ← optionalText e "Item"
  .ok (.label item)

/-- A placeholder. -/
def readNothing (e : Element) : Except Document.Error Control := do
  e.requireNoAttributes
  e.requireNoElements
  .ok .nothing

/-! ## controls with controls inside -/

/-- A document error as an error of controls. -/
def liftDocument : Except Document.Error α → Except Error α :=
  Except.mapError .document

/-- The demands on the element of a linear layout. -/
def requireLinearLayout (e : Element) : Except Document.Error Unit := do
  e.requireAttributeNames ["Direction"]
  e.requireElementNames ["Child", "Margin"]

/-- The demands on the element of a grid. -/
def requireGridLayout (e : Element) : Except Document.Error Unit := do
  e.requireNoAttributes
  e.requireElementNames ["Child"]

/-- The demands on the element of a tab control. -/
def requireTabControl (e : Element) : Except Document.Error Unit := do
  e.requireNoAttributes
  e.requireElementNames ["Tab"]

/-- The demands on the element of a child of a linear layout. -/
def requireLinearChild (e : Element) : Except Document.Error Unit := do
  e.requireAttributeNames ["Weight"]
  e.requireElementCount 1

/-- The demands on the element of a child of a grid. -/
def requireGridChild (e : Element) : Except Document.Error Unit := do
  e.requireAttributeNames ["Column", "Row"]
  e.requireElementCount 1

/-- The columns and rows of a child of a grid. -/
def readPlacement (e : Element) : Except Document.Error (Span × Span) := do
  let column ← e.requiredAttribute "Column"
  let column ← readSpan column
  let row ← e.requiredAttribute "Row"
  let row ← readSpan row
  .ok (column, row)

/-- The demands on the element of a tab, which holds at most one content. -/
def requireTab (e : Element) : Except Document.Error Unit := do
  e.requireAttributeNames ["Title"]
  e.requireElementNames ["Content"]
  discard (e.optionalElement "Content")

/-- The demands on the element of the content of a tab. -/
def requireContent (e : Element) : Except Document.Error Unit := do
  e.requireNoAttributes
  e.requireElementCount 1

mutual
/-- The control that an element describes; an attribute describes none. -/
def ofNode : Node → Except Error Control
  | .attr a => .error (.unsupportedElement a.name)
  | .elem name nodes =>
    let e : Element := ⟨name, nodes⟩
    match ControlKind.ofName? name with
    | none => .error (.unsupportedElement name)
    | some .linearLayout => do
      liftDocument (requireLinearLayout e)
      let orientation ← liftDocument (readOrientation e)
      let children ← linearChildren nodes
      let margin ← liftDocument (readMargin e)
      .ok (.linearLayout orientation children margin)
    | some .gridLayout => do
      liftDocument (requireGridLayout e)
      let children ← gridChildren nodes
      .ok (.gridLayout children)
    | some .tabControl => do
      liftDocument (requireTabControl e)
      let tabs ← tabsOf nodes
      .ok (.tabControl tabs)
    | some .menuBar => liftDocument (readMenuBar e)
    | some .button => liftDocument (readButton e)
    | some .checkBox => liftDocument (readCheckBox e)
    | some .textBox => liftDocument (readTextBox e)
    | some .label => liftDocument (readLabel e)
    | some .nothing => liftDocument (readNothing e)

/-- The control of the first element among nodes; `slot` is the element that
they are in. -/
def firstControl (slot : String) : List Node → Except Error Control
  | [] => .error (.document (.elementCount slot 1 0))
  | .attr _ :: more => firstControl slot more
  | .elem name nodes :: _ => ofNode (.elem name nodes)

/-- The children of a linear layout: its child elements named `Child`. -/
def linearChildren : List Node → Except Error (List (LinearChild Control))
  | [] => .ok []
  | .attr _ :: more => linearChildren more
  | .elem name nodes :: more =>
    if name = "Child" then do
      let e : Element := ⟨name, nodes⟩
      liftDocument (requireLinearChild e)
      let control ← firstControl name nodes
      let weight ← liftDocument (readOptional e "Weight" Attribute.onlyFloat)
      let children ← linearChildren more
      .ok (⟨control, weight⟩ :: children)
    else linearChildren more

/-- The children of a grid: its child elements named `Child`. -/
def gridChildren : List Node → Except Error (List (GridChild Control))
  | [] => .ok []
  | .attr _ :: more => gridChildren more
  | .elem name nodes :: more =>
    if name = "Child" then do
      let e : Element := ⟨name, nodes⟩
      liftDocument (requireGridChild e)
      let control ← firstControl name nodes
      let (column, row) ← liftDocument (readPlacement e)
      let children ← gridChildren more
      .ok (⟨control, column, row⟩ :: children)
    else gridChildren more

/-- The tabs of a tab control: its child elements named `Tab`. -/
def tabsOf : List Node → Except Error (List (Tab Control))
  | [] => .ok []
  | .attr _ :: more => tabsOf more
  | .elem name nodes :: more =>
    if name = "Tab" then do
      let e : Element := ⟨name, nodes⟩
      liftDocument (requireTab e)
      let content ← contentOf nodes
      let title ← liftDocument (optionalText e "Title")
      let tabs ← tabsOf more
      .ok (⟨title, content⟩ :: tabs)
    else tabsOf more

/-- The control in the first element named `Content`, if there is one. -/
def contentOf : List Node → Except Error (Option Control)
  | [] => .ok none
  | .attr _ :: more => contentOf more
  | .elem name nodes :: more =>
    if name = "Content" then do
      liftDocument (requireContent ⟨name, nodes⟩)
      let control ← firstControl name nodes
      .ok (some control)
    else contentOf more
end

/-- The control that an element describes. -/
def ofElement (e : Element) : Except Error Control :=
  ofNode e.toNode

/-- The control that a text describes. -/
def parse (text : String) : Except Error Control := do
  let d ← liftDocument (Document.parse text)
  ofElement d.root

end UiMarkup.Control
