import UiMarkup.Control.Basic
import UiMarkup.Document.Lookup
import UiMarkup.Proofs.Document.Values

/-!
# UiMarkup.Proofs.Control.Schema

The schema of controls: which elements describe a control, and which control
that is.  The schema is closed: a node that it does not name may not stand in
an element.  It says nothing about the order in which an element is read.

A part of the schema that other controls may stand in takes the meaning of
those as a parameter, so that one layer of the schema (`Layer`) is said without
recursion:

* `Describes` is the schema, layer upon layer.
-/

namespace UiMarkup

open Number (Binary64)

/-! ## values -/

namespace Attribute

/-- The attribute has one value, the name of this orientation. -/
def HasOrientation (a : Attribute) (o : Orientation) : Prop :=
  a.HasText o.name

/-- The attribute has one or two values, whole numbers that are the first of
these cells and their number, which is one if nothing is said and never zero.
The cell behind the last one is within the limit. -/
def HasSpan (a : Attribute) (s : Span) : Prop :=
  ((∃ index, a.values = [some index] ∧
      Number.readInteger? index = some (s.index.toNat : Int) ∧ s.span = 1) ∨
    ∃ index span, a.values = [some index, some span] ∧
      Number.readInteger? index = some (s.index.toNat : Int) ∧
      Number.readInteger? span = some (s.span.toNat : Int) ∧ 1 ≤ s.span.toNat) ∧
  s.index.toNat + s.span.toNat ≤ Span.limit.toNat

end Attribute

namespace Control

/-! ## how many -/

variable {α β : Type}

/-- At most one thing was found, and what was found means this. -/
inductive AtMostOne (means : α → β → Prop) : List α → Option β → Prop
  | none : AtMostOne means [] none
  | one {a : α} {b : β} (h : means a b) : AtMostOne means [a] (some b)

/-- At most one thing was found; it means this, or else this is the default. -/
def OrDefault (means : α → β → Prop) (default : β) (found : List α) (b : β) : Prop :=
  ∃ meant, AtMostOne means found meant ∧ meant.getD default = b

/-- Exactly one thing was found, and it means this. -/
inductive ExactlyOne (means : α → β → Prop) : List α → β → Prop
  | one {a : α} {b : β} (h : means a b) : ExactlyOne means [a] b

/-! ## parts without controls -/

/-- The element gives this margin. -/
structure DescribesMargin (e : Element) (t : Margin) : Prop where
  attributes : ∀ a ∈ e.attributes, a.name ∈ ["Left", "Top", "Right", "Bottom"]
  elements : e.elements = []
  left : OrDefault Attribute.HasFloat .zero (e.attributes.filter (·.name = "Left")) t.left
  top : OrDefault Attribute.HasFloat .zero (e.attributes.filter (·.name = "Top")) t.top
  right : OrDefault Attribute.HasFloat .zero (e.attributes.filter (·.name = "Right")) t.right
  bottom : OrDefault Attribute.HasFloat .zero (e.attributes.filter (·.name = "Bottom")) t.bottom

/-- The name of the attributes that declare an entry. -/
def entryTag : MenuEntry → String
  | .command _ => "Command"
  | .check _ => "CheckItem"
  | .choice _ => "Enum"

/-- The attribute declares this entry of a menu. -/
def DescribesEntry (a : Attribute) (entry : MenuEntry) : Prop :=
  a.name = entryTag entry ∧ a.HasText entry.path

/-- The element describes this menu: every attribute but the title declares an
entry, in order. -/
structure DescribesMenu (e : Element) (m : Menu) : Prop where
  attributes : ∀ a ∈ e.attributes, a.name ∈ ["Item", "Command", "CheckItem", "Enum"]
  elements : e.elements = []
  title : AtMostOne Attribute.HasText (e.attributes.filter (·.name = "Item")) m.title
  entries : List.Forall₂ DescribesEntry (e.attributes.filter (·.name ≠ "Item")) m.entries

/-! ## parts with controls -/

/-- The element describes this child of a linear layout. -/
inductive DescribesLinearChild (inner : Element → Control → Prop) :
    Element → LinearChild Control → Prop
  | mk {child : LinearChild Control} {slot : Element}
      (attributes : ∀ a ∈ slot.attributes, a.name = "Weight")
      (weight : AtMostOne Attribute.HasFloat (slot.attributes.filter (·.name = "Weight"))
        child.weight)
      (control : ExactlyOne inner slot.elements child.control) :
      DescribesLinearChild inner slot child

/-- The element describes this child of a grid. -/
inductive DescribesGridChild (inner : Element → Control → Prop) :
    Element → GridChild Control → Prop
  | mk {child : GridChild Control} {slot : Element}
      (attributes : ∀ a ∈ slot.attributes, a.name ∈ ["Column", "Row"])
      (column : ExactlyOne Attribute.HasSpan (slot.attributes.filter (·.name = "Column"))
        child.column)
      (row : ExactlyOne Attribute.HasSpan (slot.attributes.filter (·.name = "Row")) child.row)
      (control : ExactlyOne inner slot.elements child.control) :
      DescribesGridChild inner slot child

/-- The element holds this content of a tab. -/
inductive DescribesContent (inner : Element → Control → Prop) : Element → Control → Prop
  | mk {c : Control} {slot : Element} (attributes : slot.attributes = [])
      (control : ExactlyOne inner slot.elements c) : DescribesContent inner slot c

/-- The element describes this tab. -/
inductive DescribesTab (inner : Element → Control → Prop) : Element → Tab Control → Prop
  | mk {tab : Tab Control} {e : Element} (attributes : ∀ a ∈ e.attributes, a.name = "Title")
      (elements : ∀ child ∈ e.elements, child.name = "Content")
      (title : AtMostOne Attribute.HasText (e.attributes.filter (·.name = "Title")) tab.title)
      (content : AtMostOne (DescribesContent inner) (e.elements.filter (·.name = "Content"))
        tab.content) :
      DescribesTab inner e tab

/-! ## controls -/

/-- One layer of the schema: the element describes this control, if `inner`
says what the elements inside describe. -/
inductive Layer (inner : Element → Control → Prop) : Element → Control → Prop
  | linearLayout {orientation : Orientation} {children : List (LinearChild Control)}
      {margin : Option Margin} {e : Element}
      (name : e.name = "LinearLayout")
      (attributes : ∀ a ∈ e.attributes, a.name = "Direction")
      (elements : ∀ child ∈ e.elements, child.name ∈ ["Child", "Margin"])
      (direction : OrDefault Attribute.HasOrientation .horizontal
        (e.attributes.filter (·.name = "Direction")) orientation)
      (slots : List.Forall₂ (DescribesLinearChild inner) (e.elements.filter (·.name = "Child"))
        children)
      (margins : AtMostOne DescribesMargin (e.elements.filter (·.name = "Margin")) margin) :
      Layer inner e (.linearLayout orientation children margin)
  | gridLayout {children : List (GridChild Control)} {e : Element}
      (name : e.name = "GridLayout") (attributes : e.attributes = [])
      (elements : ∀ child ∈ e.elements, child.name = "Child")
      (slots : List.Forall₂ (DescribesGridChild inner) (e.elements.filter (·.name = "Child"))
        children) :
      Layer inner e (.gridLayout children)
  | tabControl {tabs : List (Tab Control)} {e : Element}
      (name : e.name = "TabControl") (attributes : e.attributes = [])
      (elements : ∀ child ∈ e.elements, child.name = "Tab")
      (slots : List.Forall₂ (DescribesTab inner) (e.elements.filter (·.name = "Tab")) tabs) :
      Layer inner e (.tabControl tabs)
  | menuBar {menus : List Menu} {e : Element}
      (name : e.name = "MenuBar") (attributes : e.attributes = [])
      (elements : ∀ child ∈ e.elements, child.name = "DropDownMenu")
      (slots : List.Forall₂ DescribesMenu (e.elements.filter (·.name = "DropDownMenu")) menus) :
      Layer inner e (.menuBar menus)
  | button {command : Option String} {margin : Option Margin} {e : Element}
      (name : e.name = "Button") (attributes : ∀ a ∈ e.attributes, a.name = "Command")
      (elements : ∀ child ∈ e.elements, child.name = "Margin")
      (commands : AtMostOne Attribute.HasText (e.attributes.filter (·.name = "Command")) command)
      (margins : AtMostOne DescribesMargin (e.elements.filter (·.name = "Margin")) margin) :
      Layer inner e (.button command margin)
  | checkBox {margin : Option Margin} {e : Element}
      (name : e.name = "CheckBox") (attributes : e.attributes = [])
      (elements : ∀ child ∈ e.elements, child.name = "Margin")
      (margins : AtMostOne DescribesMargin (e.elements.filter (·.name = "Margin")) margin) :
      Layer inner e (.checkBox margin)
  | textBox {multiLine : Bool} {item : Option String} {e : Element}
      (name : e.name = "TextBox")
      (attributes : ∀ a ∈ e.attributes, a.name ∈ ["MultiLine", "Item"])
      (elements : e.elements = [])
      (multiLines : OrDefault Attribute.HasFlag false
        (e.attributes.filter (·.name = "MultiLine")) multiLine)
      (items : AtMostOne Attribute.HasText (e.attributes.filter (·.name = "Item")) item) :
      Layer inner e (.textBox multiLine item)
  | label {item : Option String} {e : Element}
      (name : e.name = "Label") (attributes : ∀ a ∈ e.attributes, a.name = "Item")
      (elements : e.elements = [])
      (items : AtMostOne Attribute.HasText (e.attributes.filter (·.name = "Item")) item) :
      Layer inner e (.label item)
  | nothing {e : Element} (name : e.name = "Nothing") (attributes : e.attributes = [])
      (elements : e.elements = []) : Layer inner e .nothing

/-- The schema of controls: the element describes this control. -/
inductive Describes : Element → Control → Prop
  | mk {e : Element} {c : Control} (h : Layer Describes e c) : Describes e c

end Control

end UiMarkup
