import UiMarkup.Control.Geometry
import UiMarkup.Control.Kind

/-!
# UiMarkup.Control.Basic

Controls: the description of one element of a screen with all that is inside
it.  References to items are paths and are not resolved here.

* `Control.children` are the controls right inside;
* `Control.itemPaths` are the paths referenced anywhere inside, in order.
-/

namespace UiMarkup

open Number (Binary64)

/-- A child of a linear layout, and its share of the space that is left. -/
structure LinearChild (C : Type) where
  control : C
  weight : Option Binary64

/-- A child of a grid, and the columns and rows that it takes up. -/
structure GridChild (C : Type) where
  control : C
  column : Span
  row : Span

/-- A tab: its title and what it shows. -/
structure Tab (C : Type) where
  title : Option String
  content : Option C

/-- An entry of a menu: it executes a command, flips a boolean, or offers the
options of a choice.  Each refers to its item by path. -/
inductive MenuEntry where
  | command (path : String)
  | check (path : String)
  | choice (path : String)
  deriving DecidableEq

/-- The path that an entry of a menu refers to. -/
def MenuEntry.path : MenuEntry → String
  | .command path | .check path | .choice path => path

/-- A menu: its title and its entries. -/
structure Menu where
  title : Option String
  entries : List MenuEntry
  deriving DecidableEq

/-- A control. -/
inductive Control where
  | linearLayout (orientation : Orientation) (children : List (LinearChild Control))
      (margin : Option Margin)
  | gridLayout (children : List (GridChild Control))
  | tabControl (tabs : List (Tab Control))
  | menuBar (menus : List Menu)
  | button (command : Option String) (margin : Option Margin)
  | checkBox (margin : Option Margin)
  | textBox (multiLine : Bool) (item : Option String)
  | label (item : Option String)
  | nothing
  deriving Inhabited

namespace Control

/-! ## one control -/

/-- The kind of a control. -/
def kind : Control → ControlKind
  | .linearLayout .. => .linearLayout
  | .gridLayout _ => .gridLayout
  | .tabControl _ => .tabControl
  | .menuBar _ => .menuBar
  | .button .. => .button
  | .checkBox _ => .checkBox
  | .textBox .. => .textBox
  | .label _ => .label
  | .nothing => .nothing

/-- The margin of a control, if it has one. -/
def margin : Control → Option Margin
  | .linearLayout _ _ margin | .button _ margin | .checkBox margin => margin
  | _ => none

/-- A control with a margin is of a kind that may have one. -/
theorem hasMargin_of_margin {c : Control} {t : Margin} (h : c.margin = some t) :
    c.kind.hasMargin = true := by
  cases c <;> simp_all [margin, kind, ControlKind.hasMargin]

/-- The controls right inside a control, in order. -/
def children : Control → List Control
  | .linearLayout _ children _ => children.map (·.control)
  | .gridLayout children => children.map (·.control)
  | .tabControl tabs => tabs.filterMap (·.content)
  | _ => []

/-- The paths that a control refers to on its own, in order. -/
def ownPaths : Control → List String
  | .button command _ => command.toList
  | .textBox _ item => item.toList
  | .label item => item.toList
  | .menuBar menus => menus.flatMap fun m => m.entries.map MenuEntry.path
  | _ => []

/-- The number of columns of a grid. -/
def columnCount (children : List (GridChild Control)) : UInt32 :=
  Span.extent (children.map (·.column))

/-- The number of rows of a grid. -/
def rowCount (children : List (GridChild Control)) : UInt32 :=
  Span.extent (children.map (·.row))

/-! ## all that is inside -/

mutual
/-- The paths referenced by a control and by all that is inside it: its own
first, then those of its children, in order. -/
def itemPaths : Control → List String
  | .linearLayout _ children _ => linearPaths children
  | .gridLayout children => gridPaths children
  | .tabControl tabs => tabPaths tabs
  | .menuBar menus => ownPaths (.menuBar menus)
  | .button command margin => ownPaths (.button command margin)
  | .checkBox margin => ownPaths (.checkBox margin)
  | .textBox multiLine item => ownPaths (.textBox multiLine item)
  | .label item => ownPaths (.label item)
  | .nothing => ownPaths .nothing

/-- The paths referenced by the children of a linear layout. -/
def linearPaths : List (LinearChild Control) → List String
  | [] => []
  | ⟨c, _⟩ :: more => itemPaths c ++ linearPaths more

/-- The paths referenced by the children of a grid. -/
def gridPaths : List (GridChild Control) → List String
  | [] => []
  | ⟨c, _, _⟩ :: more => itemPaths c ++ gridPaths more

/-- The paths referenced by what tabs show. -/
def tabPaths : List (Tab Control) → List String
  | [] => []
  | ⟨_, none⟩ :: more => tabPaths more
  | ⟨_, some c⟩ :: more => itemPaths c ++ tabPaths more
end

/-- The paths of the children of a linear layout, child by child. -/
theorem linearPaths_eq (cs : List (LinearChild Control)) :
    linearPaths cs = (cs.map (·.control)).flatMap itemPaths := by
  induction cs with
  | nil => rfl
  | cons c more ih => simp [linearPaths, ih]

/-- The paths of the children of a grid, child by child. -/
theorem gridPaths_eq (cs : List (GridChild Control)) :
    gridPaths cs = (cs.map (·.control)).flatMap itemPaths := by
  induction cs with
  | nil => rfl
  | cons c more ih => simp [gridPaths, ih]

/-- The paths of what tabs show, tab by tab. -/
theorem tabPaths_eq (tabs : List (Tab Control)) :
    tabPaths tabs = (tabs.filterMap (·.content)).flatMap itemPaths := by
  induction tabs with
  | nil => rfl
  | cons t more ih =>
    obtain ⟨title, content⟩ := t
    cases content <;> simp [tabPaths, ih]

/-- A control refers to its own paths and then to those of its children. -/
theorem itemPaths_eq (c : Control) :
    c.itemPaths = c.ownPaths ++ c.children.flatMap itemPaths := by
  cases c <;> simp [itemPaths, ownPaths, children, linearPaths_eq, gridPaths_eq, tabPaths_eq]

/-! ## equality -/

/-- Equality of values that may be absent. -/
def sameOption (same : α → α → Bool) : Option α → Option α → Bool
  | none, none => true
  | some x, some y => same x y
  | _, _ => false

mutual
/-- Equality of controls, with numbers equal as numbers: the two zeros do not
differ. -/
def same : Control → Control → Bool
  | .linearLayout o cs m, .linearLayout o' cs' m' =>
    o == o' && sameLinear cs cs' && sameOption Margin.same m m'
  | .gridLayout cs, .gridLayout cs' => sameGrid cs cs'
  | .tabControl ts, .tabControl ts' => sameTabs ts ts'
  | .menuBar ms, .menuBar ms' => ms == ms'
  | .button p m, .button p' m' => p == p' && sameOption Margin.same m m'
  | .checkBox m, .checkBox m' => sameOption Margin.same m m'
  | .textBox b p, .textBox b' p' => b == b' && p == p'
  | .label p, .label p' => p == p'
  | .nothing, .nothing => true
  | _, _ => false

/-- Equality of the children of linear layouts. -/
def sameLinear : List (LinearChild Control) → List (LinearChild Control) → Bool
  | [], [] => true
  | ⟨c, w⟩ :: more, ⟨c', w'⟩ :: more' =>
    same c c' && sameOption Binary64.sameNumber w w' && sameLinear more more'
  | _, _ => false

/-- Equality of the children of grids. -/
def sameGrid : List (GridChild Control) → List (GridChild Control) → Bool
  | [], [] => true
  | ⟨c, x, y⟩ :: more, ⟨c', x', y'⟩ :: more' =>
    same c c' && x == x' && y == y' && sameGrid more more'
  | _, _ => false

/-- Equality of tabs. -/
def sameTabs : List (Tab Control) → List (Tab Control) → Bool
  | [], [] => true
  | ⟨t, none⟩ :: more, ⟨t', none⟩ :: more' => t == t' && sameTabs more more'
  | ⟨t, some c⟩ :: more, ⟨t', some c'⟩ :: more' => t == t' && same c c' && sameTabs more more'
  | _, _ => false
end

end Control

end UiMarkup
