import UiMarkup.Control.Basic
import UiMarkup.Number.Shortest
import UiMarkup.Text.Shown

/-!
# UiMarkup.Control.Shown

Controls in the form in which they are shown for inspection.
-/

namespace UiMarkup

open Text (record variant listing optional quote truth)

/-- A margin, shown. -/
def Margin.shown (t : Margin) : String :=
  record "Thickness"
    [("left", t.left.text), ("top", t.top.text), ("right", t.right.text),
      ("bottom", t.bottom.text)]

/-- A span, shown. -/
def Span.shown (s : Span) : String :=
  record "GridSpan" [("index", toString s.index.toNat), ("span", toString s.span.toNat)]

/-- An entry of a menu, shown. -/
def MenuEntry.shown : MenuEntry → String
  | .command path => variant "Command" (quote path)
  | .check path => variant "Check" (quote path)
  | .choice path => variant "Enum" (quote path)

/-- A menu, shown. -/
def Menu.shown (m : Menu) : String :=
  record "DropDownMenu"
    [("title", optional quote m.title), ("entries", listing (m.entries.map MenuEntry.shown))]

namespace Control

mutual
/-- A control, shown. -/
def shown : Control → String
  | .linearLayout orientation children margin =>
    variant "LinearLayout" (record "LinearLayout"
      [("orientation", orientation.name), ("children", listing (shownLinear children)),
        ("margin", optional Margin.shown margin)])
  | .gridLayout children =>
    variant "GridLayout" (record "GridLayout" [("children", listing (shownGrid children))])
  | .tabControl tabs =>
    variant "TabControl" (record "TabControl" [("tabs", listing (shownTabs tabs))])
  | .menuBar menus =>
    variant "MenuBar" (record "MenuBar" [("menus", listing (menus.map Menu.shown))])
  | .button command margin =>
    variant "Button" (record "Button"
      [("command", optional quote command), ("margin", optional Margin.shown margin)])
  | .checkBox margin =>
    variant "CheckBox" (record "CheckBox" [("margin", optional Margin.shown margin)])
  | .textBox multiLine item =>
    variant "TextBox" (record "TextBox"
      [("multi_line", truth multiLine), ("item", optional quote item)])
  | .label item => variant "Label" (record "Label" [("item", optional quote item)])
  | .nothing => "Nothing"

/-- The children of a linear layout, shown. -/
def shownLinear : List (LinearChild Control) → List String
  | [] => []
  | ⟨c, weight⟩ :: more =>
    record "LinearLayoutChild"
      [("control", shown c), ("weight", optional Number.Binary64.text weight)] ::
      shownLinear more

/-- The children of a grid, shown. -/
def shownGrid : List (GridChild Control) → List String
  | [] => []
  | ⟨c, column, row⟩ :: more =>
    record "GridLayoutChild"
      [("control", shown c), ("column", column.shown), ("row", row.shown)] :: shownGrid more

/-- The tabs of a tab control, shown. -/
def shownTabs : List (Tab Control) → List String
  | [] => []
  | ⟨title, none⟩ :: more =>
    record "Tab" [("title", optional quote title), ("content", "None")] :: shownTabs more
  | ⟨title, some c⟩ :: more =>
    record "Tab" [("title", optional quote title), ("content", variant "Some" (shown c))] ::
      shownTabs more
end

end Control

end UiMarkup
