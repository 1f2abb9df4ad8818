import UiMarkup.Document.Value
import UiMarkup.Document.Reader
import UiMarkup.Items.Dialect
import UiMarkup.Items.Store

/-!
# UiMarkup.Items.Declaration

From a document to a store.  Every attribute of the root element declares an
item: its name is that of the item, its first value the tag of a kind and its
second value, if any, the title.  An attribute named `*` adds an option to the
choice declared right before it, and a child element declares a group.

* `Items.ofElement` takes in a tree;
* `Items.parse` takes in a text, in the standard dialect.
-/

namespace UiMarkup.Items

variable {S ω : Type} [Observer.Storage S ω]

/-- The name of the attributes that add options. -/
def optionName : String := "*"

/-- What is declared so far: the group with its entries, and whether the last of
them is a choice that takes options. -/
structure Declared (S ω : Type) where
  group : Group S ω
  takesOptions : Bool

/-- A document error as an error of items. -/
def liftDocument : Except Document.Error α → Except Error α :=
  Except.mapError .document

/-- The title that a declaration gives: its second value, if it has one. -/
def titleOf (a : Attribute) : Option String :=
  a.values[1]?.join

/-- What the error for a misplaced option names: its first value, if that is a
text. -/
def orphan (a : Attribute) : Error :=
  .orphanOption (a.values[0]?.join.getD "")

/-- Takes in an attribute that declares an item. -/
def takeItem (g : Group S ω) (a : Attribute) : Except Error (Declared S ω) := do
  liftDocument (a.requireCountBetween 1 2)
  let tag ← liftDocument (a.textAt 0)
  match Kind.ofTag? tag with
  | none => .error (.unsupportedType a.name tag)
  | some kind => do
    let (g, _) ← g.addItem ((Item.ofKind kind a.name).setTitle (titleOf a))
    .ok ⟨g, kind = .choice⟩

/-- Takes in an attribute that adds an option.  The name of the option is that
of the choice, followed by the separator and the first value. -/
def takeOption (dialect : Dialect) (g : Group S ω) (a : Attribute) :
    Except Error (Declared S ω) := do
  liftDocument (a.requireCountBetween 1 2)
  match g.last? with
  | some (.item i) => do
    if i.kind ≠ .choice then .error (orphan a)
    let id ← liftDocument (a.textAt 0)
    match i.addOption? ⟨i.name ++ dialect.separator ++ id, titleOf a, none⟩ with
    | some i => .ok ⟨g.replaceLast (.item i), true⟩
    | none => .error (orphan a)
  | _ => .error (orphan a)

/-- Adds the group that a child element declares, and gives it as it is before
its nodes are taken in. -/
def admitGroup (dialect : Dialect) (parent : String) (g : Group S ω) (name : String) :
    Except Error (Group S ω × Group S ω) :=
  if dialect.nestedGroups then g.addGroup name
  else .error (.document (.unexpectedElement parent name))

mutual
/-- Takes in one node of the element that declares the group. -/
def takeNode (dialect : Dialect) (parent : String) (d : Declared S ω) :
    Node → Except Error (Declared S ω)
  | .attr a =>
    if a.name = optionName then
      if d.takesOptions then takeOption dialect d.group a else .error (orphan a)
    else takeItem d.group a
  | .elem name nodes => do
    let (g, inner) ← admitGroup dialect parent d.group name
    let inner ← takeNodes dialect name ⟨inner, false⟩ nodes
    .ok ⟨g.replaceLast inner.group.toEntry, false⟩

/-- Takes in nodes one after the other. -/
def takeNodes (dialect : Dialect) (parent : String) (d : Declared S ω) :
    List Node → Except Error (Declared S ω)
  | [] => .ok d
  | x :: more => do
    let d ← takeNode dialect parent d x
    takeNodes dialect parent d more
end

/-- The store that an element declares. -/
def ofElement (dialect : Dialect) (root : Element) : Except Error (Items S ω) := do
  liftDocument (root.requireName rootName)
  let d ← takeNodes dialect root.name ⟨.empty rootName, false⟩ root.nodes
  .ok ⟨d.group⟩

/-- The store that a text declares in the standard dialect. -/
def parse (text : String) : Except Error (Items S ω) := do
  let d ← liftDocument (Document.parse text)
  ofElement .standard d.root

end UiMarkup.Items
