import UiMarkup.Items.Path

/-!
# UiMarkup.Items.Store

The store of all items of a program, and lookups in it by path.
-/

namespace UiMarkup

/-- A store: the group at the root. -/
structure Items (S ω : Type) where
  root : Group S ω

namespace Items

/-- The name of the root group, and of the root element of a document that
declares items. -/
def rootName : String := "Items"

/-- The store without items. -/
def empty : Items S ω := ⟨.empty rootName⟩

/-! ## lookups -/

/-- The position of a path. -/
def locate? (s : Items S ω) (path : String) : Option Position :=
  s.root.locate? (namesOfPath path)

/-- What stands at a path. -/
def find? (s : Items S ω) (path : String) : Option (Entry S ω) :=
  (s.locate? path).bind s.root.at?

/-- The item at a path. -/
def item (s : Items S ω) (path : String) : Except Error (Item S ω) :=
  match s.find? path with
  | some (.item i) => .ok i
  | some e => .error (.wrongKind .anyItem e.kind path)
  | none => .error (.missingPath .anyItem path)

/-- The group at a path. -/
def group (s : Items S ω) (path : String) : Except Error (Group S ω) :=
  match s.find? path with
  | some (.group n entries index) => .ok ⟨n, entries, index⟩
  | some e => .error (.wrongKind .group e.kind path)
  | none => .error (.missingPath .group path)

/-- The item of a kind at a path. -/
def itemOf (s : Items S ω) (kind : Kind) (path : String) : Except Error (Item S ω) :=
  match s.find? path with
  | some (.item i) =>
    if i.kind = kind then .ok i
    else .error (.wrongKind (.only kind) (.item i.kind) path)
  | some e => .error (.wrongKind (.only kind) e.kind path)
  | none => .error (.missingPath (.only kind) path)

/-! ## changes in place -/

/-- Changes the content of the item at a path, if there is one. -/
def modify (s : Items S ω) (path : String) (change : Content S ω → Content S ω) : Items S ω :=
  match s.locate? path with
  | none => s
  | some position => ⟨s.root.modifyAt (Entry.modifyContent change) position⟩

end Items

end UiMarkup
