import UiMarkup.Document.Error

/-!
# UiMarkup.Document.Lookup

What an element holds, by kind of node and by name.  Names are compared
exactly and the order of the nodes is kept.  A name that may stand for one
node at most is ambiguous if it stands for several.
-/

namespace UiMarkup.Element

open Document (Error)

/-! ## all nodes of a kind -/

/-- The attributes, in order. -/
def attributes (e : Element) : List Attribute :=
  e.nodes.filterMap Node.attribute?

/-- One more node adds the attribute that it is, if it is one. -/
@[simp] theorem attributes_push (e : Element) (x : Node) :
    (e.push x).attributes = e.attributes ++ x.attribute?.toList := by
  cases h : x.attribute? <;> simp [attributes, h]

/-- The child elements, in order. -/
def elements (e : Element) : List Element :=
  e.nodes.filterMap Node.element?

/-- One more node adds the child element that it is, if it is one. -/
@[simp] theorem elements_push (e : Element) (x : Node) :
    (e.push x).elements = e.elements ++ x.element?.toList := by
  cases h : x.element? <;> simp [elements, h]

/-- The attributes of a name, in order. -/
def attributesNamed (e : Element) (name : String) : List Attribute :=
  e.attributes.filter (·.name == name)

/-- The child elements of a name, in order. -/
def elementsNamed (e : Element) (name : String) : List Element :=
  e.elements.filter (·.name == name)

/-- The number of child elements. -/
def elementCount (e : Element) : Nat :=
  e.elements.length

/-- Whether there is an attribute of a name. -/
def hasAttribute (e : Element) (name : String) : Bool :=
  e.attributes.any (·.name == name)

/-- Whether there is a child element of a name. -/
def hasElement (e : Element) (name : String) : Bool :=
  e.elements.any (·.name == name)

/-! ## the one node of a name -/

/-- The only one of the nodes found under a name, if any was found. -/
def atMostOne (e : Element) (name : String) : List α → Except Error (Option α)
  | [] => .ok none
  | [x] => .ok (some x)
  | _ => .error (.ambiguous e.name name)

/-- No node is found exactly where there is none. -/
@[simp] theorem atMostOne_eq_none (e : Element) (name : String) (found : List α) :
    e.atMostOne name found = .ok none ↔ found = [] := by
  match found with
  | [] | [_] | _ :: _ :: _ => simp [atMostOne]

/-- A node is found exactly where it is the only one. -/
@[simp] theorem atMostOne_eq_some (e : Element) (name : String) (found : List α) (x : α) :
    e.atMostOne name found = .ok (some x) ↔ found = [x] := by
  match found with
  | [] | [_] | _ :: _ :: _ => simp [atMostOne]

/-- The attribute of a name, if there is one; several are an error. -/
def optionalAttribute (e : Element) (name : String) : Except Error (Option Attribute) :=
  e.atMostOne name (e.attributesNamed name)

/-- The one attribute of a name. -/
def requiredAttribute (e : Element) (name : String) : Except Error Attribute := do
  match ← e.optionalAttribute name with
  | some a => .ok a
  | none => .error (.missingAttribute e.name name)

/-- The child element of a name, if there is one; several are an error. -/
def optionalElement (e : Element) (name : String) : Except Error (Option Element) :=
  e.atMostOne name (e.elementsNamed name)

/-- The one child element of a name. -/
def requiredElement (e : Element) (name : String) : Except Error Element := do
  match ← e.optionalElement name with
  | some child => .ok child
  | none => .error (.missingElement e.name name)

end UiMarkup.Element
