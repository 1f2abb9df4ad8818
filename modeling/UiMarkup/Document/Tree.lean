/-!
# UiMarkup.Document.Tree

The tree that a document describes: elements that hold attributes and further
elements, in order.  A value is a text or null.  The tree carries no layout:
two documents with the same tree differ at most in spelling.
-/

namespace UiMarkup

/-- A value of an attribute: a text, or null. -/
abbrev Value := Option String

/-- A name with values. -/
structure Attribute where
  name : String
  values : List Value
  deriving DecidableEq, Inhabited

/-- What an element holds: an attribute, or an element with a name and nodes
of its own. -/
inductive Node where
  | attr (a : Attribute)
  | elem (name : String) (nodes : List Node)
  deriving Inhabited

/-- A name with nodes. -/
structure Element where
  name : String
  nodes : List Node
  deriving Inhabited

namespace Node

/-! ## equality -/

mutual
/-- Decides whether two nodes are the same tree. -/
def decEq : (x y : Node) → Decidable (x = y)
  | .attr a, .attr b =>
    if h : a = b then .isTrue (h ▸ rfl) else .isFalse fun heq => h (Node.attr.inj heq)
  | .attr _, .elem _ _ => .isFalse nofun
  | .elem _ _, .attr _ => .isFalse nofun
  | .elem m xs, .elem n ys =>
    if h : m = n then
      match decEqList xs ys with
      | .isTrue hs => .isTrue (h ▸ hs ▸ rfl)
      | .isFalse hs => .isFalse fun heq => hs (Node.elem.inj heq).2
    else .isFalse fun heq => h (Node.elem.inj heq).1

/-- Decides whether two lists of nodes are the same. -/
def decEqList : (xs ys : List Node) → Decidable (xs = ys)
  | [], [] => .isTrue rfl
  | [], _ :: _ => .isFalse nofun
  | _ :: _, [] => .isFalse nofun
  | x :: xs, y :: ys =>
    match decEq x y with
    | .isFalse h => .isFalse fun heq => h (List.cons.inj heq).1
    | .isTrue h =>
      match decEqList xs ys with
      | .isTrue hs => .isTrue (h ▸ hs ▸ rfl)
      | .isFalse hs => .isFalse fun heq => hs (List.cons.inj heq).2
end

instance : DecidableEq Node := decEq

/-! ## views of a node -/

/-- The name of a node. -/
def name : Node → String
  | .attr a => a.name
  | .elem n _ => n

/-- The attribute that a node is, if it is one. -/
def attribute? : Node → Option Attribute
  | .attr a => some a
  | .elem _ _ => none

/-- The element that a node is, if it is one. -/
def element? : Node → Option Element
  | .attr _ => none
  | .elem n nodes => some ⟨n, nodes⟩

/-- Every node is an attribute or an element, and never both. -/
theorem isSome_element? (x : Node) : x.element?.isSome = !x.attribute?.isSome := by
  cases x <;> rfl

end Node

deriving instance DecidableEq for Element

namespace Element

/-- An element as a node. -/
def toNode (e : Element) : Node :=
  .elem e.name e.nodes

/-- A node that is an element is that element as a node. -/
@[simp] theorem element?_toNode (e : Element) : e.toNode.element? = some e := rfl

/-- An element with one more node at the end. -/
def push (e : Element) (x : Node) : Element :=
  { e with nodes := e.nodes ++ [x] }

/-- One more node does not change the name. -/
@[simp] theorem name_push (e : Element) (x : Node) : (e.push x).name = e.name := rfl

/-- One more node stands behind the others. -/
@[simp] theorem nodes_push (e : Element) (x : Node) : (e.push x).nodes = e.nodes ++ [x] := rfl

/-- The element without nodes. -/
def empty (name : String) : Element := ⟨name, []⟩

end Element

/-- A document: its root element and the value that closes elements in it. -/
structure Document where
  root : Element
  endKeyword : Value
  deriving DecidableEq

/-- A document around an element that was made without a text: elements are
closed by `End`. -/
def Document.ofRoot (root : Element) : Document :=
  ⟨root, some "End"⟩

end UiMarkup
