import UiMarkup.Control.Error
import UiMarkup.Proofs.Control.Schema

/-!
# UiMarkup.Proofs.Control.Roles

The schema of controls as a table, and what it means that a document violates
it.  Every element of a document plays a role, which says the attributes and
the child elements that it may have, how often, and the roles of the children.
A violation is a fault together with the element that shows it:

* `Role.attributes`, `Role.contents`: the table;
* `Stands`, `InControlPlace`: the elements in a document, by role;
* `Shows`: the faults of an element in a role;
* `Violates`: the faults of a document.
-/

namespace UiMarkup

/-! ## values -/

namespace Attribute

/-- The values spell these cells: the first one, and perhaps their number,
which is one if nothing is said and never zero. -/
def SpellsSpan (a : Attribute) (s : Span) : Prop :=
  (∃ index, a.values = [some index] ∧
      Number.readInteger? index = some (s.index.toNat : Int) ∧ s.span = 1) ∨
    ∃ index span, a.values = [some index, some span] ∧
      Number.readInteger? index = some (s.index.toNat : Int) ∧
      Number.readInteger? span = some (s.span.toNat : Int) ∧ 1 ≤ s.span.toNat

/-- The value at an index is the text of something that a relation allows. -/
def TextAt {α : Type} (a : Attribute) (index : Nat) (means : String → α → Prop) : Prop :=
  ∃ s x, a.values[index]? = some (some s) ∧ means s x

/-- Where a text stands, the relation is to allow that text. -/
theorem textAt_iff {α : Type} {a : Attribute} {index : Nat} {means : String → α → Prop}
    {s : String} (h : a.values[index]? = some (some s)) :
    a.TextAt index means ↔ ∃ x, means s x := by
  simp [TextAt, h]

/-- The value at an index is what was expected there. -/
def FitsAt (a : Attribute) (index : Nat) : Document.Expected → Prop
  | .text => ∃ s, a.values[index]? = some (some s)
  | .integer => a.TextAt index fun s n => Number.readInteger? s = some n
  | .float => a.TextAt index fun s x => Number.readFloat? s = some x
  | .boolean => a.TextAt index fun s b => readFlag? s = some b
  | .choice => a.TextAt index fun s (o : Orientation) => s = o.name
  | .nonNegative => a.TextAt index fun s (n : UInt32) =>
      Number.readInteger? s = some (n.toNat : Int)
  | .positive => a.TextAt index fun s (n : UInt32) =>
      Number.readInteger? s = some (n.toNat : Int) ∧ 1 ≤ n.toNat
  | .indexBeforeSpan => ∀ s, a.SpellsSpan s → s.index.toNat + s.span.toNat ≤ Span.limit.toNat

end Attribute

namespace Control

/-! ## forms of attributes -/

/-- What the values of an attribute stand for. -/
inductive Form where
  | text
  | float
  | flag
  | orientation
  | cells
  deriving DecidableEq

/-- The largest number of values; the smallest one is one. -/
def Form.most : Form → Nat
  | .cells => 2
  | _ => 1

/-- What is expected of the value at an index, each more than the one before. -/
def Form.expected : Form → Nat → List Document.Expected
  | .text, 0 => [.text]
  | .float, 0 => [.text, .float]
  | .flag, 0 => [.text, .boolean]
  | .orientation, 0 => [.text, .choice]
  | .cells, 0 => [.text, .integer, .nonNegative, .indexBeforeSpan]
  | .cells, 1 => [.text, .integer, .positive]
  | _, _ => []

/-- The faults that an attribute shows, if it is to have a form. -/
inductive Misses (form : Form) (a : Attribute) : Document.Error → Prop
  /-- The number of values is outside the range. -/
  | valueCount (h : ¬ (1 ≤ a.values.length ∧ a.values.length ≤ form.most)) :
      Misses form a (.valueCount a.name 1 form.most a.values.length)
  /-- The value at the index is there and is not what was expected. -/
  | invalidValue {index : Nat} {expected : Document.Expected} {value : Value}
      (hexpected : expected ∈ form.expected index) (hvalue : a.values[index]? = some value)
      (hfits : ¬ a.FitsAt index expected) :
      Misses form a (.invalidValue a.name index expected value)

/-! ## the table -/

/-- How often a name may stand in an element. -/
inductive Often where
  | anyNumber
  | atMostOnce
  | once
  deriving DecidableEq

/-- An attribute that an element may have. -/
structure AttributeRule where
  name : String
  form : Form
  often : Often
  deriving DecidableEq

/-- The roles of elements. -/
inductive Role where
  /-- A control of a kind. -/
  | control (kind : ControlKind)
  /-- A child of a linear layout. -/
  | linearSlot
  /-- A child of a grid. -/
  | gridSlot
  | tab
  /-- The content of a tab. -/
  | content
  | menu
  | margin
  deriving DecidableEq

/-- The attributes that an element in a role may have. -/
def Role.attributes : Role → List AttributeRule
  | .control .linearLayout => [⟨"Direction", .orientation, .atMostOnce⟩]
  | .control .button => [⟨"Command", .text, .atMostOnce⟩]
  | .control .textBox => [⟨"MultiLine", .flag, .atMostOnce⟩, ⟨"Item", .text, .atMostOnce⟩]
  | .control .label => [⟨"Item", .text, .atMostOnce⟩]
  | .linearSlot => [⟨"Weight", .float, .atMostOnce⟩]
  | .gridSlot => [⟨"Column", .cells, .once⟩, ⟨"Row", .cells, .once⟩]
  | .tab => [⟨"Title", .text, .atMostOnce⟩]
  | .menu =>
    [⟨"Item", .text, .atMostOnce⟩, ⟨"Command", .text, .anyNumber⟩,
      ⟨"CheckItem", .text, .anyNumber⟩, ⟨"Enum", .text, .anyNumber⟩]
  | .margin =>
    [⟨"Left", .float, .atMostOnce⟩, ⟨"Top", .float, .atMostOnce⟩,
      ⟨"Right", .float, .atMostOnce⟩, ⟨"Bottom", .float, .atMostOnce⟩]
  | _ => []

/-- A child element that an element may have. -/
structure PartRule where
  name : String
  role : Role
  often : Often
  deriving DecidableEq

/-- The child elements of an element. -/
inductive Contents where
  /-- One element of any name, which is a control. -/
  | oneControl
  /-- Elements of these names. -/
  | parts (rules : List PartRule)

/-- The child elements that an element in a role may have. -/
def Role.contents : Role → Contents
  | .control .linearLayout =>
    .parts [⟨"Child", .linearSlot, .anyNumber⟩, ⟨"Margin", .margin, .atMostOnce⟩]
  | .control .gridLayout => .parts [⟨"Child", .gridSlot, .anyNumber⟩]
  | .control .tabControl => .parts [⟨"Tab", .tab, .anyNumber⟩]
  | .control .menuBar => .parts [⟨"DropDownMenu", .menu, .anyNumber⟩]
  | .control .button | .control .checkBox => .parts [⟨"Margin", .margin, .atMostOnce⟩]
  | .tab => .parts [⟨"Content", .content, .atMostOnce⟩]
  | .linearSlot | .gridSlot | .content => .oneControl
  | _ => .parts []

/-! ## the elements of a document -/

mutual
/-- The element stands where a control is to stand. -/
inductive InControlPlace (root : Element) : Element → Prop
  | root : InControlPlace root root
  | inside {role : Role} {e child : Element} (h : Stands root role e)
      (hcontents : role.contents = .oneControl) (hchild : child ∈ e.elements) :
      InControlPlace root child

/-- The element plays this role in the document. -/
inductive Stands (root : Element) : Role → Element → Prop
  | control {kind : ControlKind} {e : Element} (h : InControlPlace root e)
      (hname : e.name = kind.name) : Stands root (.control kind) e
  | part {role : Role} {e child : Element} {rules : List PartRule} {rule : PartRule}
      (h : Stands root role e) (hcontents : role.contents = .parts rules) (hrule : rule ∈ rules)
      (hchild : child ∈ e.elements.filter (·.name = rule.name)) : Stands root rule.role child
end

/-! ## violations -/

/-- The faults that an element shows in a role. -/
inductive Shows (role : Role) (e : Element) : Document.Error → Prop
  /-- It has an attribute of another name than the role allows. -/
  | unexpectedAttribute {a : Attribute} (ha : a ∈ e.attributes)
      (hname : ∀ rule ∈ role.attributes, a.name ≠ rule.name) :
      Shows role e (.unexpectedAttribute e.name a.name)
  /-- It has attributes, and the role allows none. -/
  | attributesNotAllowed (hrole : role.attributes = []) (h : e.attributes ≠ []) :
      Shows role e (.attributesNotAllowed e.name)
  /-- It lacks an attribute. -/
  | missingAttribute {rule : AttributeRule} (hrule : rule ∈ role.attributes)
      (honce : rule.often = .once) (h : e.attributes.filter (·.name = rule.name) = []) :
      Shows role e (.missingAttribute e.name rule.name)
  /-- It has several attributes of a name that may stand once. -/
  | ambiguousAttribute {rule : AttributeRule} (hrule : rule ∈ role.attributes)
      (honce : rule.often ≠ .anyNumber)
      (h : 2 ≤ (e.attributes.filter (·.name = rule.name)).length) :
      Shows role e (.ambiguous e.name rule.name)
  /-- One of its attributes has a fault. -/
  | misses {rule : AttributeRule} {a : Attribute} {err : Document.Error}
      (hrule : rule ∈ role.attributes) (ha : a ∈ e.attributes.filter (·.name = rule.name))
      (h : Misses rule.form a err) : Shows role e err
  /-- It has a child element of another name than the role allows. -/
  | unexpectedElement {rules : List PartRule} {child : Element}
      (hcontents : role.contents = .parts rules) (hchild : child ∈ e.elements)
      (hname : ∀ rule ∈ rules, child.name ≠ rule.name) :
      Shows role e (.unexpectedElement e.name child.name)
  /-- It has child elements, and the role allows none. -/
  | elementsNotAllowed (hcontents : role.contents = .parts []) (h : e.elements ≠ []) :
      Shows role e (.elementsNotAllowed e.name)
  /-- It has several child elements of a name that may stand once. -/
  | ambiguousElement {rules : List PartRule} {rule : PartRule}
      (hcontents : role.contents = .parts rules) (hrule : rule ∈ rules)
      (honce : rule.often ≠ .anyNumber) (h : 2 ≤ (e.elements.filter (·.name = rule.name)).length) :
      Shows role e (.ambiguous e.name rule.name)
  /-- It has not exactly one child element. -/
  | elementCount (hcontents : role.contents = .oneControl) (h : e.elementCount ≠ 1) :
      Shows role e (.elementCount e.name 1 e.elementCount)

/-- An element of the document shows the fault in its role. -/
def ShownIn (root : Element) (err : Document.Error) : Prop :=
  ∃ role e, Stands root role e ∧ Shows role e err

/-- The errors that say what is wrong with a document. -/
inductive Violates (root : Element) : Error → Prop
  /-- An element in the place of a control has the name of no kind. -/
  | unsupportedElement {e : Element} (h : InControlPlace root e)
      (hname : ∀ kind : ControlKind, e.name ≠ kind.name) :
      Violates root (.unsupportedElement e.name)
  /-- An element shows a fault. -/
  | document {err : Document.Error} (h : ShownIn root err) : Violates root (.document err)

end Control

end UiMarkup
