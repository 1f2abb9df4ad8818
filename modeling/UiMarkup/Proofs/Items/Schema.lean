import UiMarkup.Proofs.Document.Within
import UiMarkup.Proofs.Items.Group

/-!
# UiMarkup.Proofs.Items.Schema

Which documents declare items, and which items those are, said of the places
of the nodes, without a state and without the reader:

* `WellDeclared`: what is demanded of the nodes of one element;
* `declaredEntries`: what they declare.
-/

namespace UiMarkup

open Items

variable {S ω : Type} [Observer.Storage S ω]

/-- The attribute has one or two values, and this text is the first one. -/
def Attribute.HasFirst (a : Attribute) (s : String) : Prop :=
  1 ≤ a.values.length ∧ a.values.length ≤ 2 ∧ a.values[0]? = some (some s)

namespace Items

/-! ## which nodes -/

/-- Whether a node adds an option. -/
def isOption : Node → Bool
  | .attr a => a.name = "*"
  | .elem _ _ => false

/-- Whether a node declares a choice. -/
def opensChoice : Node → Bool
  | .attr a => a.name ≠ "*" ∧ a.values[0]? = some (some "Enum")
  | .elem _ _ => false

/-- Whether these nodes end with one that declares a choice, going back over
those that add options. -/
def followsChoice (before : List Node) : Bool :=
  (before.reverse.dropWhile isOption).head?.any opensChoice

/-- The lowercase of the names that are declared, in order. -/
def declaredKeys (nodes : List Node) : List String :=
  (nodes.filter (!isOption ·)).map fun x => Text.lowercase x.name

/-- The text is a name: it is not empty, and all its characters are word
characters. -/
def ValidName (s : String) : Prop :=
  s ≠ "" ∧ ∀ c ∈ s.toList, Text.isWordChar c = true

/-- The kind of item that a first value declares. -/
def kindDeclared? : String → Option Kind
  | "Item" => some .plain
  | "Command" => some .command
  | "String" => some .text
  | "Bool" => some .flag
  | "Enum" => some .choice
  | _ => none

/-- What is demanded of the nodes of one element. -/
structure WellDeclared (nestedGroups : Bool) (nodes : List Node) : Prop where
  items : ∀ a, .attr a ∈ nodes → a.name ≠ "*" →
    (∃ tag, a.HasFirst tag ∧ (kindDeclared? tag).isSome) ∧ ValidName a.name
  options : ∀ before a after, nodes = before ++ .attr a :: after → a.name = "*" →
    (∃ id, a.HasFirst id) ∧ followsChoice before = true
  groups : ∀ name inner, .elem name inner ∈ nodes → ValidName name ∧ nestedGroups = true
  names : (declaredKeys nodes).Nodup

/-! ## what they declare -/

/-- The first value as a text. -/
def firstText (a : Attribute) : String :=
  a.values[0]?.join.getD ""

/-- The title that an attribute gives: its second value, unless that is null or
absent. -/
def declaredTitle (a : Attribute) : Option String :=
  match a.values with
  | _ :: some title :: _ => some title
  | _ => none

/-- The kind that an attribute declares an item of. -/
def declaredKind (a : Attribute) : Kind :=
  (kindDeclared? (firstText a)).getD .plain

/-- The option that an attribute adds to the choice of a name. -/
def declaredOption (separator choice : String) (a : Attribute) : Info :=
  ⟨choice ++ separator ++ firstText a, declaredTitle a, none⟩

/-- The item that an attribute declares, with the options that these attributes
add. -/
def declaredItem (separator : String) (a : Attribute) (options : List Attribute) : Item S ω where
  info := ⟨a.name, declaredTitle a, none⟩
  content :=
    match declaredKind a with
    | .plain => .plain
    | .command => .command none
    | .text => .text (.ofValue "")
    | .flag => .flag (.ofValue false)
    | .choice => .choice (.ofValue 0) (options.map (declaredOption separator a.name))

/-- The attributes that add options, up to the first other node. -/
def optionsAhead (nodes : List Node) : List Attribute :=
  (nodes.takeWhile isOption).filterMap Node.attribute?

mutual
/-- The entry that a node declares: an item if it is an attribute that adds no
option, and a group if it is an element.  These nodes are behind it. -/
def declared? (separator : String) (behind : List Node) : Node → Option (Entry S ω)
  | .attr a =>
    if a.name = "*" then none
    else some (.item (declaredItem separator a (optionsAhead behind)))
  | .elem name nodes => some (Group.ofEntries name (declaredEntries separator nodes)).toEntry

/-- The entries that nodes declare, in order. -/
def declaredEntries (separator : String) : List Node → List (Entry S ω)
  | [] => []
  | x :: more => (declared? separator more x).toList ++ declaredEntries separator more
end

end Items

end UiMarkup
