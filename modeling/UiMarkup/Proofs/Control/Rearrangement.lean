import Mathlib.Data.List.Perm.Basic
import UiMarkup.Proofs.Control.Acceptance

/-!
# UiMarkup.Proofs.Control.Rearrangement

The order of the nodes in an element, and where it matters.  The nodes of the
elements of a document may be put in any order, at any depth, if four sequences
keep theirs: child elements that stand for children, tabs and menus, and the
attributes that stand for the entries of a menu.

* `Rearranged`: the same document in another order;
* `Alike`: what the schema sees of two elements in such an order, a relation
  that does not tell the first from the second;
* `Layer.of_alike`: one layer of the schema;
* `ofElement_eq_ok_iff_of_rearranged`: rearranged documents are read alike.
-/

namespace UiMarkup

/-! ## the same document in another order -/

namespace Node

/-- Whether a node is an element of this name. -/
def isElement (name : String) : Node → Bool
  | .attr _ => false
  | .elem n _ => n == name

/-- Whether a node is an attribute of one of these names. -/
def isAttribute (names : List String) : Node → Bool
  | .attr a => names.contains a.name
  | .elem _ _ => false

end Node

namespace Control

/-- The names of the elements that keep their order among those of the same
name. -/
def orderedElements : List String := ["Child", "Tab", "DropDownMenu"]

/-- The names of the attributes that declare the entries of a menu. -/
def entryNames : List String := ["Command", "CheckItem", "Enum"]

/-- The nodes of an element of this name in another order, in which the
sequences that matter are the same. -/
structure Reordered (element : String) (nodes nodes' : List Node) : Prop where
  perm : nodes.Perm nodes'
  elements : ∀ name ∈ orderedElements,
    nodes.filter (Node.isElement name) = nodes'.filter (Node.isElement name)
  entries : element = "DropDownMenu" →
    nodes.filter (Node.isAttribute entryNames) = nodes'.filter (Node.isAttribute entryNames)

/-- The second node is the first one with the nodes of every element in another
order, at any depth. -/
inductive Rearranged : Node → Node → Prop
  | attr (a : Attribute) : Rearranged (.attr a) (.attr a)
  | elem {name : String} {nodes inside nodes' : List Node}
      (hinside : List.Forall₂ Rearranged nodes inside) (horder : Reordered name inside nodes') :
      Rearranged (.elem name nodes) (.elem name nodes')

/-! ## what the schema sees of it -/

variable {α β : Type}

/-- The same list in another order, with each entry replaced by one that is
related to it. -/
abbrev UpToOrder (rel : α → β → Prop) : List α → List β → Prop :=
  Relation.Comp (List.Forall₂ rel) List.Perm

/-- Two elements with the same attributes and with child elements that are
related, where only the sequences that matter need be in the same order. -/
structure Alike (rel : Element → Element → Prop) (e e' : Element) : Prop where
  name : e.name = e'.name
  attributes : e.attributes.Perm e'.attributes
  entries : e.name = "DropDownMenu" →
    e.attributes.filter (entryNames.contains ·.name) =
      e'.attributes.filter (entryNames.contains ·.name)
  elements : UpToOrder rel e.elements e'.elements
  sequences : ∀ name ∈ orderedElements,
    List.Forall₂ rel (e.elements.filter (·.name = name)) (e'.elements.filter (·.name = name))

variable {rel : Element → Element → Prop} {e e' : Element}

/-- Elements that are alike are so the other way round. -/
theorem Alike.flip (h : Alike rel e e') : Alike (flip rel) e' e where
  name := h.name.symm
  attributes := h.attributes.symm
  entries hname := (h.entries (h.name.trans hname)).symm
  elements := by
    obtain ⟨mid, hmid, hperm⟩ := h.elements
    exact List.perm_comp_forall₂ hperm.symm hmid.flip
  sequences name hname := (h.sequences name hname).flip

/-- Elements that are rearranged. -/
abbrev RearrangedElement (e e' : Element) : Prop :=
  Rearranged e.toNode e'.toNode

/-- Nodes that are rearranged are the same attribute, or elements that are
rearranged. -/
theorem Rearranged.views {x y : Node} (h : Rearranged x y) :
    Option.Rel (· = ·) x.attribute? y.attribute? ∧
      Option.Rel RearrangedElement x.element? y.element? := by
  cases h with
  | attr a => exact ⟨.some rfl, .none⟩
  | elem hinside horder => exact ⟨.none, .some (.elem hinside horder)⟩

theorem filterMap_element?_filter (name : String) (nodes : List Node) :
    (nodes.filter (Node.isElement name)).filterMap Node.element? =
      (nodes.filterMap Node.element?).filter (·.name = name) := by
  induction nodes with
  | nil => rfl
  | cons x nodes ih =>
      cases x with
      | attr a => exact ih
      | elem n inner =>
          have hview : (Node.elem n inner).element? = some ⟨n, inner⟩ := rfl
          by_cases hn : n = name
          · rw [List.filter_cons_of_pos (by simp [Node.isElement, hn]),
              List.filterMap_cons_some hview, List.filterMap_cons_some hview,
              List.filter_cons_of_pos (by simp [hn]), ih]
          · rw [List.filter_cons_of_neg (by simp [Node.isElement, hn]),
              List.filterMap_cons_some hview, List.filter_cons_of_neg (by simp [hn]), ih]

theorem filterMap_attribute?_filter (names : List String) (nodes : List Node) :
    (nodes.filter (Node.isAttribute names)).filterMap Node.attribute? =
      (nodes.filterMap Node.attribute?).filter (names.contains ·.name) := by
  induction nodes with
  | nil => rfl
  | cons x nodes ih =>
      cases x with
      | attr a =>
          rw [List.filter_cons, Node.isAttribute, List.filterMap_cons, Node.attribute?,
            List.filter_cons]
          split
          · rw [List.filterMap_cons, Node.attribute?, ih]
          · exact ih
      | elem n inner => exact ih

/-- Elements that are rearranged are alike. -/
theorem Rearranged.alike (h : RearrangedElement e e') : Alike RearrangedElement e e' := by
  obtain ⟨name, nodes⟩ := e
  obtain ⟨name', nodes'⟩ := e'
  cases h with
  | @elem _ _ inside _ hinside horder =>
      have hattributes : nodes.filterMap Node.attribute? = inside.filterMap Node.attribute? := by
        have hviews := fun x y (h : Rearranged x y) => h.views.1
        have h := List.rel_filterMap hviews hinside
        rwa [List.forall₂_eq_eq_eq] at h
      have helements : List.Forall₂ RearrangedElement (nodes.filterMap Node.element?)
          (inside.filterMap Node.element?) :=
        List.rel_filterMap (fun _ _ h => h.views.2) hinside
      refine ⟨rfl, ?_, fun hname => ?_, ⟨_, helements, horder.perm.filterMap _⟩, fun n hn => ?_⟩
      · have h := horder.perm.filterMap Node.attribute?
        rwa [← hattributes] at h
      · have h := congrArg (List.filterMap Node.attribute?) (horder.entries hname)
        rwa [filterMap_attribute?_filter, filterMap_attribute?_filter, ← hattributes] at h
      · have hname : ∀ x y, RearrangedElement x y →
            (decide (x.name = n) ↔ decide (y.name = n)) := by
          rintro ⟨m, xs⟩ ⟨m', ys⟩ h
          cases h
          exact Iff.rfl
        have h := congrArg (List.filterMap Node.element?) (horder.elements n hn)
        rw [filterMap_element?_filter, filterMap_element?_filter] at h
        have hfiltered := List.rel_filter (fun x y hxy => hname x y hxy) helements
        rwa [h] at hfiltered

/-! ## how many -/

variable {means : α → β → Prop} {found found' : List α}

/-- At most one thing was found, whatever the order, and what is related to it
means the same. -/
theorem AtMostOne.of_upToOrder {means' : α → β → Prop} {r : α → α → Prop} {meant : Option β}
    (h : AtMostOne means found meant) (hfound : UpToOrder r found found')
    (hmeans : ∀ a a' b, r a a' → means a b → means' a' b) : AtMostOne means' found' meant := by
  obtain ⟨mid, hmid, hperm⟩ := hfound
  cases h with
  | none =>
      obtain rfl := List.forall₂_nil_left_iff.1 hmid
      obtain rfl := List.nil_perm.1 hperm
      exact .none
  | one h =>
      obtain ⟨a', _, ha', hnil, rfl⟩ := List.forall₂_cons_left_iff.1 hmid
      obtain rfl := List.forall₂_nil_left_iff.1 hnil
      obtain rfl := List.singleton_perm.1 hperm
      exact .one (hmeans _ _ _ ha' h)

/-- Exactly one thing that means this is at most one thing, and that there. -/
theorem atMostOne_some_iff {meant : β} :
    AtMostOne means found (some meant) ↔ ExactlyOne means found meant :=
  ⟨fun (.one h) => .one h, fun (.one h) => .one h⟩

theorem ExactlyOne.of_upToOrder {means' : α → β → Prop} {r : α → α → Prop} {meant : β}
    (h : ExactlyOne means found meant) (hfound : UpToOrder r found found')
    (hmeans : ∀ a a' b, r a a' → means a b → means' a' b) : ExactlyOne means' found' meant :=
  atMostOne_some_iff.1 ((atMostOne_some_iff.2 h).of_upToOrder hfound hmeans)

/-- Only the order of the same things need not be the same. -/
theorem upToOrder_of_perm (h : found.Perm found') : UpToOrder (· = ·) found found' :=
  ⟨found, List.forall₂_refl found, h⟩

theorem AtMostOne.of_perm {meant : Option β} (h : AtMostOne means found meant)
    (hperm : found.Perm found') : AtMostOne means found' meant :=
  h.of_upToOrder (upToOrder_of_perm hperm) fun _ _ _ heq h => heq ▸ h

theorem ExactlyOne.of_perm {meant : β} (h : ExactlyOne means found meant)
    (hperm : found.Perm found') : ExactlyOne means found' meant :=
  h.of_upToOrder (upToOrder_of_perm hperm) fun _ _ _ heq h => heq ▸ h

theorem OrDefault.of_perm {default meant : β} (h : OrDefault means default found meant)
    (hperm : found.Perm found') : OrDefault means default found' meant := by
  obtain ⟨said, hsaid, hdefault⟩ := h
  exact ⟨said, hsaid.of_perm hperm, hdefault⟩

/-- What each of a list means is meant by what stands in its place. -/
theorem forall₂_of_forall₂ {means' : α → β → Prop} {r : α → α → Prop} {ys : List β}
    (h : List.Forall₂ means found ys) (hfound : List.Forall₂ r found found')
    (hmeans : ∀ a ∈ found, ∀ a' b, r a a' → means a b → means' a' b) :
    List.Forall₂ means' found' ys := by
  induction h generalizing found' with
  | nil =>
      obtain rfl := List.forall₂_nil_left_iff.1 hfound
      exact .nil
  | cons h _ ih =>
      obtain ⟨a', more, ha', hmore, rfl⟩ := List.forall₂_cons_left_iff.1 hfound
      exact .cons (hmeans _ List.mem_cons_self _ _ ha' h)
        (ih hmore fun a ha => hmeans a (List.mem_cons_of_mem _ ha))

/-! ## names -/

theorem Alike.attributes_filter (h : Alike rel e e') (name : String) :
    (e.attributes.filter (·.name = name)).Perm (e'.attributes.filter (·.name = name)) :=
  h.attributes.filter _

/-- What is demanded of each attribute does not hang on their order. -/
theorem Alike.forall_attributes (h : Alike rel e e') {p : Attribute → Prop}
    (hp : ∀ a ∈ e.attributes, p a) : ∀ a ∈ e'.attributes, p a :=
  fun a ha => hp a (h.attributes.mem_iff.2 ha)

theorem Alike.attributes_eq_nil (h : Alike rel e e') (hnil : e.attributes = []) :
    e'.attributes = [] :=
  List.nil_perm.1 (hnil ▸ h.attributes)

theorem Alike.elements_eq_nil (h : Alike rel e e') (hnil : e.elements = []) :
    e'.elements = [] := by
  obtain ⟨mid, hmid, hperm⟩ := h.elements
  rw [hnil] at hmid
  obtain rfl := List.forall₂_nil_left_iff.1 hmid
  exact List.nil_perm.1 hperm

section

variable (hrel : ∀ x y, rel x y → Alike rel x y)

include hrel

/-- What is demanded of the name of each child element does not hang on their
order. -/
theorem Alike.forall_elements (h : Alike rel e e') {p : String → Prop}
    (hp : ∀ child ∈ e.elements, p child.name) : ∀ child ∈ e'.elements, p child.name := by
  obtain ⟨mid, hmid, hperm⟩ := h.elements
  intro child hchild
  obtain ⟨x, hx, hxchild⟩ := exists_of_forall₂ hmid (hperm.mem_iff.2 hchild)
  rw [← (hrel x child hxchild).name]
  exact hp x hx

/-- Child elements of a name are alike as well. -/
theorem Alike.elements_filter (h : Alike rel e e') (name : String) :
    UpToOrder rel (e.elements.filter (·.name = name)) (e'.elements.filter (·.name = name)) := by
  obtain ⟨mid, hmid, hperm⟩ := h.elements
  have hname : ∀ x y, rel x y → (decide (x.name = name) ↔ decide (y.name = name)) :=
    fun x y hxy => by rw [(hrel x y hxy).name]
  exact ⟨_, List.rel_filter (fun x y hxy => hname x y hxy) hmid, hperm.filter _⟩

/-! ## parts of the schema -/

omit hrel in
theorem DescribesMargin.of_alike {t : Margin} (h : DescribesMargin e t) (halike : Alike rel e e') :
    DescribesMargin e' t where
  attributes := halike.forall_attributes h.attributes
  elements := halike.elements_eq_nil h.elements
  left := h.left.of_perm (halike.attributes_filter _)
  top := h.top.of_perm (halike.attributes_filter _)
  right := h.right.of_perm (halike.attributes_filter _)
  bottom := h.bottom.of_perm (halike.attributes_filter _)

/-- The margin does not hang on the order in which it stands. -/
theorem Alike.margin {margin : Option Margin} (halike : Alike rel e e')
    (h : AtMostOne DescribesMargin (e.elements.filter (·.name = "Margin")) margin) :
    AtMostOne DescribesMargin (e'.elements.filter (·.name = "Margin")) margin :=
  h.of_upToOrder (halike.elements_filter hrel _) fun x y _ hxy h => h.of_alike (hrel x y hxy)

omit hrel in
/-- Where only entries and titles stand, the entries are what is no title. -/
theorem filter_entryNames {attrs : List Attribute}
    (h : ∀ a ∈ attrs, a.name ∈ ["Item", "Command", "CheckItem", "Enum"]) :
    attrs.filter (entryNames.contains ·.name) = attrs.filter (·.name ≠ "Item") := by
  refine List.filter_congr fun a ha => ?_
  have hname := h a ha
  simp only [List.mem_cons, List.not_mem_nil, or_false] at hname
  rcases hname with hname | hname | hname | hname <;> rw [hname] <;> rfl

omit hrel in
theorem DescribesMenu.of_alike {m : Menu} (hname : e.name = "DropDownMenu")
    (h : DescribesMenu e m) (halike : Alike rel e e') : DescribesMenu e' m where
  attributes := halike.forall_attributes h.attributes
  elements := halike.elements_eq_nil h.elements
  title := h.title.of_perm (halike.attributes_filter _)
  entries := by
    have hentries := halike.entries hname
    rw [filter_entryNames h.attributes,
      filter_entryNames (halike.forall_attributes h.attributes)] at hentries
    exact hentries ▸ h.entries

variable {inner inner' : Element → Control → Prop}
  (hinner : ∀ x y c, rel x y → inner x c → inner' y c)

include hinner

omit hrel in
theorem DescribesLinearChild.of_alike {child : LinearChild Control}
    (h : DescribesLinearChild inner e child) (halike : Alike rel e e') :
    DescribesLinearChild inner' e' child := by
  obtain ⟨hattributes, hweight, hcontrol⟩ := h
  exact .mk (halike.forall_attributes hattributes) (hweight.of_perm (halike.attributes_filter _))
    (hcontrol.of_upToOrder halike.elements hinner)

omit hrel in
theorem DescribesGridChild.of_alike {child : GridChild Control}
    (h : DescribesGridChild inner e child) (halike : Alike rel e e') :
    DescribesGridChild inner' e' child := by
  obtain ⟨hattributes, hcolumn, hrow, hcontrol⟩ := h
  exact .mk (halike.forall_attributes hattributes) (hcolumn.of_perm (halike.attributes_filter _))
    (hrow.of_perm (halike.attributes_filter _)) (hcontrol.of_upToOrder halike.elements hinner)

omit hrel in
theorem DescribesContent.of_alike {c : Control} (h : DescribesContent inner e c)
    (halike : Alike rel e e') : DescribesContent inner' e' c := by
  obtain ⟨hattributes, hcontrol⟩ := h
  exact .mk (halike.attributes_eq_nil hattributes) (hcontrol.of_upToOrder halike.elements hinner)

theorem DescribesTab.of_alike {tab : Tab Control} (h : DescribesTab inner e tab)
    (halike : Alike rel e e') : DescribesTab inner' e' tab := by
  obtain ⟨hattributes, helements, htitle, hcontent⟩ := h
  exact .mk (halike.forall_attributes hattributes)
    (halike.forall_elements hrel (p := (· = "Content")) helements)
    (htitle.of_perm (halike.attributes_filter _))
    (hcontent.of_upToOrder (halike.elements_filter hrel _) fun x y c hxy h =>
      h.of_alike hinner (hrel x y hxy))

/-! ## one layer -/

/-- Elements that are alike describe the same control, if that is so of the
elements inside. -/
theorem Layer.of_alike {c : Control} (h : Layer inner e c) (halike : Alike rel e e') :
    Layer inner' e' c := by
  have hname : ∀ {name : String}, e.name = name → e'.name = name := fun h =>
    halike.name.symm.trans h
  cases h with
  | linearLayout name hattributes helements hdirection hslots hmargins =>
      refine .linearLayout (hname name) (halike.forall_attributes hattributes)
        (halike.forall_elements hrel (p := (· ∈ ["Child", "Margin"])) helements)
        (hdirection.of_perm (halike.attributes_filter _)) ?_ (halike.margin hrel hmargins)
      exact forall₂_of_forall₂ hslots (halike.sequences "Child" (by decide))
        fun x _ y _ hxy h => h.of_alike hinner (hrel x y hxy)
  | gridLayout name hattributes helements hslots =>
      refine .gridLayout (hname name) (halike.attributes_eq_nil hattributes)
        (halike.forall_elements hrel (p := (· = "Child")) helements) ?_
      exact forall₂_of_forall₂ hslots (halike.sequences "Child" (by decide))
        fun x _ y _ hxy h => h.of_alike hinner (hrel x y hxy)
  | tabControl name hattributes helements hslots =>
      refine .tabControl (hname name) (halike.attributes_eq_nil hattributes)
        (halike.forall_elements hrel (p := (· = "Tab")) helements) ?_
      exact forall₂_of_forall₂ hslots (halike.sequences "Tab" (by decide))
        fun x _ y _ hxy h => h.of_alike hrel hinner (hrel x y hxy)
  | menuBar name hattributes helements hslots =>
      refine .menuBar (hname name) (halike.attributes_eq_nil hattributes)
        (halike.forall_elements hrel (p := (· = "DropDownMenu")) helements) ?_
      exact forall₂_of_forall₂ hslots (halike.sequences "DropDownMenu" (by decide))
        fun x hx y _ hxy h => h.of_alike (name_of_mem_elements_filter hx) (hrel x y hxy)
  | button name hattributes helements hcommands hmargins =>
      exact .button (hname name) (halike.forall_attributes hattributes)
        (halike.forall_elements hrel (p := (· = "Margin")) helements)
        (hcommands.of_perm (halike.attributes_filter _)) (halike.margin hrel hmargins)
  | checkBox name hattributes helements hmargins =>
      exact .checkBox (hname name) (halike.attributes_eq_nil hattributes)
        (halike.forall_elements hrel (p := (· = "Margin")) helements)
        (halike.margin hrel hmargins)
  | textBox name hattributes helements hmultiLines hitems =>
      exact .textBox (hname name) (halike.forall_attributes hattributes)
        (halike.elements_eq_nil helements) (hmultiLines.of_perm (halike.attributes_filter _))
        (hitems.of_perm (halike.attributes_filter _))
  | label name hattributes helements hitems =>
      exact .label (hname name) (halike.forall_attributes hattributes)
        (halike.elements_eq_nil helements) (hitems.of_perm (halike.attributes_filter _))
  | nothing name hattributes helements =>
      exact .nothing (hname name) (halike.attributes_eq_nil hattributes)
        (halike.elements_eq_nil helements)

omit hinner

/-! ## the whole tree -/

/-- If related elements are alike, what is read from the first is read from the
second. -/
theorem ofElement_of_rel {c : Control} (h : ofElement e = .ok c) (he : rel e e') :
    ofElement e' = .ok c := by
  refine ofElement_induction (p := fun e c => ∀ e', rel e e' → ofElement e' = .ok c)
    (fun e c h e' he => ?_) h e' he
  refine (ofElement_eq_ok_iff_layer fun _ _ _ => Iff.rfl).2 ?_
  exact h.of_alike hrel (fun x y c hxy hx => hx.2 y hxy) (hrel e e' he)

end

/-- **Order matters only where the schema says so**: a document with the nodes
of its elements in another order, at any depth, is read exactly if the document
itself is, and as the same control, if the children, tabs and menus and the
entries of menus stand in their order. -/
theorem ofElement_eq_ok_iff_of_rearranged (h : RearrangedElement e e') (c : Control) :
    ofElement e = .ok c ↔ ofElement e' = .ok c :=
  ⟨fun hread => ofElement_of_rel (fun _ _ h => h.alike) hread h,
    fun hread => ofElement_of_rel (fun _ _ h => (Rearranged.alike h).flip) hread
      (show flip RearrangedElement e' e from h)⟩

/-- A menu whose title stands in front of the entries. -/
def titleFirst : Node :=
  .elem "DropDownMenu" [
    .attr ⟨"Item", [some "File"]⟩,
    .attr ⟨"Command", [some "Save"]⟩,
    .attr ⟨"Enum", [some "Mode"]⟩]

/-- The same menu with the title between the entries. -/
def titleBetween : Node :=
  .elem "DropDownMenu" [
    .attr ⟨"Command", [some "Save"]⟩,
    .attr ⟨"Item", [some "File"]⟩,
    .attr ⟨"Enum", [some "Mode"]⟩]

/-- A layout with the margin in front of all children, and with a weight in
front of a control. -/
def orderedElement : Element :=
  ⟨"LinearLayout", [
    .attr ⟨"Direction", [some "Vertical"]⟩,
    .elem "Margin" [.attr ⟨"Left", [some "4"]⟩],
    .elem "Child" [.attr ⟨"Weight", [some "2"]⟩, .elem "MenuBar" [titleFirst]],
    .elem "Child" [.elem "Button" []]]⟩

/-- The same layout with the margin between the children and the weight behind
the control. -/
def reorderedElement : Element :=
  ⟨"LinearLayout", [
    .elem "Child" [.elem "MenuBar" [titleBetween], .attr ⟨"Weight", [some "2"]⟩],
    .elem "Margin" [.attr ⟨"Left", [some "4"]⟩],
    .elem "Child" [.elem "Button" []],
    .attr ⟨"Direction", [some "Vertical"]⟩]⟩

set_option maxRecDepth 4000 in
/-- Both are read, as the same control. -/
theorem ofElement_eq_ok_iff_of_rearranged_layout :
    RearrangedElement orderedElement reorderedElement ∧
      ∃ c, ofElement orderedElement = .ok c ∧ ofElement reorderedElement = .ok c := by
  have hsame : ∀ {name : String} {nodes : List Node}, Reordered name nodes nodes :=
    ⟨.refl _, fun _ _ => rfl, fun _ => rfl⟩
  have hmenu : Rearranged titleFirst titleBetween :=
    .elem (.cons (.attr _) (.cons (.attr _) (.cons (.attr _) .nil)))
      ⟨by decide, by decide, by decide⟩
  have hchild : Rearranged
      (.elem "Child" [.attr ⟨"Weight", [some "2"]⟩, .elem "MenuBar" [titleFirst]])
      (.elem "Child" [.elem "MenuBar" [titleBetween], .attr ⟨"Weight", [some "2"]⟩]) :=
    .elem (.cons (.attr _) (.cons (.elem (.cons hmenu .nil) hsame) .nil))
      ⟨by decide, by decide, by decide⟩
  have hlayout : RearrangedElement orderedElement reorderedElement :=
    .elem (.cons (.attr _) (.cons (.elem (.cons (.attr _) .nil) hsame) (.cons hchild
      (.cons (.elem (.cons (.elem .nil hsame) .nil) hsame) .nil))))
      ⟨by decide, by decide, by decide⟩
  obtain ⟨c, hread⟩ : ∃ c, ofElement orderedElement = .ok c := ⟨_, rfl⟩
  exact ⟨hlayout, c, hread, (ofElement_eq_ok_iff_of_rearranged hlayout c).1 hread⟩

end Control

end UiMarkup
