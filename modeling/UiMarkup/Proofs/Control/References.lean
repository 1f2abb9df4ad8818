import UiMarkup.Proofs.Control.Acceptance

/-!
# UiMarkup.Proofs.Control.References

The paths to items that a document refers to, and those of the control that is
read from it.  The walk over the document knows the names of elements and
attributes and nothing else, not even which elements are controls; it visits
the nodes in the order in which they are written.

* `documentPaths`: the walk;
* `Layer.documentPaths_eq`: one layer of the schema hands the paths on;
* `itemPaths_eq_documentPaths`: a control refers to what its document refers to.
-/

namespace UiMarkup.Control

variable {α β : Type}

/-! ## the walk -/

/-- The names of the attributes by which an element of this name refers to
items. -/
def referring (element : String) : List String :=
  match element with
  | "Button" => ["Command"]
  | "TextBox" => ["Item"]
  | "Label" => ["Item"]
  | "DropDownMenu" => ["Command", "CheckItem", "Enum"]
  | _ => []

/-- The paths that an attribute refers to, in an element of this name: all its
texts. -/
def attributePaths (element : String) (a : Attribute) : List String :=
  if a.name ∈ referring element then a.values.filterMap id else []

mutual
/-- The paths that a node refers to, in an element of this name. -/
def nodePaths (element : String) : Node → List String
  | .attr a => attributePaths element a
  | .elem name nodes => nodesPaths name nodes

/-- The paths that nodes refer to, in an element of this name, node by node. -/
def nodesPaths (element : String) : List Node → List String
  | [] => []
  | x :: more => nodePaths element x ++ nodesPaths element more
end

/-- The paths that a document refers to, in the order in which they are
written. -/
def documentPaths (e : Element) : List String :=
  nodesPaths e.name e.nodes

/-! ## attributes and elements apart -/

/-- An element that refers to nothing by attributes refers to what its child
elements refer to. -/
theorem documentPaths_of_elements {e : Element} (h : referring e.name = []) :
    documentPaths e = e.elements.flatMap documentPaths := by
  obtain ⟨name, nodes⟩ := e
  rw [documentPaths]
  induction nodes with
  | nil => rfl
  | cons x more ih =>
      rw [nodesPaths, ih h]
      cases x with
      | attr a =>
          have hrefers : a.name ∉ referring name := by
            rw [h]
            exact List.not_mem_nil
          rw [nodePaths, attributePaths, if_neg hrefers, elements_cons_attr, List.nil_append]
      | elem n nodes =>
          rw [nodePaths, elements_cons_elem, List.flatMap_cons]
          rfl

/-- An element whose child elements refer to nothing refers to what its
attributes refer to. -/
theorem documentPaths_of_attributes {e : Element}
    (h : ∀ child ∈ e.elements, documentPaths child = []) :
    documentPaths e = e.attributes.flatMap (attributePaths e.name) := by
  obtain ⟨name, nodes⟩ := e
  rw [documentPaths]
  induction nodes with
  | nil => rfl
  | cons x more ih =>
      rw [nodesPaths]
      cases x with
      | attr a =>
          rw [ih h, nodePaths]
          rfl
      | elem n nodes =>
          rw [elements_cons_elem] at h
          have hnothing : nodesPaths n nodes = [] := h _ List.mem_cons_self
          rw [ih fun child hchild => h child (List.mem_cons_of_mem _ hchild), nodePaths, hnothing]
          rfl

/-- What contributes nothing may be left out. -/
theorem flatMap_filter {f : α → List β} {p : α → Bool} {xs : List α}
    (h : ∀ x ∈ xs, p x = false → f x = []) : (xs.filter p).flatMap f = xs.flatMap f := by
  induction xs with
  | nil => rfl
  | cons x xs ih =>
      have hxs := ih fun y hy => h y (List.mem_cons_of_mem x hy)
      cases hx : p x with
      | true => rw [List.filter_cons_of_pos hx, List.flatMap_cons, List.flatMap_cons, hxs]
      | false =>
          rw [List.filter_cons_of_neg (by simp [hx]), List.flatMap_cons, hxs,
            h x List.mem_cons_self hx, List.nil_append]

/-- An element that refers to nothing by attributes refers to what the child
elements of a name refer to, if the others refer to nothing. -/
theorem documentPaths_of_elements_filter {e : Element} (name : String) (h : referring e.name = [])
    (hothers : ∀ child ∈ e.elements, child.name ≠ name → documentPaths child = []) :
    documentPaths e = (e.elements.filter (·.name = name)).flatMap documentPaths := by
  rw [documentPaths_of_elements h]
  exact (flatMap_filter fun child hchild hname => hothers child hchild (by simpa using hname)).symm

/-! ## parts of the schema -/

/-- An attribute that refers to items refers to its only text. -/
theorem attributePaths_of_hasText {element s : String} {a : Attribute}
    (hname : a.name ∈ referring element) (h : a.HasText s) : attributePaths element a = [s] := by
  rw [attributePaths, if_pos hname, h]
  rfl

/-- An element with one attribute to refer by refers to the text of that, if it
has one, and to nothing else. -/
theorem documentPaths_of_text {e : Element} {name : String} {text : Option String}
    (hname : referring e.name = [name]) (helements : ∀ child ∈ e.elements, documentPaths child = [])
    (h : AtMostOne Attribute.HasText (e.attributes.filter (·.name = name)) text) :
    documentPaths e = text.toList := by
  have hothers : ∀ a ∈ e.attributes, decide (a.name = name) = false →
      attributePaths e.name a = [] := by
    intro a _ ha
    rw [attributePaths, hname, if_neg (by simpa using ha)]
  have hrefers : ∀ a ∈ e.attributes.filter (·.name = name), a.name ∈ referring e.name := by
    intro a ha
    rw [hname, of_decide_eq_true (List.mem_filter.1 ha).2]
    exact List.mem_singleton_self name
  rw [documentPaths_of_attributes helements, ← flatMap_filter hothers]
  generalize e.attributes.filter (·.name = name) = found at h hrefers
  cases h with
  | none => rfl
  | one h =>
      rw [List.flatMap_singleton, attributePaths_of_hasText (hrefers _ List.mem_cons_self) h]
      rfl

theorem documentPaths_of_describesMargin {slot : Element} {t : Margin}
    (hname : slot.name = "Margin") (h : DescribesMargin slot t) : documentPaths slot = [] := by
  rw [documentPaths_of_elements (by rw [hname]; rfl), h.elements]
  rfl

/-- A child element for the margin refers to nothing. -/
theorem documentPaths_of_margins {e child : Element} {margin : Option Margin}
    (h : AtMostOne DescribesMargin (e.elements.filter (·.name = "Margin")) margin)
    (hchild : child ∈ e.elements) (hname : child.name = "Margin") : documentPaths child = [] := by
  have hmem : child ∈ e.elements.filter (·.name = "Margin") :=
    List.mem_filter.2 ⟨hchild, decide_eq_true hname⟩
  generalize e.elements.filter (·.name = "Margin") = found at h hmem
  cases h with
  | none => cases hmem
  | one h => exact documentPaths_of_describesMargin hname (List.mem_singleton.1 hmem ▸ h)

/-- A menu refers to the paths of its entries. -/
theorem documentPaths_of_describesMenu {e : Element} {m : Menu} (hname : e.name = "DropDownMenu")
    (h : DescribesMenu e m) : documentPaths e = m.entries.map MenuEntry.path := by
  have hothers : ∀ a ∈ e.attributes, decide (a.name ≠ "Item") = false →
      attributePaths e.name a = [] := by
    intro a _ ha
    have htitle : a.name = "Item" := by simpa using ha
    rw [attributePaths, hname, htitle]
    rfl
  have hentry : ∀ a entry, DescribesEntry a entry →
      attributePaths e.name a = [entry.path] := by
    intro a entry hentry
    refine attributePaths_of_hasText ?_ hentry.2
    rw [hentry.1, hname]
    cases entry <;> simp [entryTag, referring]
  rw [documentPaths_of_attributes (by simp [h.elements]), ← flatMap_filter hothers,
    flatMap_eq_of_forall₂ h.entries fun a _ => hentry a]
  exact List.map_eq_flatMap.symm

/-! ## one layer of the schema -/

variable {inner : Element → Control → Prop}

/-- A slot that refers to nothing by attributes refers to what its only element
refers to. -/
theorem documentPaths_of_exactlyOne (hinner : ∀ e c, inner e c → documentPaths e = c.itemPaths)
    {slot : Element} {c : Control} (hname : referring slot.name = [])
    (h : ExactlyOne inner slot.elements c) : documentPaths slot = c.itemPaths := by
  rw [documentPaths_of_elements hname]
  generalize slot.elements = found at h
  obtain ⟨h⟩ := h
  rw [List.flatMap_singleton, hinner _ c h]

/-- A tab refers to what its content refers to, if it has one. -/
theorem documentPaths_of_describesTab (hinner : ∀ e c, inner e c → documentPaths e = c.itemPaths)
    {e : Element} {tab : Tab Control} (hname : e.name = "Tab") (h : DescribesTab inner e tab) :
    documentPaths e = tab.content.toList.flatMap itemPaths := by
  obtain ⟨title, content⟩ := tab
  obtain ⟨-, helements, -, hcontent⟩ := h
  have hslots : ∀ slot ∈ e.elements.filter (·.name = "Content"), referring slot.name = [] := by
    intro slot hslot
    rw [name_of_mem_elements_filter hslot]
    rfl
  rw [documentPaths_of_elements_filter "Content" (by rw [hname]; rfl)
    fun child hchild hne => absurd (helements child hchild) hne]
  generalize e.elements.filter (·.name = "Content") = found at hcontent hslots
  cases hcontent with
  | none => rfl
  | one h =>
      obtain ⟨-, hcontrol⟩ := h
      rw [List.flatMap_singleton,
        documentPaths_of_exactlyOne hinner (hslots _ List.mem_cons_self) hcontrol]
      exact (List.flatMap_singleton ..).symm

variable {e : Element} {c : Control}

/-- A control refers to what its element refers to, if that is so of the
elements inside. -/
theorem Layer.documentPaths_eq (hinner : ∀ e c, inner e c → documentPaths e = c.itemPaths)
    (h : Layer inner e c) : documentPaths e = c.itemPaths := by
  rw [itemPaths_eq]
  cases h with
  | linearLayout name _ helements _ hslots hmargins =>
      have hothers : ∀ child ∈ e.elements, child.name ≠ "Child" → documentPaths child = [] := by
        intro child hchild hne
        have hmargin : child.name = "Margin" := by
          simpa [hne] using helements child hchild
        exact documentPaths_of_margins hmargins hchild hmargin
      have hslot : ∀ slot ∈ e.elements.filter (·.name = "Child"), ∀ child,
          DescribesLinearChild inner slot child →
            documentPaths slot = child.control.itemPaths := by
        intro slot hslot child h
        obtain ⟨-, -, hcontrol⟩ := h
        have hname : referring slot.name = [] := by
          rw [name_of_mem_elements_filter hslot]
          rfl
        exact documentPaths_of_exactlyOne hinner hname hcontrol
      rw [documentPaths_of_elements_filter "Child" (by rw [name]; rfl) hothers,
        flatMap_eq_of_forall₂ hslots hslot, children, List.flatMap_map]
      rfl
  | gridLayout name _ helements hslots =>
      have hslot : ∀ slot ∈ e.elements.filter (·.name = "Child"), ∀ child,
          DescribesGridChild inner slot child →
            documentPaths slot = child.control.itemPaths := by
        intro slot hslot child h
        obtain ⟨-, -, -, hcontrol⟩ := h
        have hname : referring slot.name = [] := by
          rw [name_of_mem_elements_filter hslot]
          rfl
        exact documentPaths_of_exactlyOne hinner hname hcontrol
      rw [documentPaths_of_elements_filter "Child" (by rw [name]; rfl)
          fun child hchild hne => absurd (helements child hchild) hne,
        flatMap_eq_of_forall₂ hslots hslot, children, List.flatMap_map]
      rfl
  | tabControl name _ helements hslots =>
      rw [documentPaths_of_elements_filter "Tab" (by rw [name]; rfl)
          fun child hchild hne => absurd (helements child hchild) hne,
        flatMap_eq_of_forall₂ hslots fun tab htab _ =>
          documentPaths_of_describesTab hinner (name_of_mem_elements_filter htab), children,
        List.filterMap_eq_flatMap_toList, List.flatMap_assoc]
      rfl
  | menuBar name _ helements hslots =>
      rw [documentPaths_of_elements_filter "DropDownMenu" (by rw [name]; rfl)
          fun child hchild hne => absurd (helements child hchild) hne,
        flatMap_eq_of_forall₂ hslots fun menu hmenu _ =>
          documentPaths_of_describesMenu (name_of_mem_elements_filter hmenu)]
      exact (List.append_nil _).symm
  | button name _ helements hcommands hmargins =>
      rw [documentPaths_of_text (by rw [name]; rfl)
        (fun child hchild => documentPaths_of_margins hmargins hchild (helements child hchild))
        hcommands]
      exact (List.append_nil _).symm
  | checkBox name _ helements hmargins =>
      rw [documentPaths_of_elements_filter "Margin" (by rw [name]; rfl)
        fun child hchild hne => absurd (helements child hchild) hne]
      exact List.flatMap_eq_nil_iff.2 fun child hchild =>
        documentPaths_of_margins hmargins (List.mem_of_mem_filter hchild)
          (name_of_mem_elements_filter hchild)
  | textBox name _ helements _ hitems =>
      rw [documentPaths_of_text (by rw [name]; rfl) (by simp [helements]) hitems]
      exact (List.append_nil _).symm
  | label name _ helements hitems =>
      rw [documentPaths_of_text (by rw [name]; rfl) (by simp [helements]) hitems]
      exact (List.append_nil _).symm
  | nothing name _ helements =>
      rw [documentPaths_of_elements (by rw [name]; rfl), helements]
      rfl

/-! ## the whole tree -/

/-- **A control refers to what its document refers to**: the paths of a control
that was read are the texts of the attributes by which the elements of the
document refer to items, from the first to the last, at any depth. -/
theorem itemPaths_eq_documentPaths (h : ofElement e = .ok c) : c.itemPaths = documentPaths e := by
  refine ofElement_induction (p := fun e c => c.itemPaths = documentPaths e) (fun e c h => ?_) h
  exact (h.documentPaths_eq fun child x hchild => hchild.2.symm).symm

/-- The element of a layout with a menu whose title stands between its entries,
and with tabs of which the first has no content. -/
def mixedElement : Element :=
  ⟨"LinearLayout", [
    .elem "Child" [.elem "MenuBar" [.elem "DropDownMenu" [
      .attr ⟨"Command", [some "Save"]⟩,
      .attr ⟨"Item", [some "File"]⟩,
      .attr ⟨"Enum", [some "Mode"]⟩,
      .attr ⟨"CheckItem", [some "AutoSave"]⟩]]],
    .elem "Margin" [],
    .elem "Child" [.elem "TabControl" [
      .elem "Tab" [.attr ⟨"Title", [some "Empty"]⟩],
      .elem "Tab" [.elem "Content" [.elem "GridLayout" [.elem "Child" [
        .elem "TextBox" [.attr ⟨"Item", [some "UserName"]⟩],
        .attr ⟨"Row", [some "0"]⟩,
        .attr ⟨"Column", [some "0"]⟩]]]]]],
    .attr ⟨"Direction", [some "Vertical"]⟩,
    .elem "Child" [.elem "Button" [.elem "Margin" [], .attr ⟨"Command", [some "Save"]⟩]]]⟩

set_option maxRecDepth 4000 in
/-- The layout refers to the entries, the item of the text box and the command
of the button, and to no title. -/
theorem itemPaths_eq_documentPaths_mixed :
    ∃ c, ofElement mixedElement = .ok c ∧
      c.itemPaths = ["Save", "Mode", "AutoSave", "UserName", "Save"] := by
  obtain ⟨c, hread⟩ : ∃ c, ofElement mixedElement = .ok c := ⟨_, rfl⟩
  exact ⟨c, hread, (itemPaths_eq_documentPaths hread).trans (by decide)⟩

end UiMarkup.Control
