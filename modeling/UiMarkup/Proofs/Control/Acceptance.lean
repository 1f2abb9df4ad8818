import UiMarkup.Proofs.Control.Parts
import UiMarkup.Proofs.Document.Within

/-!
# UiMarkup.Proofs.Control.Acceptance

The reader of controls accepts the schema and nothing else.  The loops over
child elements are brought into the form "read each element of this name", and
one layer of the reader is matched with one layer of the schema, for any
meaning of the elements inside:

* `ofElement_eq_ok_iff_layer`: one layer;
* `ofElement_induction`: layer upon layer, from the inside out;
* `ofElement_eq_ok_iff_describes`: the whole tree.
-/

namespace UiMarkup.Control

variable {α : Type}

/-! ## child elements -/

theorem elements_cons_attr (name : String) (a : Attribute) (more : List Node) :
    (Element.mk name (.attr a :: more)).elements = (Element.mk name more).elements := rfl

theorem elements_cons_elem (name n : String) (nodes more : List Node) :
    (Element.mk name (.elem n nodes :: more)).elements =
      ⟨n, nodes⟩ :: (Element.mk name more).elements := rfl

/-- A loop over nodes that skips all but the child elements of one name reads
each of those. -/
theorem loop_eq_mapM {loop : List Node → Except Error (List α)}
    {read : Element → Except Error α} {name : String} (hnil : loop [] = .ok [])
    (hattr : ∀ a more, loop (.attr a :: more) = loop more)
    (helem : ∀ n nodes more, loop (.elem n nodes :: more) =
      if n = name then (do
        let x ← read ⟨n, nodes⟩
        let xs ← loop more
        .ok (x :: xs))
      else loop more) (e : Element) :
    loop e.nodes = (e.elements.filter (·.name = name)).mapM read := by
  obtain ⟨outer, nodes⟩ := e
  dsimp only
  induction nodes with
  | nil => exact hnil
  | cons x more ih =>
      cases x with
      | attr a => rw [hattr, elements_cons_attr, ih]
      | elem n nodes =>
          rw [helem, elements_cons_elem]
          by_cases hn : n = name
          · rw [if_pos hn, List.filter_cons_of_pos (by simp [hn]), List.mapM_cons, ih]
            rfl
          · rw [if_neg hn, List.filter_cons_of_neg (by simp [hn]), ih]

/-- The reader of a slot looks at its first child element. -/
theorem firstControl_eq (e : Element) :
    firstControl e.name e.nodes =
      match e.elements with
      | [] => .error (.document (.elementCount e.name 1 0))
      | child :: _ => ofElement child := by
  obtain ⟨outer, nodes⟩ := e
  induction nodes with
  | nil => rw [firstControl]; rfl
  | cons x more ih =>
      cases x with
      | attr a => rw [firstControl, elements_cons_attr, ← ih]
      | elem n nodes =>
          rw [firstControl, elements_cons_elem]
          rfl

/-- Reading the content of a tab. -/
def readContent (slot : Element) : Except Error Control := do
  liftDocument (requireContent slot)
  firstControl slot.name slot.nodes

/-- The reader of a tab looks at its first child element named `Content`. -/
theorem contentOf_eq (e : Element) :
    contentOf e.nodes =
      match e.elements.filter (·.name = "Content") with
      | [] => .ok none
      | slot :: _ => readContent slot >>= fun c => .ok (some c) := by
  obtain ⟨outer, nodes⟩ := e
  dsimp only
  induction nodes with
  | nil => rw [contentOf]; rfl
  | cons x more ih =>
      cases x with
      | attr a => rw [contentOf, elements_cons_attr, ih]
      | elem n nodes =>
          rw [contentOf, elements_cons_elem]
          by_cases hn : n = "Content"
          · rw [if_pos hn, List.filter_cons_of_pos (by simp [hn])]
            simp only [readContent, bind_assoc]
          · rw [if_neg hn, List.filter_cons_of_neg (by simp [hn]), ih]

/-! ## slots -/

/-- Reading one child of a linear layout. -/
def readLinearChild (slot : Element) : Except Error (LinearChild Control) := do
  liftDocument (requireLinearChild slot)
  let control ← firstControl slot.name slot.nodes
  let weight ← liftDocument (readOptional slot "Weight" Attribute.onlyFloat)
  .ok ⟨control, weight⟩

/-- Reading one child of a grid. -/
def readGridChild (slot : Element) : Except Error (GridChild Control) := do
  liftDocument (requireGridChild slot)
  let control ← firstControl slot.name slot.nodes
  let (column, row) ← liftDocument (readPlacement slot)
  .ok ⟨control, column, row⟩

/-- Reading one tab. -/
def readTab (e : Element) : Except Error (Tab Control) := do
  liftDocument (requireTab e)
  let content ← contentOf e.nodes
  let title ← liftDocument (optionalText e "Title")
  .ok ⟨title, content⟩

theorem linearChildren_eq (e : Element) :
    linearChildren e.nodes = (e.elements.filter (·.name = "Child")).mapM readLinearChild := by
  refine loop_eq_mapM (by rw [linearChildren]) (fun a more => by rw [linearChildren])
    (fun n nodes more => ?_) e
  rw [linearChildren]
  simp only [readLinearChild, bind_assoc, ok_bind]

theorem gridChildren_eq (e : Element) :
    gridChildren e.nodes = (e.elements.filter (·.name = "Child")).mapM readGridChild := by
  refine loop_eq_mapM (by rw [gridChildren]) (fun a more => by rw [gridChildren])
    (fun n nodes more => ?_) e
  rw [gridChildren]
  simp only [readGridChild, bind_assoc, ok_bind]

theorem tabsOf_eq (e : Element) :
    tabsOf e.nodes = (e.elements.filter (·.name = "Tab")).mapM readTab := by
  refine loop_eq_mapM (by rw [tabsOf]) (fun a more => by rw [tabsOf])
    (fun n nodes more => ?_) e
  rw [tabsOf]
  simp only [readTab, bind_assoc, ok_bind]

/-- What the elements below an element describe, at any depth, is what `inner`
says. -/
def AgreesBelow (inner : Element → Control → Prop) (e : Element) : Prop :=
  ∀ child, sizeOf child.nodes < sizeOf e.nodes → ∀ c, ofElement child = .ok c ↔ inner child c

variable {inner : Element → Control → Prop}

theorem AgreesBelow.child {e child : Element} (h : AgreesBelow inner e)
    (hchild : child ∈ e.elements) : AgreesBelow inner child := fun x hx =>
  h x (Nat.lt_trans hx (Element.sizeOf_nodes_lt hchild))

/-- A slot is read exactly if it holds one element and that one is read. -/
theorem firstControl_eq_ok_iff {slot : Element} {c : Control}
    (hinner : AgreesBelow inner slot) :
    slot.elementCount = 1 ∧ firstControl slot.name slot.nodes = .ok c ↔
      ExactlyOne inner slot.elements c := by
  rw [firstControl_eq, Element.elementCount]
  constructor
  · intro h
    obtain ⟨hcount, hc⟩ := h
    obtain ⟨child, hchild⟩ := List.length_eq_one_iff.1 hcount
    have hbelow := Element.sizeOf_nodes_lt (hchild ▸ List.mem_cons_self : child ∈ slot.elements)
    rw [hchild] at hc ⊢
    exact .one ((hinner child hbelow c).1 hc)
  · intro h
    have hbelow : ∀ child ∈ slot.elements, _ := fun child => Element.sizeOf_nodes_lt
    generalize slot.elements = elements at h hbelow
    obtain ⟨hc⟩ := h
    exact ⟨rfl, (hinner _ (hbelow _ List.mem_cons_self) c).2 hc⟩

theorem readLinearChild_eq_ok_iff {slot : Element} {child : LinearChild Control}
    (hinner : AgreesBelow inner slot) :
    readLinearChild slot = .ok child ↔ DescribesLinearChild inner slot child := by
  simp only [readLinearChild, requireLinearChild, liftDocument, bind_eq_ok, exists_unit,
    mapError_eq_ok, Element.requireAttributeNames_eq_ok, Element.requireElementCount_eq_ok,
    readOptional_onlyFloat_eq_ok_iff, List.mem_singleton, Except.ok.injEq]
  constructor
  · intro h
    obtain ⟨⟨hattributes, hcount⟩, control, hcontrol, weight, hweight, rfl⟩ := h
    exact .mk hattributes hweight ((firstControl_eq_ok_iff hinner).1 ⟨hcount, hcontrol⟩)
  · intro h
    obtain ⟨hattributes, hweight, hcontrol⟩ := h
    obtain ⟨hcount, hread⟩ := (firstControl_eq_ok_iff hinner).2 hcontrol
    exact ⟨⟨hattributes, hcount⟩, child.control, hread, child.weight, hweight, rfl⟩

theorem readGridChild_eq_ok_iff {slot : Element} {child : GridChild Control}
    (hinner : AgreesBelow inner slot) :
    readGridChild slot = .ok child ↔ DescribesGridChild inner slot child := by
  simp only [readGridChild, requireGridChild, liftDocument, bind_eq_ok, exists_unit,
    mapError_eq_ok, Element.requireAttributeNames_eq_ok, Element.requireElementCount_eq_ok,
    Prod.exists, readPlacement_eq_ok_iff, Except.ok.injEq]
  constructor
  · intro h
    obtain ⟨⟨hattributes, hcount⟩, control, hcontrol, column, row, ⟨hcolumn, hrow⟩, rfl⟩ := h
    exact .mk hattributes hcolumn hrow ((firstControl_eq_ok_iff hinner).1 ⟨hcount, hcontrol⟩)
  · intro h
    obtain ⟨hattributes, hcolumn, hrow, hcontrol⟩ := h
    obtain ⟨hcount, hread⟩ := (firstControl_eq_ok_iff hinner).2 hcontrol
    exact ⟨⟨hattributes, hcount⟩, child.control, hread, child.column, child.row,
      ⟨hcolumn, hrow⟩, rfl⟩

theorem readContent_eq_ok_iff {slot : Element} {c : Control}
    (hinner : AgreesBelow inner slot) :
    readContent slot = .ok c ↔ DescribesContent inner slot c := by
  simp only [readContent, requireContent, liftDocument, bind_eq_ok, exists_unit,
    mapError_eq_ok, Element.requireNoAttributes_eq_ok, Element.requireElementCount_eq_ok]
  constructor
  · intro h
    obtain ⟨⟨hattributes, hcount⟩, hcontrol⟩ := h
    exact .mk hattributes ((firstControl_eq_ok_iff hinner).1 ⟨hcount, hcontrol⟩)
  · intro h
    obtain ⟨hattributes, hcontrol⟩ := h
    obtain ⟨hcount, hread⟩ := (firstControl_eq_ok_iff hinner).2 hcontrol
    exact ⟨⟨hattributes, hcount⟩, hread⟩

/-- The demand that a tab has at most one content and the reading of the first
one are the reading of the only one. -/
theorem contentOf_eq_ok_iff {e : Element} {content : Option Control}
    (hinner : AgreesBelow inner e) :
    (∃ slot?, e.optionalElement "Content" = .ok slot?) ∧ contentOf e.nodes = .ok content ↔
      AtMostOne (DescribesContent inner) (e.elements.filter (·.name = "Content")) content := by
  have hslots : ∀ slot ∈ e.elements.filter (·.name = "Content"), ∀ c,
      readContent slot = .ok c ↔ DescribesContent inner slot c := fun slot hslot c =>
    readContent_eq_ok_iff (hinner.child (List.mem_of_mem_filter hslot))
  rw [contentOf_eq, Element.optionalElement, elementsNamed_eq, atMostOne_iff]
  generalize e.elements.filter (·.name = "Content") = found at hslots
  cases found with
  | nil => simp [Element.atMostOne, eq_comm (b := content)]
  | cons slot more =>
      cases more with
      | nil => simp [Element.atMostOne, bind_eq_ok, hslots, eq_comm (b := content)]
      | cons other more => simp [Element.atMostOne]

theorem discard_eq_ok_iff {x : Except Document.Error α} :
    (discard x : Except Document.Error Unit) = .ok () ↔ ∃ a, x = .ok a := by
  cases x with
  | error e => exact iff_of_false nofun nofun
  | ok a => exact iff_of_true rfl ⟨a, rfl⟩

theorem readTab_eq_ok_iff {e : Element} {tab : Tab Control}
    (hinner : AgreesBelow inner e) :
    readTab e = .ok tab ↔ DescribesTab inner e tab := by
  simp only [readTab, requireTab, liftDocument, bind_eq_ok, exists_unit, mapError_eq_ok,
    Element.requireAttributeNames_eq_ok, Element.requireElementNames_eq_ok, discard_eq_ok_iff,
    optionalText_eq_ok_iff, List.mem_singleton, Except.ok.injEq]
  constructor
  · intro h
    obtain ⟨⟨hattributes, helements, hone⟩, content, hcontent, title, htitle, rfl⟩ := h
    exact .mk hattributes helements htitle ((contentOf_eq_ok_iff hinner).1 ⟨hone, hcontent⟩)
  · intro h
    obtain ⟨hattributes, helements, htitle, hcontent⟩ := h
    obtain ⟨hone, hread⟩ := (contentOf_eq_ok_iff hinner).2 hcontent
    exact ⟨⟨hattributes, helements, hone⟩, tab.content, hread, tab.title, htitle, rfl⟩

/-! ## one layer -/

/-- Reading a linear layout. -/
def readLinearLayout (e : Element) : Except Error Control := do
  liftDocument (requireLinearLayout e)
  let orientation ← liftDocument (readOrientation e)
  let children ← (e.elements.filter (·.name = "Child")).mapM readLinearChild
  let margin ← liftDocument (readMargin e)
  .ok (.linearLayout orientation children margin)

/-- Reading a grid. -/
def readGridLayout (e : Element) : Except Error Control := do
  liftDocument (requireGridLayout e)
  let children ← (e.elements.filter (·.name = "Child")).mapM readGridChild
  .ok (.gridLayout children)

/-- Reading a tab control. -/
def readTabControl (e : Element) : Except Error Control := do
  liftDocument (requireTabControl e)
  let tabs ← (e.elements.filter (·.name = "Tab")).mapM readTab
  .ok (.tabControl tabs)

/-- Reading an element of a kind, with every loop over the elements inside as
one reading of each of them. -/
def readKind : ControlKind → Element → Except Error Control
  | .linearLayout, e => readLinearLayout e
  | .gridLayout, e => readGridLayout e
  | .tabControl, e => readTabControl e
  | .menuBar, e => liftDocument (readMenuBar e)
  | .button, e => liftDocument (readButton e)
  | .checkBox, e => liftDocument (readCheckBox e)
  | .textBox, e => liftDocument (readTextBox e)
  | .label, e => liftDocument (readLabel e)
  | .nothing, e => liftDocument (readNothing e)

/-- An element is read as the kind that its name says. -/
theorem ofElement_eq (e : Element) :
    ofElement e =
      match ControlKind.ofName? e.name with
      | none => .error (.unsupportedElement e.name)
      | some kind => readKind kind e := by
  rw [ofElement, Element.toNode, ofNode]
  split
  · next hkind => rw [hkind]
  all_goals
    next hkind =>
      rw [hkind]
      simp only [readKind, readLinearLayout, readGridLayout, readTabControl, linearChildren_eq,
        gridChildren_eq, tabsOf_eq]

variable {e : Element} {c : Control}

theorem readLinearLayout_eq_ok_iff (hname : e.name = "LinearLayout")
    (hinner : AgreesBelow inner e) : readLinearLayout e = .ok c ↔ Layer inner e c := by
  have hslots : ∀ children,
      (e.elements.filter (·.name = "Child")).mapM readLinearChild = .ok children ↔
        List.Forall₂ (DescribesLinearChild inner) (e.elements.filter (·.name = "Child"))
          children := fun _ =>
    mapM_eq_ok_iff fun slot hslot _ =>
      readLinearChild_eq_ok_iff (hinner.child (List.mem_of_mem_filter hslot))
  simp only [readLinearLayout, requireLinearLayout, liftDocument, bind_eq_ok, exists_unit,
    mapError_eq_ok, Element.requireAttributeNames_eq_ok, Element.requireElementNames_eq_ok,
    readOrientation_eq_ok_iff, hslots, readMargin_eq_ok_iff, List.mem_singleton,
    Except.ok.injEq]
  constructor
  · intro h
    obtain ⟨⟨hattributes, helements⟩, orientation, horientation, children, hchildren, margin,
      hmargin, rfl⟩ := h
    exact .linearLayout hname hattributes helements horientation hchildren hmargin
  · intro h
    cases h with
    | linearLayout _ hattributes helements horientation hchildren hmargin =>
        exact ⟨⟨hattributes, helements⟩, _, horientation, _, hchildren, _, hmargin, rfl⟩
    | _ name => exact absurd (hname.symm.trans name) (by decide)

theorem readGridLayout_eq_ok_iff (hname : e.name = "GridLayout")
    (hinner : AgreesBelow inner e) : readGridLayout e = .ok c ↔ Layer inner e c := by
  have hslots : ∀ children,
      (e.elements.filter (·.name = "Child")).mapM readGridChild = .ok children ↔
        List.Forall₂ (DescribesGridChild inner) (e.elements.filter (·.name = "Child"))
          children := fun _ =>
    mapM_eq_ok_iff fun slot hslot _ =>
      readGridChild_eq_ok_iff (hinner.child (List.mem_of_mem_filter hslot))
  simp only [readGridLayout, requireGridLayout, liftDocument, bind_eq_ok, exists_unit,
    mapError_eq_ok, Element.requireNoAttributes_eq_ok, Element.requireElementNames_eq_ok, hslots,
    List.mem_singleton, Except.ok.injEq]
  constructor
  · intro h
    obtain ⟨⟨hattributes, helements⟩, children, hchildren, rfl⟩ := h
    exact .gridLayout hname hattributes helements hchildren
  · intro h
    cases h with
    | gridLayout _ hattributes helements hchildren =>
        exact ⟨⟨hattributes, helements⟩, _, hchildren, rfl⟩
    | _ name => exact absurd (hname.symm.trans name) (by decide)

theorem readTabControl_eq_ok_iff (hname : e.name = "TabControl")
    (hinner : AgreesBelow inner e) : readTabControl e = .ok c ↔ Layer inner e c := by
  have hslots : ∀ tabs, (e.elements.filter (·.name = "Tab")).mapM readTab = .ok tabs ↔
      List.Forall₂ (DescribesTab inner) (e.elements.filter (·.name = "Tab")) tabs := fun _ =>
    mapM_eq_ok_iff fun tab htab _ =>
      readTab_eq_ok_iff (hinner.child (List.mem_of_mem_filter htab))
  simp only [readTabControl, requireTabControl, liftDocument, bind_eq_ok, exists_unit,
    mapError_eq_ok, Element.requireNoAttributes_eq_ok, Element.requireElementNames_eq_ok, hslots,
    List.mem_singleton, Except.ok.injEq]
  constructor
  · intro h
    obtain ⟨⟨hattributes, helements⟩, tabs, htabs, rfl⟩ := h
    exact .tabControl hname hattributes helements htabs
  · intro h
    cases h with
    | tabControl _ hattributes helements htabs =>
        exact ⟨⟨hattributes, helements⟩, _, htabs, rfl⟩
    | _ name => exact absurd (hname.symm.trans name) (by decide)

theorem readMenuBar_eq_ok_iff (hname : e.name = "MenuBar") :
    readMenuBar e = .ok c ↔ Layer inner e c := by
  have hslots : ∀ menus,
      (e.elements.filter (·.name = "DropDownMenu")).mapM readMenu = .ok menus ↔
        List.Forall₂ DescribesMenu (e.elements.filter (·.name = "DropDownMenu")) menus := fun _ =>
    mapM_eq_ok_iff fun _ _ _ => readMenu_eq_ok_iff
  simp only [readMenuBar, elementsNamed_eq, bind_eq_ok, exists_unit,
    Element.requireNoAttributes_eq_ok, Element.requireElementNames_eq_ok, hslots,
    List.mem_singleton, Except.ok.injEq]
  constructor
  · intro h
    obtain ⟨hattributes, helements, menus, hmenus, rfl⟩ := h
    exact .menuBar hname hattributes helements hmenus
  · intro h
    cases h with
    | menuBar _ hattributes helements hmenus =>
        exact ⟨hattributes, helements, _, hmenus, rfl⟩
    | _ name => exact absurd (hname.symm.trans name) (by decide)

theorem readButton_eq_ok_iff (hname : e.name = "Button") :
    readButton e = .ok c ↔ Layer inner e c := by
  simp only [readButton, bind_eq_ok, exists_unit, Element.requireAttributeNames_eq_ok,
    Element.requireElementNames_eq_ok, optionalText_eq_ok_iff, readMargin_eq_ok_iff,
    List.mem_singleton, Except.ok.injEq]
  constructor
  · intro h
    obtain ⟨hattributes, helements, command, hcommand, margin, hmargin, rfl⟩ := h
    exact .button hname hattributes helements hcommand hmargin
  · intro h
    cases h with
    | button _ hattributes helements hcommand hmargin =>
        exact ⟨hattributes, helements, _, hcommand, _, hmargin, rfl⟩
    | _ name => exact absurd (hname.symm.trans name) (by decide)

theorem readCheckBox_eq_ok_iff (hname : e.name = "CheckBox") :
    readCheckBox e = .ok c ↔ Layer inner e c := by
  simp only [readCheckBox, bind_eq_ok, exists_unit, Element.requireNoAttributes_eq_ok,
    Element.requireElementNames_eq_ok, readMargin_eq_ok_iff, List.mem_singleton,
    Except.ok.injEq]
  constructor
  · intro h
    obtain ⟨hattributes, helements, margin, hmargin, rfl⟩ := h
    exact .checkBox hname hattributes helements hmargin
  · intro h
    cases h with
    | checkBox _ hattributes helements hmargin =>
        exact ⟨hattributes, helements, _, hmargin, rfl⟩
    | _ name => exact absurd (hname.symm.trans name) (by decide)

theorem readTextBox_eq_ok_iff (hname : e.name = "TextBox") :
    readTextBox e = .ok c ↔ Layer inner e c := by
  simp only [readTextBox, bind_eq_ok, exists_unit, Element.requireAttributeNames_eq_ok,
    Element.requireNoElements_eq_ok, readOptional_onlyFlag_eq_ok_iff, optionalText_eq_ok_iff,
    Except.ok.injEq]
  constructor
  · intro h
    obtain ⟨hattributes, helements, multiLine, hmultiLine, item, hitem, rfl⟩ := h
    exact .textBox hname hattributes helements ⟨multiLine, hmultiLine, rfl⟩ hitem
  · intro h
    cases h with
    | textBox _ hattributes helements hmultiLine hitem =>
        obtain ⟨multiLine, hmultiLine, rfl⟩ := hmultiLine
        exact ⟨hattributes, helements, multiLine, hmultiLine, _, hitem, rfl⟩
    | _ name => exact absurd (hname.symm.trans name) (by decide)

theorem readLabel_eq_ok_iff (hname : e.name = "Label") :
    readLabel e = .ok c ↔ Layer inner e c := by
  simp only [readLabel, bind_eq_ok, exists_unit, Element.requireAttributeNames_eq_ok,
    Element.requireNoElements_eq_ok, optionalText_eq_ok_iff, List.mem_singleton,
    Except.ok.injEq]
  constructor
  · intro h
    obtain ⟨helements, hattributes, item, hitem, rfl⟩ := h
    exact .label hname hattributes helements hitem
  · intro h
    cases h with
    | label _ hattributes helements hitem => exact ⟨helements, hattributes, _, hitem, rfl⟩
    | _ name => exact absurd (hname.symm.trans name) (by decide)

theorem readNothing_eq_ok_iff (hname : e.name = "Nothing") :
    readNothing e = .ok c ↔ Layer inner e c := by
  simp only [readNothing, bind_eq_ok, exists_unit, Element.requireNoAttributes_eq_ok,
    Element.requireNoElements_eq_ok, Except.ok.injEq]
  constructor
  · intro h
    obtain ⟨hattributes, helements, rfl⟩ := h
    exact .nothing hname hattributes helements
  · intro h
    cases h with
    | nothing _ hattributes helements => exact ⟨hattributes, helements, rfl⟩
    | _ name => exact absurd (hname.symm.trans name) (by decide)

/-- An element of a kind is read exactly if one layer of the schema says what
it describes. -/
theorem readKind_eq_ok_iff_layer {kind : ControlKind} (hname : e.name = kind.name)
    (hinner : AgreesBelow inner e) : readKind kind e = .ok c ↔ Layer inner e c := by
  cases kind with
  | linearLayout => exact readLinearLayout_eq_ok_iff hname hinner
  | gridLayout => exact readGridLayout_eq_ok_iff hname hinner
  | tabControl => exact readTabControl_eq_ok_iff hname hinner
  | menuBar => exact mapError_eq_ok.trans (readMenuBar_eq_ok_iff hname)
  | button => exact mapError_eq_ok.trans (readButton_eq_ok_iff hname)
  | checkBox => exact mapError_eq_ok.trans (readCheckBox_eq_ok_iff hname)
  | textBox => exact mapError_eq_ok.trans (readTextBox_eq_ok_iff hname)
  | label => exact mapError_eq_ok.trans (readLabel_eq_ok_iff hname)
  | nothing => exact mapError_eq_ok.trans (readNothing_eq_ok_iff hname)

/-- The element describes a control of the kind that its name says. -/
theorem Layer.name_eq (h : Layer inner e c) : e.name = c.kind.name := by
  cases h with
  | _ name => exact name

/-- An element is read exactly if one layer of the schema says what it
describes, for any meaning of the elements inside that agrees with the
reader. -/
theorem ofElement_eq_ok_iff_layer (hinner : AgreesBelow inner e) :
    ofElement e = .ok c ↔ Layer inner e c := by
  rw [ofElement_eq]
  cases hkind : ControlKind.ofName? e.name with
  | none =>
      refine iff_of_false nofun fun h => ?_
      rw [h.name_eq, ControlKind.ofName?_name] at hkind
      cases hkind
  | some kind =>
      exact readKind_eq_ok_iff_layer (ControlKind.name_of_ofName? hkind).symm hinner

/-! ## the whole tree -/

/-- What one layer hands on from the elements inside to the element holds of
all that is read. -/
theorem ofElement_induction {p : Element → Control → Prop}
    (layer : ∀ e c, Layer (fun child x => ofElement child = .ok x ∧ p child x) e c → p e c)
    {e : Element} {c : Control} (h : ofElement e = .ok c) : p e c := by
  induction hsize : sizeOf e.nodes using Nat.strongRecOn generalizing e c with
  | _ size ih =>
      have hinner : AgreesBelow (fun child x => ofElement child = .ok x ∧ p child x) e :=
        fun child hchild x =>
          ⟨fun hx => ⟨hx, ih (sizeOf child.nodes) (hsize ▸ hchild) hx rfl⟩, And.left⟩
      exact layer e c ((ofElement_eq_ok_iff_layer hinner).1 h)

/-- **The schema of controls is what the reader accepts**: an element is read
as a control exactly if the schema says that the element describes it. -/
theorem ofElement_eq_ok_iff_describes (e : Element) (c : Control) :
    ofElement e = .ok c ↔ Describes e c := by
  -- the elements inside are smaller, so the schema agrees with the reader there
  induction h : sizeOf e.nodes using Nat.strongRecOn generalizing e c with
  | _ size ih =>
      have hinner : AgreesBelow Describes e := fun child hchild c =>
        ih (sizeOf child.nodes) (h ▸ hchild) child c rfl
      rw [ofElement_eq_ok_iff_layer hinner]
      exact ⟨.mk, fun hdescribes => by cases hdescribes with | mk hlayer => exact hlayer⟩

/-- The element of a vertical layout with a label in a cell of a grid, and a
menu whose title stands between its entries; the cell takes up this many
rows. -/
def celledElement (rows : Value) : Element :=
  ⟨"LinearLayout", [
    .elem "Child" [
      .elem "GridLayout" [.elem "Child" [
        .elem "Label" [.attr ⟨"Item", [some "UserName"]⟩],
        .attr ⟨"Row", [some "1", rows]⟩,
        .attr ⟨"Column", [some "0"]⟩]],
      .attr ⟨"Weight", [some "2.5"]⟩],
    .elem "Margin" [.attr ⟨"Top", [some "-.5"]⟩],
    .attr ⟨"Direction", [some "Vertical"]⟩,
    .elem "Child" [.elem "MenuBar" [.elem "DropDownMenu" [
      .attr ⟨"Command", [some "Save"]⟩,
      .attr ⟨"Item", [some "File"]⟩,
      .attr ⟨"Enum", [some "Mode"]⟩]]]]⟩

/-- The layout with a cell of two rows. -/
def celledLayout : Control :=
  .linearLayout .vertical
    [⟨.gridLayout [⟨.label (some "UserName"), ⟨0, 1⟩, ⟨1, 2⟩⟩], some ⟨0x4004000000000000⟩⟩,
      ⟨.menuBar [⟨some "File", [.command "Save", .choice "Mode"]⟩], none⟩]
    (some ⟨.zero, ⟨0xBFE0000000000000⟩, .zero, .zero⟩)

set_option maxRecDepth 4000 in
/-- Two rows are in the schema; no rows, and rows that are null, are not. -/
theorem ofElement_eq_ok_iff_describes_celled :
    Describes (celledElement (some "2")) celledLayout ∧
      (∀ c, ¬ Describes (celledElement (some "0")) c) ∧
      ∀ c, ¬ Describes (celledElement none) c := by
  have hread : ofElement (celledElement (some "2")) = .ok celledLayout := rfl
  have hnone : ofElement (celledElement (some "0")) =
      .error (.document (.invalidValue "Row" 1 .positive (some "0"))) := rfl
  have hnull : ofElement (celledElement none) =
      .error (.document (.invalidValue "Row" 1 .text none)) := rfl
  refine ⟨(ofElement_eq_ok_iff_describes _ _).1 hread, fun c h => ?_, fun c h => ?_⟩
  · cases hnone.symm.trans ((ofElement_eq_ok_iff_describes _ _).2 h)
  · cases hnull.symm.trans ((ofElement_eq_ok_iff_describes _ _).2 h)

end UiMarkup.Control
