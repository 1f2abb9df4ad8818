import UiMarkup.Observer.Arena
import UiMarkup.Proofs.Items.Declaration

/-!
# UiMarkup.Proofs.Items.Dialects

The same document in two dialects.  Two dialects that differ by their
separators refuse a document by the same error, or declare stores that differ
by the names of options alone.  Whether groups may be declared says nothing
about a document without groups, and refuses every other.

* `SameEntry`: entries that differ by the names of options alone;
* `takeNodes_agree`: the nodes of an element, with two separators;
* `ofElement_of_two_dialects`: the whole document.
-/

namespace UiMarkup.Items

open Observer (Arena Storage)

variable {S ω : Type} {separator separator' : String}

/-! ## stores that differ by separators -/

/-- Two options of the choice of this name, which differ by the separators in
their names alone. -/
structure SameOption (separator separator' choice : String) (o o' : Info) : Prop where
  name : ∃ id, o.name = choice ++ separator ++ id ∧ o'.name = choice ++ separator' ++ id
  title : o.title = o'.title
  hint : o.hint = o'.hint

/-- The contents of two items of this name, which differ by the separators in
the names of options alone. -/
inductive SameContent (separator separator' name : String) : Content S ω → Content S ω → Prop
  | choice (state : Observer.Observed UInt64 S) {options options' : List Info}
      (h : List.Forall₂ (SameOption separator separator' name) options options') :
      SameContent separator separator' name (.choice state options) (.choice state options')
  | other {content : Content S ω} (h : content.kind ≠ .choice) :
      SameContent separator separator' name content content

/-- Two items that differ by the separators in the names of options alone. -/
structure SameItem (separator separator' : String) (i i' : Item S ω) : Prop where
  info : i.info = i'.info
  content : SameContent separator separator' i.name i.content i'.content

/-- Two entries that differ by the separators in the names of options alone, at
any depth. -/
inductive SameEntry (separator separator' : String) : Entry S ω → Entry S ω → Prop
  | item {i i' : Item S ω} (h : SameItem separator separator' i i') :
      SameEntry separator separator' (.item i) (.item i')
  | group (name : String) (index : List (String × Nat)) {entries entries' : List (Entry S ω)}
      (h : List.Forall₂ (SameEntry separator separator') entries entries') :
      SameEntry separator separator' (.group name entries index) (.group name entries' index)

/-- Two groups that differ by the separators in the names of options alone. -/
structure SameGroup (separator separator' : String) (g g' : Group S ω) : Prop where
  name : g.name = g'.name
  entries : List.Forall₂ (SameEntry separator separator') g.entries g'.entries
  index : g.index = g'.index

/-- What is declared so far with two separators. -/
structure SameDeclared (separator separator' : String) (d d' : Declared S ω) : Prop where
  group : SameGroup separator separator' d.group d'.group
  takesOptions : d.takesOptions = d'.takesOptions

/-! ## groups -/

section

variable {g g' : Group S ω} {e e' : Entry S ω}

theorem SameGroup.toEntry (h : SameGroup separator separator' g g') :
    SameEntry separator separator' g.toEntry g'.toEntry := by
  obtain ⟨name, entries, index⟩ := g
  obtain ⟨name', entries', index'⟩ := g'
  obtain ⟨rfl, h, rfl⟩ := h
  exact .group name index h

theorem sameGroup_empty (name : String) :
    SameGroup separator separator' (.empty name : Group S ω) (.empty name) :=
  ⟨rfl, .nil, rfl⟩

theorem SameEntry.name (h : SameEntry separator separator' e e') : e.name = e'.name := by
  cases h with
  | item h => exact congrArg Info.name h.info
  | group name index h => rfl

/-- Both groups take one more entry, or refuse it by the same error. -/
theorem SameGroup.insert (h : SameGroup separator separator' g g')
    (he : SameEntry separator separator' e e') :
    AgreeBy (SameGroup separator separator') (g.insert e) (g'.insert e') := by
  rw [Group.insert, Group.insert, ← he.name, ← h.name, ← h.index, ← h.entries.length_eq]
  split
  · split
    · exact .error _
    · exact .ok ⟨rfl, List.rel_append h.entries (.cons he .nil), rfl⟩
  · exact .error _

/-- Both groups take one more item, or refuse it by the same error. -/
theorem SameGroup.addItem {i i' : Item S ω} (h : SameGroup separator separator' g g')
    (hi : SameItem separator separator' i i') :
    AgreeBy (fun p p' => SameGroup separator separator' p.1 p'.1) (g.addItem i)
      (g'.addItem i') := by
  rw [Group.addItem_eq, Group.addItem_eq]
  exact (h.insert (.item hi)).map fun _ _ hg => hg

/-- Both groups take one more group without entries, or refuse it by the same
error. -/
theorem SameGroup.addGroup (h : SameGroup separator separator' g g') (name : String) :
    AgreeBy (fun p p' => SameGroup separator separator' p.1 p'.1 ∧
      SameGroup separator separator' p.2 p'.2) (g.addGroup name) (g'.addGroup name) := by
  rw [Group.addGroup_eq, Group.addGroup_eq]
  exact (h.insert (sameGroup_empty name).toEntry).map fun _ _ hg => ⟨hg, sameGroup_empty name⟩

/-- Both groups have a last entry, or none. -/
theorem SameGroup.last? (h : SameGroup separator separator' g g') :
    Option.Rel (SameEntry separator separator') g.last? g'.last? := by
  have hreverse := List.forall₂_reverse_iff.2 h.entries
  rw [Group.last?, Group.last?, List.getLast?_eq_head?_reverse, List.getLast?_eq_head?_reverse]
  generalize g.entries.reverse = entries, g'.entries.reverse = entries' at hreverse
  cases hreverse with
  | nil => exact .none
  | cons h _ => exact .some h

theorem SameGroup.replaceLast (h : SameGroup separator separator' g g')
    (he : SameEntry separator separator' e e') :
    SameGroup separator separator' (g.replaceLast e) (g'.replaceLast e') where
  name := h.name
  entries := by
    rw [Group.replaceLast, Group.replaceLast, List.dropLast_eq_take, List.dropLast_eq_take,
      ← h.entries.length_eq]
    exact List.rel_append (List.forall₂_take _ h.entries) (.cons he .nil)
  index := h.index

end

/-! ## nodes -/

section

variable {d d' : Declared S ω}

/-- One more option is added under both separators. -/
theorem SameContent.addOption {name : String} {state : Observer.Observed UInt64 S}
    {options options' : List Info} {o o' : Info}
    (h : List.Forall₂ (SameOption separator separator' name) options options')
    (ho : SameOption separator separator' name o o') :
    SameContent separator separator' name (.choice state (options ++ [o]) : Content S ω)
      (.choice state (options' ++ [o'])) :=
  .choice state (List.rel_append h (.cons ho .nil))

theorem takeOption_agree {nestedGroups : Bool} (h : SameDeclared separator separator' d d')
    (a : Attribute) :
    AgreeBy (SameDeclared separator separator') (takeOption ⟨separator, nestedGroups⟩ d.group a)
      (takeOption ⟨separator', nestedGroups⟩ d'.group a) := by
  have hlast := h.group.last?
  refine .bind_left _ fun _ => ?_
  generalize d.group.last? = last, d'.group.last? = last' at hlast
  cases hlast with
  | none => exact .error _
  | some he =>
      cases he with
      | group name index _ => exact .error _
      | @item i i' hi =>
          obtain ⟨info, content⟩ := i
          obtain ⟨info', content'⟩ := i'
          obtain ⟨rfl, hcontent⟩ := hi
          cases hcontent with
          | other hkind =>
              have hkind : (Item.mk info content).kind ≠ .choice := hkind
              simp only [if_pos hkind]
              exact .error _
          | choice state hoptions =>
              refine .bind_left _ fun id => .ok ⟨h.group.replaceLast (.item ⟨rfl, ?_⟩), rfl⟩
              exact .addOption hoptions ⟨⟨id, rfl, rfl⟩, rfl, rfl⟩

theorem admitGroup_agree {g g' : Group S ω} {nestedGroups : Bool} (parent name : String)
    (h : SameGroup separator separator' g g') :
    AgreeBy (fun p p' => SameGroup separator separator' p.1 p'.1 ∧
      SameGroup separator separator' p.2 p'.2)
      (admitGroup ⟨separator, nestedGroups⟩ parent g name)
      (admitGroup ⟨separator', nestedGroups⟩ parent g' name) := by
  rw [admitGroup, admitGroup]
  split
  · exact h.addGroup name
  · exact .error _

end

variable [Storage S ω] {d d' : Declared S ω}

/-- A new item has no options. -/
theorem sameItem_ofKind (kind : Kind) (name : String) (title : Option String) :
    SameItem separator separator' ((Item.ofKind kind name : Item S ω).setTitle title)
      ((Item.ofKind kind name).setTitle title) where
  info := rfl
  content := by
    cases kind with
    | choice => exact .choice _ .nil
    | _ => exact .other nofun

theorem takeItem_agree (h : SameDeclared separator separator' d d') (a : Attribute) :
    AgreeBy (SameDeclared separator separator') (takeItem d.group a) (takeItem d'.group a) := by
  refine .bind_left _ fun _ => .bind_left _ fun tag => ?_
  cases Kind.ofTag? tag with
  | none => exact .error _
  | some kind =>
      exact (h.group.addItem (sameItem_ofKind kind _ _)).bind fun _ _ hg => .ok ⟨hg, rfl⟩

mutual
theorem takeNode_agree {nestedGroups : Bool} (parent : String) (x : Node)
    {d d' : Declared S ω} (h : SameDeclared separator separator' d d') :
    AgreeBy (SameDeclared separator separator') (takeNode ⟨separator, nestedGroups⟩ parent d x)
      (takeNode ⟨separator', nestedGroups⟩ parent d' x) := by
  cases x with
  | attr a =>
      rw [takeNode, takeNode, ← h.takesOptions]
      split
      · split
        · exact takeOption_agree h a
        · exact .error _
      · exact takeItem_agree h a
  | elem name nodes =>
      rw [takeNode, takeNode]
      refine (admitGroup_agree parent name h.group).bind fun p p' hp => ?_
      obtain ⟨hg, hinner⟩ := hp
      have hstart : SameDeclared separator separator' ⟨p.2, false⟩ ⟨p'.2, false⟩ := ⟨hinner, rfl⟩
      refine (takeNodes_agree name nodes hstart).bind fun d d' hd => ?_
      exact .ok ⟨hg.replaceLast hd.group.toEntry, rfl⟩

/-- The nodes of an element are taken in with both separators, or refused by
the same error. -/
theorem takeNodes_agree {nestedGroups : Bool} (parent : String) (nodes : List Node)
    {d d' : Declared S ω} (h : SameDeclared separator separator' d d') :
    AgreeBy (SameDeclared separator separator')
      (takeNodes ⟨separator, nestedGroups⟩ parent d nodes)
      (takeNodes ⟨separator', nestedGroups⟩ parent d' nodes) := by
  cases nodes with
  | nil => exact .ok h
  | cons x more =>
      rw [takeNodes, takeNodes]
      exact (takeNode_agree parent x h).bind fun _ _ => takeNodes_agree parent more
end

/-! ## documents without groups -/

/-- Attributes are taken in whether groups may be declared or not. -/
theorem takeNodes_of_attributes {nestedGroups nestedGroups' : Bool} {nodes : List Node}
    (h : nodes.filterMap Node.element? = []) (parent : String) (d : Declared S ω) :
    takeNodes ⟨separator, nestedGroups⟩ parent d nodes =
      takeNodes ⟨separator, nestedGroups'⟩ parent d nodes := by
  induction nodes generalizing d with
  | nil => rw [takeNodes, takeNodes]
  | cons x more ih =>
      cases x with
      | elem name nodes => cases h
      | attr a =>
          have hnode : takeNode ⟨separator, nestedGroups⟩ parent d (.attr a) =
              takeNode ⟨separator, nestedGroups'⟩ parent d (.attr a) := by
            rw [takeNode, takeNode]
            rfl
          rw [takeNodes, takeNodes, hnode]
          exact bind_congr fun d => ih h d

/-! ## the whole document -/

/-- Two stores that differ by the separators in the names of options alone. -/
abbrev SameItems (separator separator' : String) (s s' : Items S ω) : Prop :=
  SameGroup separator separator' s.root s'.root

theorem ofElement_agree {nestedGroups : Bool} (root : Element) :
    AgreeBy (SameItems separator separator') (ofElement (S := S) ⟨separator, nestedGroups⟩ root)
      (ofElement ⟨separator', nestedGroups⟩ root) :=
  .bind_left _ fun _ => (takeNodes_agree root.name root.nodes ⟨sameGroup_empty rootName, rfl⟩).bind
    fun _ _ hd => .ok hd.group

/-- Without child elements, whether groups may be declared says nothing. -/
theorem ofElement_of_attributes {root : Element} (h : root.elements = [])
    (nestedGroups nestedGroups' : Bool) :
    ofElement (S := S) ⟨separator, nestedGroups⟩ root =
      ofElement ⟨separator, nestedGroups'⟩ root := by
  rw [ofElement, ofElement]
  refine bind_congr fun _ => ?_
  rw [takeNodes_of_attributes h]

/-- Where no groups may be declared, an element with child elements is
refused. -/
theorem ofElement_of_elements {root : Element} (h : root.elements ≠ []) :
    ∃ e, ofElement (S := S) ⟨separator, false⟩ root = .error e := by
  cases hread : ofElement (S := S) ⟨separator, false⟩ root with
  | error e => exact ⟨e, rfl⟩
  | ok items =>
      obtain ⟨child, hchild⟩ := List.exists_mem_of_ne_nil _ h
      obtain ⟨x, hx, hview⟩ := List.mem_filterMap.1 hchild
      obtain ⟨-, hwell, -⟩ := (ofElement_eq_ok_iff_wellDeclared _ root items).1 hread
      cases x with
      | attr a => cases hview
      | elem name nodes => cases ((hwell _ .here).groups name nodes hx).2

/-- **Dialects matter only where they say so**: with two separators a document
is refused by the same error, or declares stores that differ by the separators
in the names of options alone.  Whether groups may be declared says nothing
about a document without child elements of the root, and where they may not,
every other document is refused. -/
theorem ofElement_of_two_dialects (root : Element) :
    (∀ separator separator' nestedGroups, AgreeBy (SameItems separator separator')
      (ofElement (S := S) ⟨separator, nestedGroups⟩ root)
      (ofElement ⟨separator', nestedGroups⟩ root)) ∧
    (∀ separator, root.elements = [] →
      ofElement (S := S) ⟨separator, false⟩ root = ofElement ⟨separator, true⟩ root) ∧
    ∀ separator, root.elements ≠ [] →
      ∃ e, ofElement (S := S) ⟨separator, false⟩ root = .error e :=
  ⟨fun _ _ _ => ofElement_agree root, fun _ h => ofElement_of_attributes h false true,
    fun _ h => ofElement_of_elements h⟩

/-- A choice with an option and no groups. -/
def plainRoot : Element :=
  ⟨rootName, [.attr ⟨"Mode", [some "Enum"]⟩, .attr ⟨"*", [some "List"]⟩]⟩

/-- A choice with an option, in a group. -/
def groupedRoot : Element :=
  ⟨rootName, [.elem "View" plainRoot.nodes, .attr ⟨"Save", [some "Command"]⟩]⟩

/-- The group is refused if there may be none.  With two separators it is
declared twice, and so is the choice without a group, whether there may be
groups or not. -/
theorem ofElement_of_two_dialects_grouped :
    (∃ s s' : Items (Arena Unit) Unit, ofElement ⟨":", true⟩ groupedRoot = .ok s ∧
      ofElement ⟨"-", true⟩ groupedRoot = .ok s' ∧ SameItems ":" "-" s s') ∧
    (ofElement (S := Arena Unit) ⟨":", false⟩ plainRoot = ofElement ⟨":", true⟩ plainRoot) ∧
    ∃ e, ofElement (S := Arena Unit) ⟨":", false⟩ groupedRoot = .error e := by
  obtain ⟨hsame, -, hrefused⟩ := ofElement_of_two_dialects (S := Arena Unit) groupedRoot
  obtain ⟨-, hplain, -⟩ := ofElement_of_two_dialects (S := Arena Unit) plainRoot
  refine ⟨?_, hplain ":" rfl, hrefused ":" (by decide)⟩
  obtain ⟨s, hread⟩ : ∃ s, ofElement (S := Arena Unit) ⟨":", true⟩ groupedRoot = .ok s := ⟨_, rfl⟩
  obtain ⟨s', hread'⟩ : ∃ s', ofElement (S := Arena Unit) ⟨"-", true⟩ groupedRoot = .ok s' :=
    ⟨_, rfl⟩
  have hagree := hsame ":" "-" true
  rw [hread, hread'] at hagree
  cases hagree with
  | ok h => exact ⟨s, s', hread, hread', h⟩

end UiMarkup.Items
