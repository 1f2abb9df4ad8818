import UiMarkup.Proofs.Document.RoundTrip
import UiMarkup.Proofs.Document.Within

/-!
# UiMarkup.Proofs.Document.Writable

Which trees survive being written.  A tree that was made without a text may
hold nodes that no text says: an element whose name closes elements, or an
attribute without values, whose row would be read as that of an element.
Those are the only ones:

* `Writable`: no such node stands among these, at any depth;
* `exists_documentUnfolds_iff`: the documents with an unfolding are those whose
  tree is writable;
* `parse_render_ofRoot`: a tree is read back from its text exactly if it is
  writable under the end keyword `End`.
-/

namespace UiMarkup.Document

/-- Whether a node can be said under an end keyword: an attribute has at least
one value, and the name of an element does not match the keyword. -/
def Admits (keyword : Value) : Node → Prop
  | .attr a => a.values ≠ []
  | .elem name _ => ¬ Matches (some name) keyword

/-- Nodes of which each can be said, and each inside them at any depth. -/
def Writable (keyword : Value) (nodes : List Node) : Prop :=
  ∀ found, Within nodes found → ∀ x ∈ found, Admits keyword x

variable {keyword : Value}

/-! ## node by node -/

/-- Nodes are writable exactly if each can be said and those inside each
element are writable. -/
theorem writable_iff {nodes : List Node} :
    Writable keyword nodes ↔
      (∀ x ∈ nodes, Admits keyword x) ∧
        ∀ name inner, .elem name inner ∈ nodes → Writable keyword inner :=
  forall_within_iff

theorem writable_nil : Writable keyword [] :=
  writable_iff.2 ⟨fun _ h => absurd h List.not_mem_nil, fun _ _ h => absurd h List.not_mem_nil⟩

theorem writable_cons_attr {a : Attribute} {more : List Node} :
    Writable keyword (.attr a :: more) ↔ a.values ≠ [] ∧ Writable keyword more := by
  rw [writable_iff, @writable_iff keyword more, List.forall_mem_cons]
  constructor
  · intro h
    exact ⟨h.1.1, h.1.2, fun name inner hmem => h.2 name inner (List.mem_cons_of_mem _ hmem)⟩
  · intro h
    refine ⟨⟨h.1, h.2.1⟩, fun name inner hmem => ?_⟩
    rcases List.mem_cons.1 hmem with heq | hmem
    · cases heq
    · exact h.2.2 name inner hmem

theorem writable_cons_elem {name : String} {inner more : List Node} :
    Writable keyword (.elem name inner :: more) ↔
      ¬ Matches (some name) keyword ∧ Writable keyword inner ∧ Writable keyword more := by
  rw [writable_iff, @writable_iff keyword more, List.forall_mem_cons]
  constructor
  · intro h
    exact ⟨h.1.1, h.2 name inner List.mem_cons_self, h.1.2,
      fun name inner hmem => h.2 name inner (List.mem_cons_of_mem _ hmem)⟩
  · intro h
    refine ⟨⟨h.1, h.2.2.1⟩, fun other nodes hmem => ?_⟩
    rcases List.mem_cons.1 hmem with heq | hmem
    · cases heq
      exact h.2.1
    · exact h.2.2.2 other nodes hmem

/-! ## writable trees have an unfolding -/

/-- Nodes that have an unfolding are writable. -/
theorem writable_of_unfolds {nodes : List Node} {rows : List (List Value)}
    (h : Unfolds keyword nodes rows) : Writable keyword nodes := by
  induction h with
  | nil => exact writable_nil
  | attr hvalues _ ih => exact writable_cons_attr.2 ⟨hvalues, ih⟩
  | elem hname _ _ _ ihnodes ihmore => exact writable_cons_elem.2 ⟨hname, ihnodes, ihmore⟩

/-- Writable nodes have an unfolding: that in which every closing row is the
keyword itself. -/
theorem exists_unfolds_of_writable {nodes : List Node} (h : Writable keyword nodes) :
    ∃ rows, Unfolds keyword nodes rows := by
  induction hsize : sizeOf nodes using Nat.strongRecOn generalizing nodes with
  | ind n ih =>
  subst hsize
  cases nodes with
  | nil => exact ⟨[], .nil⟩
  | cons x more =>
      have hmore : sizeOf more < sizeOf (x :: more) := by
        rw [List.cons.sizeOf_spec]
        omega
      cases x with
      | attr a =>
          obtain ⟨hvalues, h⟩ := writable_cons_attr.1 h
          obtain ⟨rows, hrows⟩ := ih _ hmore h rfl
          exact ⟨_, .attr hvalues hrows⟩
      | elem name inner =>
          obtain ⟨hname, hinner, h⟩ := writable_cons_elem.1 h
          have hlt := Node.sizeOf_lt_of_mem (List.mem_cons_self : .elem name inner ∈ _ :: more)
          obtain ⟨innerRows, hinnerRows⟩ := ih _ hlt hinner rfl
          obtain ⟨rows, hrows⟩ := ih _ hmore h rfl
          exact ⟨_, .elem hname hinnerRows (matches_self keyword) hrows⟩

/-- The documents that have an unfolding are those whose tree is writable under
their end keyword. -/
theorem exists_documentUnfolds_iff {d : Document} :
    (∃ rows, DocumentUnfolds d rows) ↔ Writable d.endKeyword [d.root.toNode] := by
  rw [Element.toNode, writable_cons_elem]
  constructor
  · rintro ⟨rows, h⟩
    cases h with
    | intro hname hnodes => exact ⟨hname, writable_of_unfolds hnodes, writable_nil⟩
  · rintro ⟨hname, hnodes, -⟩
    obtain ⟨inner, hinner⟩ := exists_unfolds_of_writable hnodes
    exact ⟨_, .intro hname hinner⟩

/-! ## reading what was written -/

/-- A document is read back from its text exactly if its tree is writable. -/
theorem parse_render_eq_ok_iff {d : Document} :
    parse d.render = .ok d ↔ Writable d.endKeyword [d.root.toNode] := by
  rw [parse_eq_ok_iff_derives, ← exists_documentUnfolds_iff]
  constructor
  · rintro ⟨rows, -, h⟩
    exact ⟨rows, h⟩
  · rintro ⟨rows, h⟩
    exact derives_render h

/-- **Trees that survive writing**: a tree that was made without a text is read
back from the text that it is written as exactly if no element in it has the
name `End`, in any case of the letters `A` to `Z`, and every attribute in it has
a value. -/
theorem parse_render_ofRoot (root : Element) :
    parse (ofRoot root).render = .ok (ofRoot root) ↔ Writable (some "End") [root.toNode] :=
  parse_render_eq_ok_iff

end UiMarkup.Document
