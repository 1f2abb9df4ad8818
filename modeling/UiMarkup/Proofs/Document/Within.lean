import UiMarkup.Document.Lookup

/-!
# UiMarkup.Proofs.Document.Within

The elements inside an element, at any depth.  An element inside another one
is smaller, by which the reading of a tree is followed from the outside in.
-/

namespace UiMarkup

/-- The nodes inside an element are smaller than the nodes that it is among. -/
theorem Node.sizeOf_lt_of_mem {name : String} {inner nodes : List Node}
    (h : .elem name inner ∈ nodes) : sizeOf inner < sizeOf nodes := by
  have hlt := List.sizeOf_lt_of_mem h
  rw [Node.elem.sizeOf_spec] at hlt
  omega

/-- A child element is smaller than its parent. -/
theorem Element.sizeOf_nodes_lt {e child : Element} (h : child ∈ e.elements) :
    sizeOf child.nodes < sizeOf e.nodes := by
  obtain ⟨x, hx, hchild⟩ := List.mem_filterMap.1 h
  cases x with
  | attr a => cases hchild
  | elem name inner =>
      rw [← Option.some.inj hchild]
      exact Node.sizeOf_lt_of_mem hx

/-- The second nodes are the first ones, or those of an element inside them. -/
inductive Within : List Node → List Node → Prop
  | here {nodes : List Node} : Within nodes nodes
  | inside {name : String} {nodes inner found : List Node} (hmem : .elem name inner ∈ nodes)
      (h : Within inner found) : Within nodes found

/-- A statement holds at every depth exactly if it holds of the nodes
themselves and at every depth of each element among them. -/
theorem forall_within_iff {p : List Node → Prop} {nodes : List Node} :
    (∀ found, Within nodes found → p found) ↔
      p nodes ∧ ∀ name inner, .elem name inner ∈ nodes → ∀ found, Within inner found → p found := by
  constructor
  · intro h
    exact ⟨h nodes .here, fun name inner hmem found hfound => h found (.inside hmem hfound)⟩
  · intro h found hfound
    cases hfound with
    | here => exact h.1
    | inside hmem hfound => exact h.2 _ _ hmem found hfound

end UiMarkup
