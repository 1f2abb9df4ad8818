import UiMarkup.Proofs.Document.Values

/-!
# UiMarkup.Proofs.Document.Refusals

Which errors a demand and a reader of values can end in.  Each lemma names
every error of its function together with what the element or the attribute
shows then, as the premises that a predicate on errors must meet:

* `Element.failsOnlyBy_requireAttributeNames` and the like: what is demanded of
  an element;
* `Attribute.failsOnlyBy_requireCountBetween`: the number of values;
* `Attribute.failsOnlyBy_textAt`, `Attribute.failsOnlyBy_readAt`: a value.
-/

namespace UiMarkup

open Document (Error Expected)

variable {α : Type} {p : Error → Prop}

namespace Element

/-! ## of an element -/

variable {e : Element}

theorem failsOnlyBy_requireAttributeNames {allowed : List String}
    (h : ∀ a ∈ e.attributes, a.name ∉ allowed → p (.unexpectedAttribute e.name a.name)) :
    FailsOnlyBy p (e.requireAttributeNames allowed) := by
  rw [requireAttributeNames]
  split
  next a ha =>
    have hname : a.name ∉ allowed := by simpa using List.find?_some ha
    exact failsOnlyBy_error (h a (List.mem_of_find?_eq_some ha) hname)
  next => exact failsOnlyBy_ok ()

theorem failsOnlyBy_requireElementNames {allowed : List String}
    (h : ∀ child ∈ e.elements, child.name ∉ allowed →
      p (.unexpectedElement e.name child.name)) :
    FailsOnlyBy p (e.requireElementNames allowed) := by
  rw [requireElementNames]
  split
  next child hchild =>
    have hname : child.name ∉ allowed := by simpa using List.find?_some hchild
    exact failsOnlyBy_error (h child (List.mem_of_find?_eq_some hchild) hname)
  next => exact failsOnlyBy_ok ()

theorem failsOnlyBy_requireNoAttributes
    (h : e.attributes ≠ [] → p (.attributesNotAllowed e.name)) :
    FailsOnlyBy p e.requireNoAttributes := by
  rw [requireNoAttributes]
  split
  next => exact failsOnlyBy_ok ()
  next hsome => exact failsOnlyBy_error (h hsome)

theorem failsOnlyBy_requireNoElements (h : e.elements ≠ [] → p (.elementsNotAllowed e.name)) :
    FailsOnlyBy p e.requireNoElements := by
  rw [requireNoElements]
  split
  next => exact failsOnlyBy_ok ()
  next hsome => exact failsOnlyBy_error (h hsome)

theorem failsOnlyBy_requireElementCount {count : Nat}
    (h : e.elementCount ≠ count → p (.elementCount e.name count e.elementCount)) :
    FailsOnlyBy p (e.requireElementCount count) := by
  rw [requireElementCount]
  split
  next => exact failsOnlyBy_ok ()
  next hcount => exact failsOnlyBy_error (h hcount)

/-- The only node of a name is refused if there are two of them. -/
theorem failsOnlyBy_atMostOne {name : String} {found : List α}
    (h : 2 ≤ found.length → p (.ambiguous e.name name)) :
    FailsOnlyBy p (e.atMostOne name found) := by
  match found with
  | [] => exact failsOnlyBy_ok none
  | [x] => exact failsOnlyBy_ok (some x)
  | _ :: _ :: _ => exact failsOnlyBy_error (h (by simp))

/-- An attribute that must be there is refused if there are two of its name or
none. -/
theorem failsOnlyBy_requiredAttribute {name : String}
    (hmany : 2 ≤ (e.attributesNamed name).length → p (.ambiguous e.name name))
    (hnone : e.attributesNamed name = [] → p (.missingAttribute e.name name)) :
    FailsOnlyBy p (e.requiredAttribute name) := by
  refine (failsOnlyBy_atMostOne hmany).bind fun found hfound => ?_
  cases found with
  | none => exact failsOnlyBy_error (hnone ((atMostOne_eq_none e name _).1 hfound))
  | some a => exact failsOnlyBy_ok a

end Element

namespace Attribute

/-! ## of an attribute -/

variable {a : Attribute}

theorem failsOnlyBy_requireCountBetween {least most : Nat}
    (h : ¬ (least ≤ a.values.length ∧ a.values.length ≤ most) →
      p (.valueCount a.name least most a.values.length)) :
    FailsOnlyBy p (a.requireCountBetween least most) := by
  rw [requireCountBetween]
  split
  next hcount => exact failsOnlyBy_error (h (by omega))
  next => exact failsOnlyBy_ok ()

theorem failsOnlyBy_requireCount {count : Nat}
    (h : a.values.length ≠ count → p (.valueCount a.name count count a.values.length)) :
    FailsOnlyBy p (a.requireCount count) :=
  failsOnlyBy_requireCountBetween fun hcount => h (by omega)

/-- Where a value stands, its text is refused only if it is null. -/
theorem failsOnlyBy_textAt {index : UInt64} (hindex : index.toNat < a.values.length)
    (hnull : a.values[index.toNat]? = some none →
      p (.invalidValue a.name index.toNat .text none)) :
    FailsOnlyBy p (a.textAt index) := by
  have hvalue := List.getElem?_eq_getElem hindex
  rw [textAt, valueAt, hvalue, ok_bind]
  cases hnone : a.values[index.toNat] with
  | some text => exact failsOnlyBy_ok text
  | none =>
      rw [hnone] at hvalue
      rw [invalid, hvalue, Option.join_some]
      exact failsOnlyBy_error (hnull hvalue)

/-- Where a value stands, it is refused only if it is null or a text that its
reader does not take. -/
theorem failsOnlyBy_readAt {index : UInt64} {expected : Expected} {read? : String → Option α}
    (hindex : index.toNat < a.values.length)
    (hnull : a.values[index.toNat]? = some none →
      p (.invalidValue a.name index.toNat .text none))
    (hunread : ∀ s, a.values[index.toNat]? = some (some s) → read? s = none →
      p (.invalidValue a.name index.toNat expected (some s))) :
    FailsOnlyBy p (a.readAt index expected read?) := by
  refine (failsOnlyBy_textAt hindex hnull).bind fun s hs => ?_
  have hvalue := textAt_eq_ok_iff.1 hs
  cases hread : read? s with
  | some x => exact failsOnlyBy_ok x
  | none =>
      rw [invalid, hvalue, Option.join_some]
      exact failsOnlyBy_error (hunread s hvalue hread)

end Attribute

end UiMarkup
