import UiMarkup.Document.Lookup

/-!
# UiMarkup.Document.Demand

What a reader demands of an element or an attribute before it looks inside:
names, and how many nodes or values there are.  A demand that fails names the
first node at fault; the lemma beside each says when it is met.
-/

namespace UiMarkup

open Document (Error)

namespace Element

/-! ## of an element -/

/-- Demands a name. -/
def requireName (e : Element) (name : String) : Except Error Unit :=
  if e.name = name then .ok () else .error (.unexpectedElementName name e.name)

/-- Met exactly if the element has that name. -/
@[simp] theorem requireName_eq_ok (e : Element) (name : String) :
    e.requireName name = .ok () ↔ e.name = name := by
  unfold requireName
  split <;> simp_all

/-- Demands that every attribute has one of the allowed names. -/
def requireAttributeNames (e : Element) (allowed : List String) : Except Error Unit :=
  match e.attributes.find? fun a => !allowed.contains a.name with
  | some a => .error (.unexpectedAttribute e.name a.name)
  | none => .ok ()

/-- Met exactly if every attribute has an allowed name. -/
@[simp] theorem requireAttributeNames_eq_ok (e : Element) (allowed : List String) :
    e.requireAttributeNames allowed = .ok () ↔ ∀ a ∈ e.attributes, a.name ∈ allowed := by
  unfold requireAttributeNames
  split
  next a h =>
    have hn := List.find?_some h
    have hm := List.mem_of_find?_eq_some h
    simp only [reduceCtorEq, false_iff]
    intro hall
    simp [hall a hm] at hn
  next h => simpa using h

/-- Demands that every child element has one of the allowed names. -/
def requireElementNames (e : Element) (allowed : List String) : Except Error Unit :=
  match e.elements.find? fun child => !allowed.contains child.name with
  | some child => .error (.unexpectedElement e.name child.name)
  | none => .ok ()

/-- Met exactly if every child element has an allowed name. -/
@[simp] theorem requireElementNames_eq_ok (e : Element) (allowed : List String) :
    e.requireElementNames allowed = .ok () ↔ ∀ child ∈ e.elements, child.name ∈ allowed := by
  unfold requireElementNames
  split
  next child h =>
    have hn := List.find?_some h
    have hm := List.mem_of_find?_eq_some h
    simp only [reduceCtorEq, false_iff]
    intro hall
    simp [hall child hm] at hn
  next h => simpa using h

/-- Demands that there is no attribute. -/
def requireNoAttributes (e : Element) : Except Error Unit :=
  if e.attributes = [] then .ok () else .error (.attributesNotAllowed e.name)

/-- Met exactly if there is no attribute. -/
@[simp] theorem requireNoAttributes_eq_ok (e : Element) :
    e.requireNoAttributes = .ok () ↔ e.attributes = [] := by
  unfold requireNoAttributes
  split <;> simp_all

/-- Demands that there is no child element. -/
def requireNoElements (e : Element) : Except Error Unit :=
  if e.elements = [] then .ok () else .error (.elementsNotAllowed e.name)

/-- Met exactly if there is no child element. -/
@[simp] theorem requireNoElements_eq_ok (e : Element) :
    e.requireNoElements = .ok () ↔ e.elements = [] := by
  unfold requireNoElements
  split <;> simp_all

/-- Demands exactly `count` child elements. -/
def requireElementCount (e : Element) (count : Nat) : Except Error Unit :=
  if e.elementCount = count then .ok ()
  else .error (.elementCount e.name count e.elementCount)

/-- Met exactly if there are that many child elements. -/
@[simp] theorem requireElementCount_eq_ok (e : Element) (count : Nat) :
    e.requireElementCount count = .ok () ↔ e.elementCount = count := by
  unfold requireElementCount
  split <;> simp_all

end Element

namespace Attribute

/-! ## of an attribute -/

/-- Demands between `least` and `most` values. -/
def requireCountBetween (a : Attribute) (least most : Nat) : Except Error Unit :=
  if a.values.length < least ∨ most < a.values.length then
    .error (.valueCount a.name least most a.values.length)
  else .ok ()

/-- Met exactly if the number of values lies between the bounds. -/
@[simp] theorem requireCountBetween_eq_ok (a : Attribute) (least most : Nat) :
    a.requireCountBetween least most = .ok () ↔
      least ≤ a.values.length ∧ a.values.length ≤ most := by
  unfold requireCountBetween
  split
  next h => simp only [reduceCtorEq, false_iff]; omega
  next h => simp only [true_iff]; omega

/-- Demands exactly `count` values. -/
def requireCount (a : Attribute) (count : Nat) : Except Error Unit :=
  a.requireCountBetween count count

/-- Met exactly if there are that many values. -/
@[simp] theorem requireCount_eq_ok (a : Attribute) (count : Nat) :
    a.requireCount count = .ok () ↔ a.values.length = count := by
  simp only [requireCount, requireCountBetween_eq_ok]
  omega

end Attribute

end UiMarkup
