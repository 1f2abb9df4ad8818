import UiMarkup.Observer.Signal

/-!
# UiMarkup.Observer.Property

A value that tells whether an assignment changes it, and a value whose changes
are observed.
-/

namespace UiMarkup.Observer

/-- A value that is read and assigned. -/
structure Property (α : Type) where
  value : α
  deriving DecidableEq

/-- Assigns a value; says whether it differs from the one before. -/
def Property.set [DecidableEq α] (p : Property α) (x : α) : Bool × Property α :=
  if p.value = x then (false, p) else (true, ⟨x⟩)

/-- The value assigned is the value then read. -/
@[simp] theorem Property.value_set [DecidableEq α] (p : Property α) (x : α) :
    (p.set x).2.value = x := by
  unfold Property.set
  split
  next h => exact h
  next => rfl

/-- An assignment is a change exactly when the value differs. -/
@[simp] theorem Property.changed_set [DecidableEq α] (p : Property α) (x : α) :
    (p.set x).1 = true ↔ p.value ≠ x := by
  unfold Property.set
  split <;> simp_all

/-- A property, shown by its value. -/
def Property.shown (value : α → String) (p : Property α) : String :=
  Text.variant "Property" (value p.value)

/-- A value and the signal of its changes, with the observers in a storage of
the type `S`. -/
structure Observed (α S : Type) where
  property : Property α
  changed : Signal S

namespace Observed

variable {α S ω : Type} [Storage S ω]

/-- The value without observers. -/
def ofValue (x : α) : Observed α S := ⟨⟨x⟩, .empty⟩

/-- The current value. -/
def value (o : Observed α S) : α :=
  o.property.value

/-- Assigns a value: whether that is a change, the value with its signal, and
the observers to be called with the new value. -/
def assign [DecidableEq α] (o : Observed α S) (x : α) : Bool × Observed α S × List ω :=
  match o.property.set x with
  | (false, _) => (false, o, [])
  | (true, property) => (true, { o with property }, o.changed.observers)

/-- The value assigned is the value then read. -/
@[simp] theorem value_assign [DecidableEq α] (o : Observed α S) (x : α) :
    (o.assign x).2.1.value = x := by
  unfold assign Property.set
  by_cases h : o.property.value = x <;> simp [h, value]

/-- An assignment is a change exactly when the value differs. -/
@[simp] theorem changed_assign [DecidableEq α] (o : Observed α S) (x : α) :
    (o.assign x).1 = true ↔ o.value ≠ x := by
  unfold assign Property.set
  by_cases h : o.property.value = x <;> simp [h, value]

/-- All observers are called if the value differs, and none otherwise. -/
theorem calls_assign [DecidableEq α] (o : Observed α S) (x : α) :
    (o.assign x).2.2 = if o.value = x then [] else o.changed.observers := by
  unfold assign Property.set
  by_cases h : o.property.value = x <;> simp [h, value]

/-- An assignment leaves the signal as it is. -/
@[simp] theorem signal_assign [DecidableEq α] (o : Observed α S) (x : α) :
    (o.assign x).2.1.changed = o.changed := by
  unfold assign Property.set
  by_cases h : o.property.value = x <;> simp [h]

end Observed

end UiMarkup.Observer
