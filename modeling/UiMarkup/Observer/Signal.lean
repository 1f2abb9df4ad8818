import UiMarkup.Observer.Storage
import UiMarkup.Text.Shown

/-!
# UiMarkup.Observer.Signal

A signal and its observers.  Observers are called in the order in which they
were connected; the storage behind a signal may use places again and so says
nothing about that order, which is kept beside it.
-/

namespace UiMarkup.Observer

/-- The observers of a signal: stored under their handles, and the handles in
the order of connection. -/
structure Signal (S : Type) where
  slots : S
  order : List Handle

namespace Signal

variable {S ω : Type} [Storage S ω]

/-- The signal without observers. -/
def empty : Signal S := ⟨Storage.empty, []⟩

instance : Inhabited (Signal S) := ⟨empty⟩

/-- Appends an observer, which runs after all that are connected. -/
def connect (s : Signal S) (observer : ω) : Handle × Signal S :=
  let (handle, slots) := Storage.insert s.slots observer
  (handle, ⟨slots, s.order ++ [handle]⟩)

/-- Removes an observer; says whether there was one under the handle. -/
def disconnect (s : Signal S) (handle : Handle) : Bool × Signal S :=
  match Storage.remove s.slots handle with
  | (none, slots) => (false, { s with slots })
  | (some _, slots) => (true, ⟨slots, s.order.filter (· ≠ handle)⟩)

/-- Removes every observer. -/
def disconnectAll (s : Signal S) : Signal S :=
  ⟨Storage.clear s.slots, []⟩

/-- The number of observers. -/
def count (s : Signal S) : Nat :=
  Storage.size s.slots

/-- The observers in the order in which they run. -/
def observers (s : Signal S) : List ω :=
  s.order.filterMap (Storage.get? s.slots)

/-- The signal without observers has none. -/
@[simp] theorem observers_empty : (empty : Signal S).observers = [] := rfl

/-- No observer is left after all are removed. -/
@[simp] theorem observers_disconnectAll (s : Signal S) : s.disconnectAll.observers = [] := rfl

/-- A signal, shown by the number of its observers. -/
def shown (s : Signal S) : String :=
  Text.record "Signal" [("connections", toString s.count)]

end Signal

end UiMarkup.Observer
