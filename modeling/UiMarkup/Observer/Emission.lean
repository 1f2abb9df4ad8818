import UiMarkup.Observer.Script
import UiMarkup.Observer.Signal

/-!
# UiMarkup.Observer.Emission

The operations on one signal as a system.  An emission calls the observers
that are connected when it starts, in order and with its value; whatever they
do to the signal is in effect for emissions that start later.
-/

namespace UiMarkup.Observer.Signal

/-- The operations on a signal that carries values of type `ν`. -/
inductive Operation (ω ν : Type) where
  | connect (observer : ω)
  | disconnect (handle : Handle)
  | disconnectAll
  | count
  | emit (value : ν)

/-- The replies to them. -/
inductive Reply where
  | connected (handle : Handle)
  | disconnected (found : Bool)
  | counted (observers : Nat)
  | done
  deriving DecidableEq

/-- What the operations on a signal do. -/
def system [Storage S ω] : System (Signal S) (Operation ω ν) ω ν Reply := fun s operation =>
  match operation with
  | .connect observer =>
    let (handle, s) := s.connect observer
    .quiet s (.connected handle)
  | .disconnect handle =>
    let (found, s) := s.disconnect handle
    .quiet s (.disconnected found)
  | .disconnectAll => .quiet s.disconnectAll .done
  | .count => .quiet s (.counted s.count)
  | .emit value => ⟨s, s.observers.map (·, value), fun _ => .done⟩

end UiMarkup.Observer.Signal
