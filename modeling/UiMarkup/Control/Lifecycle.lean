import UiMarkup.Control.Instance

/-!
# UiMarkup.Control.Lifecycle

The life of one instance with one renderer, operation by operation, until it is
used up.
-/

namespace UiMarkup.Control

/-- The operations on an instance. -/
inductive Operation where
  | attach
  | detach
  | append (slot : Slot)
  | release

/-- The replies to them. -/
inductive Reply where
  | done
  | failed (e : Error)
  /-- Whether the control was shown. -/
  | detached (was : Bool)
  /-- The control that is handed out. -/
  | control (c : Control)

/-- The reply to an operation that only succeeds or fails. -/
def Reply.ofExcept : Except Error Unit → Reply
  | .ok () => .done
  | .error e => .failed e

/-- An instance, as long as there is one, and the state of its renderer. -/
structure Lifecycle (σ ν : Type) where
  current : Option (Instance ν)
  platform : σ

/-- Carries out one operation; there is no reply once the instance is used
up. -/
def Lifecycle.step (renderer : Renderer σ ν) (l : Lifecycle σ ν) (operation : Operation) :
    Option Reply × Lifecycle σ ν :=
  match l.current with
  | none => (none, l)
  | some i =>
    match operation with
    | .attach =>
      let (result, i, platform) := i.attach renderer l.platform
      (some (.ofExcept result), ⟨some i, platform⟩)
    | .detach =>
      let (was, i, platform) := i.detach renderer l.platform
      (some (.detached was), ⟨some i, platform⟩)
    | .append slot =>
      let (result, i) := i.append slot
      (some (.ofExcept result), ⟨some i, l.platform⟩)
    | .release =>
      match i.release with
      | .ok c => (some (.control c), ⟨none, l.platform⟩)
      | .error e => (some (.failed e), ⟨none, l.platform⟩)

end UiMarkup.Control
