import UiMarkup.Control.Instance
import UiMarkup.Control.Shown

/-!
# UiMarkup.Control.Window

Windows: surfaces that show at most one control.  A window owns the state of
its platform; it stops showing what it shows before it shows something else,
and when it is closed.
-/

namespace UiMarkup

open Control (Renderer)

/-- An instance, shown by its control and whether it is attached. -/
def Instance.shown (i : Instance ν) : String :=
  Text.record "ControlInstance"
    [("control", i.control.shown), ("attached", Text.truth i.isAttached)]

/-- A window: the state of its platform, and what it shows. -/
structure Window (σ ν : Type) where
  platform : σ
  content : Option (Instance ν)

namespace Window

/-- The window that shows nothing. -/
def ofPlatform (s : σ) : Window σ ν := ⟨s, none⟩

/-- Stops showing what the window shows. -/
def clear (renderer : Renderer σ ν) (w : Window σ ν) : Window σ ν :=
  match w.content with
  | none => w
  | some i => ⟨(i.detach renderer w.platform).2.2, none⟩

/-- A window that stopped showing shows nothing. -/
@[simp] theorem content_clear (renderer : Renderer σ ν) (w : Window σ ν) :
    (w.clear renderer).content = none := by
  unfold clear
  split <;> simp_all

/-- Shows a control, or nothing.  If the platform fails to show the control
the window shows nothing. -/
def display (renderer : Renderer σ ν) (w : Window σ ν) (content : Option Control) :
    Except Control.Error Unit × Window σ ν :=
  let w := w.clear renderer
  match content with
  | none => (.ok (), w)
  | some control =>
    match (Instance.ofControl control).attach renderer w.platform with
    | (.ok (), i, s) => (.ok (), ⟨s, some i⟩)
    | (.error e, _, s) => (.error e, ⟨s, none⟩)

/-- Closes the window; what is left is the state of its platform. -/
def close (renderer : Renderer σ ν) (w : Window σ ν) : σ :=
  (w.clear renderer).platform

/-- A window, shown by its platform and its content. -/
def shown (platform : σ → String) (w : Window σ ν) : String :=
  Text.record "Window"
    [("adapter", platform w.platform), ("content", Text.optional Instance.shown w.content)]

end Window

end UiMarkup
