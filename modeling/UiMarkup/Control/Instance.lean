import UiMarkup.Control.Basic
import UiMarkup.Control.Error

/-!
# UiMarkup.Control.Instance

Instances: controls that a platform can show.  A renderer makes a live node
out of a control and destroys it again; an instance owns a control and the
node that shows it, if there is one.  A control is changed only while it is
not shown.
-/

namespace UiMarkup

namespace Control

/-- What a platform does: it makes the live node of a control, or fails, and
destroys a node.  `σ` is its state and `ν` the type of nodes. -/
structure Renderer (σ ν : Type) where
  create : Control → σ → Except Error ν × σ
  destroy : ν → σ → σ

/-- What can be appended to a control. -/
inductive Slot where
  | linearChild (child : LinearChild Control)
  | gridChild (child : GridChild Control)
  | tab (tab : Tab Control)
  | menu (menu : Menu)

/-- The kind of a slot. -/
def Slot.kind : Slot → SlotKind
  | .linearChild _ => .linearChild
  | .gridChild _ => .gridChild
  | .tab _ => .tab
  | .menu _ => .menu

/-- The control with one more slot at the end, if it is made to hold one of
that kind. -/
def append? : Control → Slot → Option Control
  | .linearLayout orientation children margin, .linearChild child =>
    some (.linearLayout orientation (children ++ [child]) margin)
  | .gridLayout children, .gridChild child => some (.gridLayout (children ++ [child]))
  | .tabControl tabs, .tab tab => some (.tabControl (tabs ++ [tab]))
  | .menuBar menus, .menu menu => some (.menuBar (menus ++ [menu]))
  | _, _ => none

/-- A slot does not change the kind of the control that takes it. -/
theorem kind_of_append? {c d : Control} {s : Slot} (h : c.append? s = some d) :
    d.kind = c.kind := by
  cases c <;> cases s <;> simp [append?] at h <;> subst h <;> rfl

end Control

open Control

/-- A control and the live node that shows it, if there is one. -/
structure Instance (ν : Type) where
  control : Control
  node : Option ν

namespace Instance

/-- The instance of a control that is not shown. -/
def ofControl (c : Control) : Instance ν := ⟨c, none⟩

/-- Whether the control is shown. -/
def isAttached (i : Instance ν) : Bool :=
  i.node.isSome

/-- Shows the control.  That is refused if it is shown already, without asking
the renderer; if the renderer fails the control is still not shown. -/
def attach (renderer : Renderer σ ν) (i : Instance ν) (s : σ) :
    Except Control.Error Unit × Instance ν × σ :=
  if i.isAttached then
    (.error (.unsupportedMutation i.control.kind .alreadyAttached), i, s)
  else
    match renderer.create i.control s with
    | (.error e, s) => (.error e, i, s)
    | (.ok node, s) => (.ok (), { i with node := some node }, s)

/-- Stops showing the control; says whether it was shown. -/
def detach (renderer : Renderer σ ν) (i : Instance ν) (s : σ) : Bool × Instance ν × σ :=
  match i.node with
  | none => (false, i, s)
  | some node => (true, { i with node := none }, renderer.destroy node s)

/-- Nothing is shown after detaching. -/
@[simp] theorem node_detach (renderer : Renderer σ ν) (i : Instance ν) (s : σ) :
    (i.detach renderer s).2.1.node = none := by
  unfold detach
  split <;> simp_all

/-- Detaching says whether the control was shown. -/
@[simp] theorem fst_detach (renderer : Renderer σ ν) (i : Instance ν) (s : σ) :
    (i.detach renderer s).1 = i.isAttached := by
  unfold detach isAttached
  split <;> simp_all

/-- Appends a slot to the control.  That is refused while the control is
shown, or if it is not made to hold such a slot. -/
def append (i : Instance ν) (slot : Slot) : Except Control.Error Unit × Instance ν :=
  if i.isAttached then
    (.error (.unsupportedMutation i.control.kind (.appendWhileAttached slot.kind)), i)
  else
    match i.control.append? slot with
    | some control => (.ok (), { i with control })
    | none => (.error (.unsupportedMutation i.control.kind (.wrongSlot slot.kind)), i)

/-- Hands out the control, which is refused while it is shown.  The instance
is used up either way, and with it a node that it has. -/
def release (i : Instance ν) : Except Control.Error Control :=
  if i.isAttached then .error (.unsupportedMutation i.control.kind .stillAttached)
  else .ok i.control

end Instance

end UiMarkup
