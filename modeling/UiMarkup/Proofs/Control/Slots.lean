import Mathlib.Data.List.Basic
import UiMarkup.Control.Instance

/-!
# UiMarkup.Proofs.Control.Slots

A control as a list of slots.  Layouts, tab controls and menu bars are made of
slots and of what is left without them, and what is appended to such a control
is its last slot afterwards; all that a control refers to is told slot by slot.

* `slots`, `bare`: the slots of a control, and the control without them;
* `Slot.controls`, `Slot.paths`: the controls and the references in a slot;
* `Grown`: one control is another one with more slots behind its own;
* `grown_of_appends`: appending any slots, one after the other.
-/

namespace UiMarkup

open Control

/-- The kind of the slots that controls of a kind are made of, if there are
any. -/
def ControlKind.slotKind? : ControlKind → Option SlotKind
  | .linearLayout => some .linearChild
  | .gridLayout => some .gridChild
  | .tabControl => some .tab
  | .menuBar => some .menu
  | _ => none

namespace Control

/-! ## slots -/

/-- The controls right inside a slot. -/
def Slot.controls : Slot → List Control
  | .linearChild child => [child.control]
  | .gridChild child => [child.control]
  | .tab t => t.content.toList
  | .menu _ => []

/-- The paths referenced in a slot, in order: those of the control inside, or
those of the entries of a menu. -/
def Slot.paths : Slot → List String
  | .linearChild child => child.control.itemPaths
  | .gridChild child => child.control.itemPaths
  | .tab t => t.content.elim [] itemPaths
  | .menu m => m.entries.map MenuEntry.path

/-- A control is made to hold slots of this kind. -/
def Holds (c : Control) (s : Slot) : Prop :=
  c.kind.slotKind? = some s.kind

instance (c : Control) (s : Slot) : Decidable (c.Holds s) :=
  inferInstanceAs (Decidable (c.kind.slotKind? = some s.kind))

/-- The slots of a control, in order. -/
def slots : Control → List Slot
  | .linearLayout _ children _ => children.map .linearChild
  | .gridLayout children => children.map .gridChild
  | .tabControl tabs => tabs.map .tab
  | .menuBar menus => menus.map .menu
  | _ => []

/-- The control without its slots. -/
def bare : Control → Control
  | .linearLayout orientation _ margin => .linearLayout orientation [] margin
  | .gridLayout _ => .gridLayout []
  | .tabControl _ => .tabControl []
  | .menuBar _ => .menuBar []
  | c => c

variable {c d : Control} {s : Slot} {appended more : List Slot}

@[simp] theorem kind_bare (c : Control) : c.bare.kind = c.kind := by
  cases c <;> rfl

@[simp] theorem margin_bare (c : Control) : c.bare.margin = c.margin := by
  cases c <;> rfl

/-- The controls right inside a control are those inside its slots. -/
theorem children_eq_slots (c : Control) : c.children = c.slots.flatMap Slot.controls := by
  cases c with
  | linearLayout _ cs _ =>
      rw [children, slots, List.flatMap_map, List.map_eq_flatMap]
      rfl
  | gridLayout cs =>
      rw [children, slots, List.flatMap_map, List.map_eq_flatMap]
      rfl
  | tabControl tabs =>
      rw [children, slots, List.flatMap_map, List.filterMap_eq_flatMap_toList]
      rfl
  | menuBar menus => simp [children, slots, Slot.controls]
  | _ => rfl

/-- What a tab refers to, by the control that it shows. -/
theorem paths_tab (tab : Tab Control) :
    (Slot.tab tab).paths = tab.content.toList.flatMap itemPaths := by
  rw [Slot.paths]
  cases tab.content <;> simp

/-- A control refers to what is left of it without its slots, and then to what
is referenced in these. -/
theorem itemPaths_eq_slots (c : Control) :
    c.itemPaths = c.bare.itemPaths ++ c.slots.flatMap Slot.paths := by
  cases c with
  | linearLayout _ children _ =>
      simp [itemPaths, bare, slots, linearPaths_eq, List.flatMap_map, Slot.paths]
  | gridLayout children =>
      simp [itemPaths, bare, slots, gridPaths_eq, List.flatMap_map, Slot.paths]
  | tabControl tabs =>
      simp [itemPaths, bare, slots, tabPaths_eq, List.flatMap_map, paths_tab,
        List.filterMap_eq_flatMap_toList, List.flatMap_assoc]
  | menuBar menus =>
      simp [itemPaths, bare, slots, ownPaths, List.flatMap_map, Slot.paths]
  | _ => simp [bare, slots]

/-! ## one slot more -/

/-- A control takes the slots that it is made to hold. -/
theorem isSome_append? (c : Control) (s : Slot) : (c.append? s).isSome ↔ c.Holds s := by
  cases c <;> cases s <;> simp [append?, Holds, kind, Slot.kind, ControlKind.slotKind?]

/-- What is appended is the last slot, and nothing else changes. -/
theorem slots_of_append? (h : c.append? s = some d) :
    d.bare = c.bare ∧ d.slots = c.slots ++ [s] := by
  cases c <;> cases s <;> cases h <;> simp [bare, slots]

/-- A control `d` is the control `c` with more slots behind its own. -/
structure Grown (c : Control) (appended : List Slot) (d : Control) : Prop where
  /-- The slots of `c` are all there, in the same order and as they were, with
  their weights, places, titles and entries, and those appended follow. -/
  slots : d.slots = c.slots ++ appended
  /-- All else is as it was: the kind, the orientation, the margin. -/
  bare : d.bare = c.bare
  kind : d.kind = c.kind
  margin : d.margin = c.margin
  /-- The controls inside the slots appended follow those that were inside. -/
  children : d.children = c.children ++ appended.flatMap Slot.controls
  /-- What is referenced in the slots appended follows what was referenced. -/
  itemPaths : d.itemPaths = c.itemPaths ++ appended.flatMap Slot.paths

theorem grown_of_slots (hbare : d.bare = c.bare) (hslots : d.slots = c.slots ++ appended) :
    c.Grown appended d where
  slots := hslots
  bare := hbare
  kind := by rw [← kind_bare d, hbare, kind_bare]
  margin := by rw [← margin_bare d, hbare, margin_bare]
  children := by
    rw [children_eq_slots, children_eq_slots, hslots, List.flatMap_append]
  itemPaths := by
    rw [itemPaths_eq_slots d, itemPaths_eq_slots c, hbare, hslots, List.flatMap_append,
      List.append_assoc]

theorem Grown.refl (c : Control) : c.Grown [] c :=
  grown_of_slots rfl (List.append_nil _).symm

theorem Grown.trans {c d e : Control} (h : c.Grown appended d) (h' : d.Grown more e) :
    c.Grown (appended ++ more) e :=
  grown_of_slots (h'.bare.trans h.bare) (by rw [h'.slots, h.slots, List.append_assoc])

/-- A control that has grown holds what it held before. -/
theorem Grown.holds_iff (h : c.Grown appended d) (s : Slot) : d.Holds s ↔ c.Holds s := by
  rw [Holds, Holds, h.kind]

end Control

namespace Instance

variable {ν : Type}

/-! ## instances -/

/-- Appends slots one after the other; the replies, and the instance then. -/
def appends (i : Instance ν) : List Slot → List (Except Control.Error Unit) × Instance ν
  | [] => ([], i)
  | slot :: more =>
    let (reply, next) := i.append slot
    let (replies, last) := next.appends more
    (reply :: replies, last)

theorem appends_cons (i : Instance ν) (s : Slot) (more : List Slot) :
    i.appends (s :: more) =
      ((i.append s).1 :: ((i.append s).2.appends more).1, ((i.append s).2.appends more).2) := rfl

/-- A control that is not shown takes a slot that it is made to hold. -/
theorem append_of_holds {c : Control} {s : Slot} (h : c.Holds s) :
    ∃ d, (ofControl c : Instance ν).append s = (.ok (), ofControl d) ∧ c.Grown [s] d := by
  obtain ⟨d, hd⟩ := Option.isSome_iff_exists.1 ((isSome_append? c s).2 h)
  obtain ⟨hbare, hslots⟩ := slots_of_append? hd
  refine ⟨d, ?_, grown_of_slots hbare hslots⟩
  rw [append, ofControl]
  simp only [isAttached, hd]
  rfl

/-- Another slot is refused. -/
theorem append_of_not_holds {c : Control} {s : Slot} (h : ¬ c.Holds s) :
    (ofControl c : Instance ν).append s =
      (.error (.unsupportedMutation c.kind (.wrongSlot s.kind)), ofControl c) := by
  have hnone : c.append? s = none :=
    Option.not_isSome_iff_eq_none.1 fun hsome => h ((isSome_append? c s).1 hsome)
  rw [append, ofControl]
  simp only [isAttached, hnone]
  rfl

/-- The reply to a slot that is appended to a control that is not shown. -/
def replyTo (c : Control) (s : Slot) : Except Control.Error Unit :=
  if c.Holds s then .ok () else .error (.unsupportedMutation c.kind (.wrongSlot s.kind))

/-- **Controls grow at the end**: of any slots that are appended one after the
other while a control is not shown, those that it is made to hold are accepted
and the others refused.  The control then has the accepted ones behind its own
slots, in that order, and is the same in all else. -/
theorem grown_of_appends (c : Control) (slots : List Slot) :
    ∃ d, (ofControl c : Instance ν).appends slots = (slots.map (replyTo c), ofControl d) ∧
      c.Grown (slots.filter c.Holds) d := by
  induction slots generalizing c with
  | nil => exact ⟨c, rfl, .refl c⟩
  | cons s more ih =>
      by_cases hs : c.Holds s
      · obtain ⟨next, hnext, hgrown⟩ := append_of_holds (ν := ν) hs
        obtain ⟨d, hd, hmore⟩ := ih next
        have hreply : replyTo next = replyTo c := by
          funext t
          simp only [replyTo, hgrown.holds_iff, hgrown.kind]
        have hfilter : more.filter next.Holds = more.filter c.Holds := by
          simp only [hgrown.holds_iff]
        refine ⟨d, ?_, ?_⟩
        · rw [appends_cons, hnext, hd, hreply, List.map_cons, replyTo, if_pos hs]
        · rw [List.filter_cons_of_pos (by simpa using hs), ← hfilter]
          exact hgrown.trans hmore
      · obtain ⟨d, hd, hmore⟩ := ih c
        refine ⟨d, ?_, ?_⟩
        · rw [appends_cons, append_of_not_holds hs, hd, List.map_cons, replyTo, if_neg hs]
        · rwa [List.filter_cons_of_neg (by simpa using hs)]

/-- A tab control takes an empty tab and a tab with a label, and refuses a
menu. -/
example :
    ((ofControl (.tabControl [⟨none, some (.button (some "save") none)⟩]) : Instance Unit).appends
      [.tab ⟨some "Empty", none⟩, .menu ⟨none, [.check "dark"]⟩,
        .tab ⟨none, some (.label (some "name"))⟩]).2.control.itemPaths = ["save", "name"] := rfl

end Instance

end UiMarkup
