import UiMarkup.Observer.Storage

/-!
# UiMarkup.Observer.Arena

Storage under handles that never come back.  Places are used again after a
removal, so a handle names a place and a generation: the generation of a place
goes up whenever it is emptied, and a handle from before finds nothing.
-/

namespace UiMarkup.Observer

/-- A place: its current generation and what it holds. -/
structure Slot (α : Type) where
  generation : Nat
  content : Option α

/-- The slot after its content is taken out. -/
def Slot.emptied (s : Slot α) : Slot α :=
  if s.content.isSome then ⟨s.generation + 1, none⟩ else s

/-- Storage under handles: the places, and the empty ones among them, the one
to use first in front. -/
structure Arena (α : Type) where
  slots : List (Slot α)
  vacant : List Nat

namespace Arena

/-- The arena without places. -/
def empty : Arena α := ⟨[], []⟩

/-- What is stored under a handle. -/
def get? (a : Arena α) (h : Handle) : Option α :=
  match a.slots[h.place]? with
  | some s => if s.generation = h.generation then s.content else none
  | none => none

/-- Stores a value in a vacant place, or in a new one if there is none. -/
def insert (a : Arena α) (x : α) : Handle × Arena α :=
  match a.vacant with
  | place :: vacant =>
    match a.slots[place]? with
    | some s =>
      (⟨place, s.generation⟩, ⟨a.slots.set place ⟨s.generation, some x⟩, vacant⟩)
    | none => (⟨a.slots.length, 1⟩, ⟨a.slots ++ [⟨1, some x⟩], vacant⟩)
  | [] => (⟨a.slots.length, 1⟩, ⟨a.slots ++ [⟨1, some x⟩], []⟩)

/-- The value stored is found under the handle given for it. -/
@[simp] theorem get?_insert (a : Arena α) (x : α) :
    (a.insert x).2.get? (a.insert x).1 = some x := by
  unfold insert
  split
  next place vacant _ =>
    split
    next s hs =>
      have hlt : place < a.slots.length := (List.getElem?_eq_some_iff.1 hs).1
      simp [get?, List.getElem?_set_self hlt]
    next => simp [get?]
  next => simp [get?]

/-- Takes out what is stored under a handle; the arena is unchanged if that is
nothing. -/
def remove (a : Arena α) (h : Handle) : Option α × Arena α :=
  match a.get? h with
  | none => (none, a)
  | some x => (some x, ⟨a.slots.modify h.place Slot.emptied, h.place :: a.vacant⟩)

/-- Taking out gives what was stored under the handle. -/
@[simp] theorem fst_remove (a : Arena α) (h : Handle) : (a.remove h).1 = a.get? h := by
  unfold remove
  split <;> simp_all

/-- Nothing is left under a handle after it is taken out. -/
@[simp] theorem get?_remove (a : Arena α) (h : Handle) : (a.remove h).2.get? h = none := by
  unfold remove
  split
  next hn => exact hn
  next x hx =>
    unfold get? at hx
    split at hx
    next s hs =>
      split at hx
      next hg => simp [get?, List.getElem?_modify_eq, hs, Slot.emptied, hx]
      next => contradiction
    next => contradiction

/-- Takes out everything. -/
def clear (a : Arena α) : Arena α :=
  ⟨a.slots.map Slot.emptied, List.range a.slots.length⟩

/-- The number of values stored. -/
def size (a : Arena α) : Nat :=
  a.slots.countP (·.content.isSome)

instance : Storage (Arena α) α where
  empty := empty
  insert := insert
  get? := get?
  remove := remove
  clear := clear
  size := size

/-! ## the invariant -/

/-- The vacant places are exactly the empty ones, each listed once, and every
generation is at least one. -/
structure Sound (a : Arena α) : Prop where
  nodup : a.vacant.Nodup
  vacant_iff : ∀ i, i ∈ a.vacant ↔ ∃ s, a.slots[i]? = some s ∧ s.content = none
  generation_pos : ∀ s ∈ a.slots, 1 ≤ s.generation

/-- The arena without places is sound. -/
theorem sound_empty : (empty : Arena α).Sound where
  nodup := List.nodup_nil
  vacant_iff := by simp [empty]
  generation_pos := by simp [empty]

/-- Nothing is ever stored under the null handle. -/
theorem Sound.get?_null {a : Arena α} (h : a.Sound) : a.get? .null = none := by
  unfold get? Handle.null
  cases hs : a.slots[0]? with
  | none => rfl
  | some s =>
    have := h.generation_pos s (List.mem_of_getElem? hs)
    simp only
    rw [if_neg (by omega)]

end Arena

end UiMarkup.Observer
