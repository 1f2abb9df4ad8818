import Mathlib.Data.List.Nodup
import UiMarkup.Observer.Arena

/-!
# UiMarkup.Proofs.Observer.Arena

Arenas are lawful storage.  Every handle given out so far names a place whose
generation is past that of the handle, or is the same while the place is in use
(`Arena.Covers`); a vacant place therefore gives a handle that is new.

* `insert_cases`, `remove_cases`: all that the operations may do;
* `covers_of_reached`: the invariant of the arenas that are reached;
* `size_eq_length`: the size counts the handles in use.
-/

namespace UiMarkup.Observer.Arena

variable {α : Type} {a : Arena α} {given : List Handle}

/-! ## the operations, case by case -/

theorem get?_eq_some_iff {h : Handle} {x : α} :
    a.get? h = some x ↔
      ∃ s, a.slots[h.place]? = some s ∧ s.generation = h.generation ∧ s.content = some x := by
  rw [get?]
  cases a.slots[h.place]? with
  | none => simp
  | some s => by_cases hg : s.generation = h.generation <;> simp [hg]

/-- A value goes to a vacant place, or to a new one if there is none. -/
theorem insert_cases (ha : a.Sound) (x : α) :
    (∃ place vacant s, a.vacant = place :: vacant ∧ a.slots[place]? = some s ∧ s.content = none ∧
        a.insert x =
          (⟨place, s.generation⟩, ⟨a.slots.set place ⟨s.generation, some x⟩, vacant⟩)) ∨
      (a.vacant = [] ∧
        a.insert x = (⟨a.slots.length, 1⟩, ⟨a.slots ++ [⟨1, some x⟩], []⟩)) := by
  cases hvacant : a.vacant with
  | nil => exact .inr ⟨rfl, by simp [insert, hvacant]⟩
  | cons place vacant =>
      have hmem : place ∈ a.vacant := hvacant ▸ List.mem_cons_self
      obtain ⟨s, hs, hnone⟩ := (ha.vacant_iff place).1 hmem
      exact .inl ⟨place, vacant, s, rfl, hs, hnone, by simp [insert, hvacant, hs]⟩

/-- Nothing is taken out, or the place in use is emptied. -/
theorem remove_cases (a : Arena α) (h : Handle) :
    (a.get? h = none ∧ a.remove h = (none, a)) ∨
      ∃ s x, a.slots[h.place]? = some s ∧ s.generation = h.generation ∧ s.content = some x ∧
        a.remove h = (some x, ⟨a.slots.modify h.place Slot.emptied, h.place :: a.vacant⟩) := by
  cases hget : a.get? h with
  | none => exact .inl ⟨rfl, by simp [remove, hget]⟩
  | some x =>
      obtain ⟨s, hs, hg, hx⟩ := get?_eq_some_iff.1 hget
      exact .inr ⟨s, x, hs, hg, hx, by simp [remove, hget]⟩

theorem content_emptied (s : Slot α) : s.emptied.content = none := by
  unfold Slot.emptied
  cases hs : s.content <;> simp [hs]

theorem generation_emptied (s : Slot α) :
    s.emptied.generation = if s.content.isSome then s.generation + 1 else s.generation := by
  unfold Slot.emptied
  split <;> rfl

theorem le_generation_emptied (s : Slot α) : s.generation ≤ s.emptied.generation := by
  rw [generation_emptied]
  split <;> omega

/-! ## the invariant -/

/-- No handle to this slot of the generation `g` is given out again: the slot
is past that generation, or in use. -/
def Passed (s : Slot α) (g : Nat) : Prop :=
  g < s.generation ∨ g = s.generation ∧ s.content.isSome = true

theorem Passed.emptied {s : Slot α} {g : Nat} (h : Passed s g) : Passed s.emptied g := by
  unfold Passed at *
  rw [generation_emptied, content_emptied]
  rcases h with h | ⟨rfl, hsome⟩
  · left
    split <;> omega
  · simp [hsome]

/-- The arena is sound, and no handle given out so far is given out again. -/
structure Covers (a : Arena α) (given : List Handle) : Prop where
  sound : a.Sound
  passed : ∀ h ∈ given, ∃ s, a.slots[h.place]? = some s ∧ Passed s h.generation

theorem sound_insert (ha : a.Sound) (x : α) : (a.insert x).2.Sound := by
  obtain ⟨place, vacant, s, hvacant, hs, hnone, heq⟩ | ⟨hvacant, heq⟩ := insert_cases ha x
  · obtain ⟨hnodup, hiff, hpos⟩ := ha
    rw [hvacant, List.nodup_cons] at hnodup
    have hlt : place < a.slots.length := (List.getElem?_eq_some_iff.1 hs).1
    rw [heq]
    refine ⟨hnodup.2, fun i => ?_, fun t ht => ?_⟩
    · have hi := hiff i
      rw [hvacant, List.mem_cons] at hi
      by_cases hip : i = place
      · subst hip
        simp [List.getElem?_set_self hlt, hnodup.1]
      · simp only [hip, false_or] at hi
        simp [List.getElem?_set_ne (Ne.symm hip), hi]
    · rcases List.mem_or_eq_of_mem_set ht with ht | rfl
      · exact hpos t ht
      · exact hpos s (List.mem_of_getElem? hs)
  · obtain ⟨-, hiff, hpos⟩ := ha
    rw [heq]
    refine ⟨List.nodup_nil, fun i => ?_, fun t ht => ?_⟩
    · have hi := hiff i
      simp only [hvacant, List.not_mem_nil, false_iff, not_exists, not_and] at hi ⊢
      intro t ht
      rw [List.getElem?_append] at ht
      split at ht
      · exact hi t ht
      · rw [List.getElem?_singleton] at ht
        split at ht
        · simp [← Option.some.inj ht]
        · contradiction
    · simp only [List.mem_append, List.mem_singleton] at ht
      rcases ht with ht | rfl
      · exact hpos t ht
      · exact Nat.le_refl 1

theorem sound_remove (ha : a.Sound) (h : Handle) : (a.remove h).2.Sound := by
  obtain ⟨-, heq⟩ | ⟨s, x, hs, hg, hx, heq⟩ := remove_cases a h
  · exact heq ▸ ha
  · obtain ⟨hnodup, hiff, hpos⟩ := ha
    rw [heq]
    refine ⟨?_, fun i => ?_, fun t ht => ?_⟩
    · have hnot : h.place ∉ a.vacant := by
        rw [hiff]
        simp [hs, hx]
      exact List.nodup_cons.2 ⟨hnot, hnodup⟩
    · rw [List.mem_cons, hiff, List.getElem?_modify]
      by_cases hi : i = h.place
      · simp [hi, hs, content_emptied]
      · simp [hi, Ne.symm hi]
    · obtain ⟨i, hi⟩ := List.mem_iff_getElem?.1 ht
      rw [List.getElem?_modify, Option.map_eq_map, Option.map_eq_some_iff] at hi
      obtain ⟨u, hu, rfl⟩ := hi
      have hu := hpos u (List.mem_of_getElem? hu)
      split
      · exact Nat.le_trans hu (le_generation_emptied u)
      · exact hu

theorem sound_clear (ha : a.Sound) : a.clear.Sound where
  nodup := List.nodup_range
  vacant_iff i := by
    simp only [clear, List.mem_range, List.getElem?_map, Option.map_eq_some_iff]
    constructor
    · intro hi
      exact ⟨_, ⟨_, List.getElem?_eq_getElem hi, rfl⟩, content_emptied _⟩
    · rintro ⟨_, ⟨s, hs, -⟩, -⟩
      exact (List.getElem?_eq_some_iff.1 hs).1
  generation_pos t ht := by
    obtain ⟨s, hs, rfl⟩ := List.mem_map.1 ht
    exact Nat.le_trans (ha.generation_pos s hs) (le_generation_emptied s)

/-- The arena without places covers no handle. -/
theorem covers_empty : (empty : Arena α).Covers [] :=
  ⟨sound_empty, by simp⟩

theorem Covers.insert (h : a.Covers given) (x : α) :
    (a.insert x).2.Covers (given ++ [(a.insert x).1]) := by
  refine ⟨sound_insert h.sound x, fun k hk => ?_⟩
  rw [List.mem_append, List.mem_singleton] at hk
  obtain ⟨place, vacant, s, hvacant, hs, hnone, heq⟩ | ⟨hvacant, heq⟩ := insert_cases h.sound x
  · have hlt : place < a.slots.length := (List.getElem?_eq_some_iff.1 hs).1
    rw [heq] at hk ⊢
    rcases hk with hk | rfl
    · obtain ⟨t, ht, hpassed⟩ := h.passed k hk
      by_cases hp : k.place = place
      · -- the place was vacant, so its generation is past that of the handle
        subst hp
        obtain rfl : s = t := Option.some.inj (hs.symm.trans ht)
        refine ⟨_, List.getElem?_set_self hlt, ?_⟩
        simpa [Passed, hnone] using Or.inl hpassed
      · exact ⟨t, by rw [List.getElem?_set_ne (Ne.symm hp), ht], hpassed⟩
    · exact ⟨_, List.getElem?_set_self hlt, .inr ⟨rfl, rfl⟩⟩
  · rw [heq] at hk ⊢
    rcases hk with hk | rfl
    · obtain ⟨t, ht, hpassed⟩ := h.passed k hk
      have hlt : k.place < a.slots.length := (List.getElem?_eq_some_iff.1 ht).1
      exact ⟨t, by rw [List.getElem?_append_left hlt, ht], hpassed⟩
    · exact ⟨⟨1, some x⟩, by simp, .inr ⟨rfl, rfl⟩⟩

theorem Covers.remove (h : a.Covers given) (k : Handle) : (a.remove k).2.Covers given := by
  refine ⟨sound_remove h.sound k, fun l hl => ?_⟩
  obtain ⟨t, ht, hpassed⟩ := h.passed l hl
  obtain ⟨-, heq⟩ | ⟨s, x, hs, -, -, heq⟩ := remove_cases a k
  · rw [heq]
    exact ⟨t, ht, hpassed⟩
  · rw [heq]
    simp only [List.getElem?_modify, ht, Option.map_eq_map, Option.map_some]
    refine ⟨_, rfl, ?_⟩
    split
    · exact hpassed.emptied
    · exact hpassed

theorem Covers.clear (h : a.Covers given) : a.clear.Covers given := by
  refine ⟨sound_clear h.sound, fun k hk => ?_⟩
  obtain ⟨t, ht, hpassed⟩ := h.passed k hk
  exact ⟨t.emptied, by simp [Arena.clear, ht], hpassed.emptied⟩

/-- The arenas that are reached cover the handles given out on the way. -/
theorem covers_of_reached (h : Storage.Reached given a) : a.Covers given := by
  induction h with
  | empty => exact covers_empty
  | insert x _ ih => exact ih.insert x
  | remove k _ ih => exact ih.remove k
  | clear _ ih => exact ih.clear

/-! ## what is found -/

/-- A value is given a new handle. -/
theorem Covers.insert_fresh (h : a.Covers given) (x : α) : (a.insert x).1 ∉ given := by
  intro hmem
  obtain ⟨t, ht, hpassed⟩ := h.passed _ hmem
  obtain ⟨place, vacant, s, -, hs, hnone, heq⟩ | ⟨-, heq⟩ := insert_cases h.sound x
  · rw [heq] at ht hpassed
    obtain rfl : s = t := Option.some.inj (hs.symm.trans ht)
    simp [Passed, hnone] at hpassed
  · rw [heq] at ht
    simp at ht

theorem get?_snd_insert (ha : a.Sound) (x : α) (h : Handle) :
    (a.insert x).2.get? h = if h = (a.insert x).1 then some x else a.get? h := by
  split
  next heq => rw [heq, get?_insert]
  next hne =>
    obtain ⟨p, g⟩ := h
    obtain ⟨place, vacant, s, -, hs, hnone, heq⟩ | ⟨-, heq⟩ := insert_cases ha x
    · have hlt : place < a.slots.length := (List.getElem?_eq_some_iff.1 hs).1
      rw [heq] at hne ⊢
      by_cases hp : p = place
      · subst hp
        simp only [Handle.mk.injEq, true_and] at hne
        simp [get?, List.getElem?_set_self hlt, hs, Ne.symm hne]
      · simp [get?, List.getElem?_set_ne (Ne.symm hp)]
    · rw [heq] at hne ⊢
      rcases Nat.lt_trichotomy p a.slots.length with hp | rfl | hp
      · simp [get?, List.getElem?_append_left hp]
      · simp only [Handle.mk.injEq, true_and] at hne
        simp [get?, Ne.symm hne]
      · simp [get?, List.getElem?_append, Nat.not_lt_of_gt hp, Nat.sub_ne_zero_of_lt hp]

theorem get?_snd_remove (a : Arena α) (h h' : Handle) :
    (a.remove h).2.get? h' = if h' = h then none else a.get? h' := by
  split
  next heq => rw [heq, get?_remove]
  next hne =>
    obtain ⟨-, heq⟩ | ⟨s, x, hs, hg, -, heq⟩ := remove_cases a h
    · rw [heq]
    · rw [heq]
      by_cases hp : h.place = h'.place
      · -- the handles differ, so the other one is of another generation
        have hgen : s.generation ≠ h'.generation := by
          intro hg'
          exact hne (congrArg₂ Handle.mk hp.symm (hg'.symm.trans hg))
        simp [get?, ← hp, hs, content_emptied, hgen]
      · simp [get?, hp]

theorem get?_clear (a : Arena α) (h : Handle) : a.clear.get? h = none := by
  rw [get?, clear, List.getElem?_map]
  cases a.slots[h.place]? with
  | none => rfl
  | some s => simp [content_emptied]

/-! ## the size -/

/-- The handle to a slot that is in use. -/
def handleOf? (slot : Slot α × Nat) : Option Handle :=
  if slot.1.content.isSome then some ⟨slot.2, slot.1.generation⟩ else none

/-- The handles under which something is found, by their places. -/
def inUse (a : Arena α) : List Handle :=
  a.slots.zipIdx.filterMap handleOf?

theorem mem_inUse {h : Handle} : h ∈ a.inUse ↔ (a.get? h).isSome := by
  obtain ⟨p, g⟩ := h
  rw [Option.isSome_iff_exists]
  simp only [inUse, handleOf?, List.mem_filterMap, get?_eq_some_iff, Prod.exists,
    List.mem_zipIdx_iff_getElem?, Option.ite_none_right_eq_some, Option.some.injEq,
    Handle.mk.injEq, Option.isSome_iff_exists]
  constructor
  · rintro ⟨s, _, hs, ⟨x, hx⟩, rfl, rfl⟩
    exact ⟨x, s, hs, rfl, hx⟩
  · rintro ⟨x, s, hs, rfl, hx⟩
    exact ⟨s, p, hs, ⟨x, hx⟩, rfl, rfl⟩

theorem nodup_inUse (a : Arena α) : a.inUse.Nodup := by
  have hplaces : (a.slots.zipIdx.map Prod.snd).Nodup := by
    rw [List.zipIdx_map_snd]
    exact List.nodup_range'
  rw [List.Nodup, List.pairwise_map] at hplaces
  rw [inUse, List.Nodup, List.pairwise_filterMap]
  refine hplaces.imp fun {s t} hne k hk l hl => ?_
  simp only [handleOf?, Option.ite_none_right_eq_some, Option.some.injEq] at hk hl
  rw [← hk.2, ← hl.2]
  simp [hne]

theorem length_inUse (a : Arena α) : a.inUse.length = a.size := by
  have hsome : (fun slot : Slot α × Nat => (handleOf? slot).isSome) =
      (·.content.isSome) ∘ Prod.fst := by
    funext slot
    simp only [handleOf?, Function.comp]
    split <;> simp_all
  rw [inUse, List.length_filterMap_eq_countP, hsome, ← List.countP_map, List.zipIdx_map_fst, size]

/-- The size counts the handles in use. -/
theorem size_eq_length {handles : List Handle} (hnodup : handles.Nodup)
    (hmem : ∀ h, h ∈ handles ↔ (a.get? h).isSome) : a.size = handles.length := by
  have hperm : a.inUse.Perm handles := by
    rw [List.perm_ext_iff_of_nodup a.nodup_inUse hnodup]
    intro h
    rw [mem_inUse, hmem]
  rw [← length_inUse, hperm.length_eq]

/-- An arena keeps the promises of storage. -/
instance : LawfulStorage (Arena α) where
  insert_fresh x h := (covers_of_reached h).insert_fresh x
  get?_empty _ := rfl
  get?_insert x h hr := get?_snd_insert (covers_of_reached hr).sound x h
  fst_remove h _ := fst_remove _ h
  get?_remove h h' _ := get?_snd_remove _ h h'
  get?_clear h _ := get?_clear _ h
  size_eq _ := size_eq_length

end UiMarkup.Observer.Arena
