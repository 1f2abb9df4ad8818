import UiMarkup.Items.Operation
import UiMarkup.Proofs.Items.Paths

/-!
# UiMarkup.Proofs.Items.Places

What an operation leaves alone.  Operations change the content of one item in
place, if they change anything, so names keep leading where they led, and every
other item stays as it is.

* `Group.locate?_modifyAt`, `Group.at?_modifyAt_self`,
  `Group.at?_modifyAt_of_ne`: a change in place;
* `Operation.path`, `state_system`: what an operation changes;
* `locate?_system`, `at?_system`: what it leaves alone.
-/

namespace UiMarkup

open Items
open Observer (Signal Storage)

variable {S ω : Type}

/-! ## a change in place -/

namespace Entry

/-- Changes what stands at a position in a group, and leaves items alone. -/
def modifyBelow (change : Entry S ω → Entry S ω) (position : Position) : Entry S ω → Entry S ω
  | .item i => .item i
  | .group n entries index => ((Group.mk n entries index).modifyAt change position).toEntry

theorem modifyBelow_eq_item_iff {change : Entry S ω → Entry S ω} {position : Position}
    {e : Entry S ω} {i : Item S ω} :
    e.modifyBelow change position = .item i ↔ e = .item i := by
  cases e with
  | item j => rfl
  | group n entries index => exact ⟨nofun, nofun⟩

theorem group?_modifyBelow (change : Entry S ω → Entry S ω) (position : Position) (e : Entry S ω) :
    (e.modifyBelow change position).group? = e.group?.map (·.modifyAt change position) := by
  cases e <;> rfl

theorem group?_modifyContent (change : Content S ω → Content S ω) (e : Entry S ω) :
    (e.modifyContent change).group? = e.group? := by
  cases e <;> rfl

end Entry

namespace Group

theorem modifyAt_cons {change : Entry S ω → Entry S ω} {g : Group S ω} {place : Nat}
    {position : Position} (h : position ≠ []) :
    g.modifyAt change (place :: position) =
      { g with entries := g.entries.modify place (Entry.modifyBelow change position) } := by
  cases position with
  | nil => contradiction
  | cons next position =>
      rw [modifyAt]
      · congr 2
        funext e
        cases e <;> rfl
      · exact h

/-- A change of one entry that changes the group in it. -/
theorem bind_group?_modify {f : Entry S ω → Entry S ω} {change : Group S ω → Group S ω}
    (h : ∀ e, (f e).group? = e.group?.map change) (entries : List (Entry S ω)) (place : Nat) :
    ((entries.modify place f)[place]?).bind Entry.group? =
      ((entries[place]?).bind Entry.group?).map change := by
  rw [List.getElem?_modify_eq]
  cases entries[place]? with
  | none => rfl
  | some e => exact h e

variable (change : Content S ω → Content S ω)

/-- The content of the item at a position is changed by a change of one entry,
and in a group by a change at the rest of the position. -/
theorem exists_entries_modifyAt (g : Group S ω) (place : Nat) (position : Position) :
    ∃ f : Entry S ω → Entry S ω, g.modifyAt (Entry.modifyContent change) (place :: position) =
        { g with entries := g.entries.modify place f } ∧
      ∀ e, (f e).group? = e.group?.map (·.modifyAt (Entry.modifyContent change) position) := by
  by_cases hposition : position = []
  · subst hposition
    refine ⟨_, rfl, fun e => ?_⟩
    rw [Entry.group?_modifyContent]
    exact Option.map_id'.symm
  · exact ⟨_, modifyAt_cons hposition, Entry.group?_modifyBelow _ position⟩

/-- Names lead where they led. -/
theorem locate?_modifyAt (g : Group S ω) (position : Position) (names : List String) :
    (g.modifyAt (Entry.modifyContent change) position).locate? names = g.locate? names := by
  induction names generalizing g position with
  | nil => rfl
  | cons n names ih =>
      cases position with
      | nil => rfl
      | cons place position =>
          obtain ⟨f, hf, hgroup⟩ := exists_entries_modifyAt change g place position
          rw [hf]
          by_cases hnames : names = []
          · subst hnames
            rfl
          · rw [locate?_cons hnames, locate?_cons hnames]
            refine Option.bind_congr fun next _ => ?_
            by_cases hnext : place = next
            · subst hnext
              rw [← Option.bind_assoc, ← Option.bind_assoc, bind_group?_modify hgroup,
                Option.bind_map]
              exact Option.bind_congr fun inner _ => congrArg _ (ih inner position)
            · rw [List.getElem?_modify_ne f _ hnext]

/-- The entry at the position itself. -/
theorem at?_modifyAt_self (g : Group S ω) (position : Position) :
    (g.modifyAt (Entry.modifyContent change) position).at? position =
      (g.at? position).map (Entry.modifyContent change) := by
  induction position generalizing g with
  | nil => rfl
  | cons place position ih =>
      by_cases hposition : position = []
      · subst hposition
        exact List.getElem?_modify_eq _ place g.entries
      · rw [modifyAt_cons hposition, at?_cons hposition, at?_cons hposition,
          ← Option.bind_assoc, ← Option.bind_assoc,
          bind_group?_modify (Entry.group?_modifyBelow _ position), Option.bind_map,
          Option.map_bind]
        exact Option.bind_congr fun inner _ => ih inner

/-- An item at another position. -/
theorem at?_modifyAt_of_ne (g : Group S ω) {position other : Position} (h : position ≠ other)
    (i : Item S ω) :
    (g.modifyAt (Entry.modifyContent change) position).at? other = some (.item i) ↔
      g.at? other = some (.item i) := by
  induction other generalizing g position with
  | nil => simp [at?]
  | cons next other ih =>
      cases position with
      | nil => rfl
      | cons place position =>
          by_cases hplace : place = next
          · subst hplace
            have hposition : position ≠ other := fun heq => h (heq ▸ rfl)
            by_cases hother : other = []
            · subst hother
              rw [modifyAt_cons hposition]
              simp [at?, Entry.modifyBelow_eq_item_iff]
            · obtain ⟨f, hf, hgroup⟩ := exists_entries_modifyAt change g place position
              rw [hf, at?_cons hother, at?_cons hother, ← Option.bind_assoc,
                ← Option.bind_assoc, bind_group?_modify hgroup, Option.bind_map,
                Option.bind_eq_some_iff, Option.bind_eq_some_iff]
              exact exists_congr fun inner => and_congr_right fun _ => ih inner hposition
          · obtain ⟨f, hf, -⟩ := exists_entries_modifyAt change g place position
            have hentry : (g.entries.modify place f)[next]? = g.entries[next]? :=
              List.getElem?_modify_ne f _ hplace
            cases other with
            | nil => rw [hf, at?, hentry, at?]
            | cons _ _ => rw [hf, at?_cons (by simp), at?_cons (by simp), hentry]

end Group

namespace Items

/-! ## the item at a path -/

section

variable {s : Items S ω} {path : String} {position : Position} {i : Item S ω}
  (hpath : s.locate? path = some position) (hitem : s.root.at? position = some (.item i))

include hpath hitem

theorem item_eq_ok : s.item path = .ok i :=
  ((answers_item s path).ok i).2 ⟨_, find?_eq_some_iff.2 ⟨position, hpath, hitem⟩, rfl⟩

theorem itemOf_eq_ok {kind : Kind} (hkind : i.kind = kind) : s.itemOf kind path = .ok i :=
  ((answers_itemOf s kind path).ok i).2
    ⟨_, find?_eq_some_iff.2 ⟨position, hpath, hitem⟩, by simp [itemOf?, Entry.item?, hkind]⟩

theorem at?_modify (change : Content S ω → Content S ω) :
    (s.modify path change).root.at? position =
      some (.item { i with content := change i.content }) := by
  rw [modify, hpath]
  exact (Group.at?_modifyAt_self ..).trans (hitem ▸ rfl)

end

/-! ## operations -/

/-- The path that an operation is addressed to. -/
def Operation.path : Operation ω → String
  | .setText path _ | .setFlag path _ | .setChoice path _ | .toggle path | .emitText path _
  | .emitFlag path _ | .emitChoice path _ | .observe path _ | .disconnect path _
  | .disconnectAll path | .bind path _ | .unbind path | .execute path => path

theorem locate?_modify (s : Items S ω) (path : String) (change : Content S ω → Content S ω)
    (path' : String) : (s.modify path change).locate? path' = s.locate? path' := by
  rw [modify]
  split
  · rfl
  · exact Group.locate?_modifyAt ..

theorem state_assignAt (s : Items S ω) (kind : Kind) (path : String)
    (assign : Content S ω → Bool × Content S ω × List (ω × Notice)) :
    (s.assignAt kind path assign).state = s ∨
      ∃ change, (s.assignAt kind path assign).state = s.modify path change := by
  rw [assignAt]
  split
  · exact .inl rfl
  · exact .inr ⟨_, rfl⟩

theorem state_withSignal (s : Items S ω) (path : String)
    (change : Signal S → Reply × Signal S) :
    (s.withSignal path change).state = s ∨
      ∃ f, (s.withSignal path change).state = s.modify path f := by
  rw [withSignal]
  split
  · exact .inl rfl
  · split
    · exact .inl rfl
    · exact .inr ⟨_, rfl⟩

theorem state_withCommand (s : Items S ω) (path : String) (action : Option ω) :
    (s.withCommand path action).state = s ∨
      ∃ change, (s.withCommand path action).state = s.modify path change := by
  rw [withCommand]
  split
  · exact .inl rfl
  · exact .inr ⟨_, rfl⟩

variable [Storage S ω]

theorem state_emitAt (s : Items S ω) (kind : Kind) (path : String) (notice : Notice) :
    (s.emitAt kind path notice).state = s := by
  rw [emitAt]
  split
  · rfl
  · rfl

/-- An operation changes the content of the item at its path, if it changes
anything. -/
theorem state_system (s : Items S ω) (o : Operation ω) :
    (system s o).state = s ∨ ∃ change, (system s o).state = s.modify o.path change := by
  cases o with
  | setText path value => exact state_assignAt ..
  | setFlag path value => exact state_assignAt ..
  | setChoice path value => exact state_assignAt ..
  | toggle path =>
      rw [system]
      split
      · exact .inl rfl
      · exact state_assignAt ..
  | emitText path value => exact .inl (state_emitAt ..)
  | emitFlag path value => exact .inl (state_emitAt ..)
  | emitChoice path value => exact .inl (state_emitAt ..)
  | observe path observer => exact state_withSignal ..
  | disconnect path handle => exact state_withSignal ..
  | disconnectAll path => exact state_withSignal ..
  | bind path action => exact state_withCommand ..
  | unbind path => exact state_withCommand ..
  | execute path =>
      rw [system, executeAt]
      split
      · exact .inl rfl
      · split
        · exact .inl rfl
        · exact .inl rfl

/-- No operation changes where paths lead. -/
theorem locate?_system (s : Items S ω) (o : Operation ω) (path : String) :
    (system s o).state.locate? path = s.locate? path := by
  rcases state_system s o with h | ⟨change, h⟩
  · rw [h]
  · rw [h, locate?_modify]

/-- An operation leaves the items alone that its path does not lead to. -/
theorem at?_system {s : Items S ω} {o : Operation ω} {position : Position}
    (h : s.locate? o.path ≠ some position) (i : Item S ω) :
    (system s o).state.root.at? position = some (.item i) ↔
      s.root.at? position = some (.item i) := by
  rcases state_system s o with hstate | ⟨change, hstate⟩
  · rw [hstate]
  · rw [hstate, modify]
    split
    · rfl
    · next found hfound =>
      have hne : found ≠ position := fun heq => h (hfound.trans (congrArg some heq))
      exact Group.at?_modifyAt_of_ne change s.root hne i

end Items

end UiMarkup
