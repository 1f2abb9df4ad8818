import UiMarkup.Proofs.Items.Notification

/-!
# UiMarkup.Proofs.Items.Effects

What every operation does, said of the item at its path alone: it changes the
content of that item, and calls whom that content names.  If no item is there,
it does nothing.

* `Operation.onContent`, `Operation.callsOn`: what an operation makes of the
  content of an item, and the calls that it makes for it;
* `does_system`: this is all that an operation does;
* `Group.map_label_at?_modifyAt`: names and kinds stay where they are.
-/

namespace UiMarkup

open Items

variable {S ω : Type}

/-! ## a change in place -/

/-- The name and the kind of an entry. -/
def Entry.label (e : Entry S ω) : String × EntryKind :=
  (e.name, e.kind)

namespace Group

theorem modify_congr {α : Type} {f f' : α → α} {xs : List α} {place : Nat}
    (h : ∀ x, xs[place]? = some x → f x = f' x) : xs.modify place f = xs.modify place f' := by
  refine List.ext_getElem? fun j => ?_
  rw [List.getElem?_modify, List.getElem?_modify]
  refine Option.map_congr fun x hx => ?_
  split
  · next heq => exact h x (heq ▸ hx)
  · rfl

/-- A change in place matters only for the entry that is there. -/
theorem modifyAt_congr {change change' : Entry S ω → Entry S ω} {g : Group S ω}
    {position : Position} (h : ∀ e, g.at? position = some e → change e = change' e) :
    g.modifyAt change position = g.modifyAt change' position := by
  induction position generalizing g with
  | nil => rfl
  | cons place position ih =>
      by_cases hposition : position = []
      · subst hposition
        rw [modifyAt, modifyAt, modify_congr h]
      · rw [modifyAt_cons hposition, modifyAt_cons hposition, modify_congr]
        intro e he
        cases e with
        | item i => rfl
        | group n entries index =>
            refine congrArg toEntry (ih fun inner hinner => h inner ?_)
            rw [at?_cons hposition, he]
            exact hinner

theorem modifyAt_id (g : Group S ω) (position : Position) : g.modifyAt id position = g := by
  induction position generalizing g with
  | nil => rfl
  | cons place position ih =>
      by_cases hposition : position = []
      · subst hposition
        rw [modifyAt, List.modify_id]
      · have hbelow : ∀ e : Entry S ω, e.modifyBelow id position = id e := by
          rintro (i | ⟨n, entries, index⟩)
          · rfl
          · exact congrArg toEntry (ih _)
        rw [modifyAt_cons hposition, modify_congr fun e _ => hbelow e, List.modify_id]

/-! ## names and kinds -/

theorem name_modifyAt (change : Entry S ω → Entry S ω) (g : Group S ω) (position : Position) :
    (g.modifyAt change position).name = g.name := by
  rcases position with _ | ⟨place, _ | ⟨next, position⟩⟩
  · rfl
  · rfl
  · rw [modifyAt_cons (by simp)]

theorem label_modifyBelow (change : Entry S ω → Entry S ω) (position : Position) (e : Entry S ω) :
    (e.modifyBelow change position).label = e.label := by
  cases e with
  | item i => rfl
  | group n entries index => exact congrArg (·, EntryKind.group) (name_modifyAt ..)

variable {change : Content S ω → Content S ω}

theorem label_modifyContent (hkind : ∀ c, (change c).kind = c.kind) (e : Entry S ω) :
    (e.modifyContent change).label = e.label := by
  cases e with
  | item i => exact congrArg (fun kind => (i.name, EntryKind.item kind)) (hkind i.content)
  | group n entries index => rfl

theorem map_label_modify {f : Entry S ω → Entry S ω} (h : ∀ e, (f e).label = e.label)
    (entries : List (Entry S ω)) (place next : Nat) :
    ((entries.modify place f)[next]?).map Entry.label = (entries[next]?).map Entry.label := by
  rw [List.getElem?_modify, Option.map_eq_map, Option.map_map]
  refine Option.map_congr fun e _ => ?_
  rw [Function.comp_apply]
  split
  · exact h e
  · rfl

/-- At every position is an entry of the same name and kind. -/
theorem map_label_at?_modifyAt (hkind : ∀ c, (change c).kind = c.kind) (g : Group S ω)
    (position other : Position) :
    ((g.modifyAt (Entry.modifyContent change) position).at? other).map Entry.label =
      (g.at? other).map Entry.label := by
  induction other generalizing g position with
  | nil => rfl
  | cons next other ih =>
      cases position with
      | nil => rfl
      | cons place position =>
          by_cases hother : other = []
          · subst hother
            by_cases hposition : position = []
            · subst hposition
              exact map_label_modify (label_modifyContent hkind) g.entries place next
            · rw [modifyAt_cons hposition]
              exact map_label_modify (label_modifyBelow _ position) g.entries place next
          · obtain ⟨f, hf, hgroup⟩ := exists_entries_modifyAt change g place position
            rw [hf, at?_cons hother, at?_cons hother, ← Option.bind_assoc, ← Option.bind_assoc,
              Option.map_bind, Option.map_bind]
            by_cases hplace : place = next
            · subst hplace
              rw [bind_group?_modify hgroup, Option.bind_map]
              exact Option.bind_congr fun inner _ => ih inner position
            · rw [List.getElem?_modify_ne f _ hplace]

end Group

namespace Items

open Observer (Outcome Signal Storage)

/-! ## the item at a path -/

/-- The item at a path, if an item is there. -/
def itemAt? (s : Items S ω) (path : String) : Option (Item S ω) :=
  (s.find? path).bind Entry.item?

section

variable {s : Items S ω} {path : String} {kind : Kind}

theorem itemAt?_eq_some_iff {i : Item S ω} :
    s.itemAt? path = some i ↔ s.find? path = some (.item i) := by
  rw [itemAt?]
  cases s.find? path with
  | none => simp
  | some e => cases e <;> simp [Entry.item?]

theorem item_cases (s : Items S ω) (path : String) :
    (∃ i, s.itemAt? path = some i ∧ s.item path = .ok i) ∨
      (s.itemAt? path = none ∧ ∃ err, s.item path = .error err) := by
  rw [item, itemAt?]
  cases s.find? path with
  | none => exact .inr ⟨rfl, _, rfl⟩
  | some e =>
      cases e with
      | item i => exact .inl ⟨i, rfl, rfl⟩
      | group n entries index => exact .inr ⟨rfl, _, rfl⟩

theorem itemOf_cases (s : Items S ω) (kind : Kind) (path : String) :
    (∃ i, s.itemAt? path = some i ∧ i.content.kind = kind ∧ s.itemOf kind path = .ok i) ∨
      ((∀ i, s.itemAt? path = some i → i.content.kind ≠ kind) ∧
        ∃ err, s.itemOf kind path = .error err) := by
  rw [itemOf, itemAt?]
  cases s.find? path with
  | none => exact .inr ⟨fun i hi => (by cases hi), _, rfl⟩
  | some e =>
      cases e with
      | group n entries index => exact .inr ⟨fun i hi => (by cases hi), _, rfl⟩
      | item i =>
          by_cases hkind : i.content.kind = kind
          · exact .inl ⟨i, rfl, hkind, if_pos hkind⟩
          · exact .inr ⟨fun j hj => Option.some.inj hj ▸ hkind, _, if_neg hkind⟩

/-- A change of the item at a path matters only for the content that is there. -/
theorem modify_congr {f f' : Content S ω → Content S ω}
    (h : ∀ i, s.itemAt? path = some i → f i.content = f' i.content) :
    s.modify path f = s.modify path f' := by
  rw [modify, modify]
  cases hpath : s.locate? path with
  | none => rfl
  | some position =>
      refine congrArg Items.mk (Group.modifyAt_congr fun e he => ?_)
      cases e with
      | group n entries index => rfl
      | item i =>
          have hitem := itemAt?_eq_some_iff.2 (find?_eq_some_iff.2 ⟨position, hpath, he⟩)
          rw [Entry.modifyContent, Entry.modifyContent, h i hitem]

theorem modify_eq_self {f : Content S ω → Content S ω}
    (h : ∀ i, s.itemAt? path = some i → f i.content = i.content) : s.modify path f = s := by
  have hid : Entry.modifyContent (id : Content S ω → Content S ω) = id := by
    funext e
    cases e <;> rfl
  have hcongr : s.modify path f = s.modify path id := modify_congr h
  rw [hcongr, modify]
  split
  · rfl
  · rw [hid, Group.modifyAt_id]

/-- The item at the path is there with its content changed. -/
theorem itemAt?_modify {i : Item S ω} (h : s.itemAt? path = some i)
    (change : Content S ω → Content S ω) :
    (s.modify path change).itemAt? path = some { i with content := change i.content } := by
  obtain ⟨position, hpath, hitem⟩ := find?_eq_some_iff.1 (itemAt?_eq_some_iff.1 h)
  refine itemAt?_eq_some_iff.2 (find?_eq_some_iff.2 ⟨position, ?_, at?_modify hpath hitem change⟩)
  rw [locate?_modify, hpath]

/-- What stands at a path that leads elsewhere is as it was. -/
theorem itemAt?_modify_of_ne {path' : String} (h : s.locate? path ≠ s.locate? path')
    (change : Content S ω → Content S ω) :
    (s.modify path change).itemAt? path' = s.itemAt? path' := by
  refine Option.ext fun i => ?_
  rw [itemAt?_eq_some_iff, itemAt?_eq_some_iff, find?_eq_some_iff, find?_eq_some_iff,
    locate?_modify]
  refine exists_congr fun position => and_congr_right fun hpath => ?_
  rw [modify]
  split
  · rfl
  · next found hfound =>
    have hne : found ≠ position := fun heq => h (by rw [hfound, hpath, heq])
    exact Group.at?_modifyAt_of_ne change s.root hne i

/-- Every path leads to an entry of the same name and kind. -/
theorem map_label_find?_modify {change : Content S ω → Content S ω}
    (hkind : ∀ c, (change c).kind = c.kind) (path path' : String) :
    ((s.modify path change).find? path').map Entry.label = (s.find? path').map Entry.label := by
  rw [find?, find?, locate?_modify, Option.map_bind, Option.map_bind]
  refine Option.bind_congr fun position _ => ?_
  rw [Function.comp_apply, Function.comp_apply, modify]
  split
  · rfl
  · exact Group.map_label_at?_modifyAt hkind ..

end

/-! ## contents -/

namespace Content

theorem exists_command_of_kind {c : Content S ω} (h : c.kind = .command) :
    ∃ action, c = .command action := by
  cases c <;> first | exact ⟨_, rfl⟩ | cases h

/-- Changes the signal, if there is one. -/
def mapChanged (change : Signal S → Signal S) (c : Content S ω) : Content S ω :=
  c.changed?.elim c fun signal => c.setChanged (change signal)

/-- Changes the action of a command. -/
def setAction (action : Option ω) : Content S ω → Content S ω
  | .command _ => .command action
  | c => c

/-- The call of the action of a command. -/
def actionCall : Content S ω → List (ω × Notice)
  | .command action => action.toList.map (·, .run)
  | _ => []

section

variable {c : Content S ω}

theorem setAction_of_kind_ne {action : Option ω} (h : c.kind ≠ .command) :
    c.setAction action = c := by
  cases c <;> first | rfl | exact absurd rfl h

theorem actionCall_of_kind_ne (h : c.kind ≠ .command) : c.actionCall = [] := by
  cases c <;> first | rfl | exact absurd rfl h

end

variable [Storage S ω]

/-- The observers of the value, if there is one. -/
def observers (c : Content S ω) : List ω :=
  c.changed?.elim [] Signal.observers

/-- Assigns the opposite of a boolean. -/
def assignToggled (c : Content S ω) : Bool × Content S ω × List (ω × Notice) :=
  match c with
  | .flag state => c.assignFlag !state.value
  | c => (false, c, [])

/-- The calls of the observers of a value of the kind. -/
def emission (kind : Kind) (notice : Notice) (c : Content S ω) : List (ω × Notice) :=
  if c.kind = kind then c.observers.map (·, notice) else []

theorem assignToggled_of_kind_ne {c : Content S ω} (h : c.kind ≠ .flag) :
    c.assignToggled = (false, c, []) := by
  cases c <;> first | rfl | exact absurd rfl h

end Content

namespace ValueKind

variable {k : ValueKind} {c : Content S ω}

theorem exists_holds (h : c.kind = k.kind) : ∃ state, k.Holds c state := by
  cases k <;> cases c <;> first
    | exact ⟨_, .text _⟩
    | exact ⟨_, .flag _⟩
    | exact ⟨_, .choice _ _⟩
    | cases h

/-- An assignment to an item of another kind does nothing. -/
theorem assign_of_kind_ne [Storage S ω] {value : k.Carrier} (h : c.kind ≠ k.kind) :
    k.assign value c = (false, c, []) := by
  cases k <;> cases c <;> first | rfl | exact absurd rfl h

end ValueKind

namespace Operation

variable [Storage S ω]

/-- What an operation makes of the content of the item at its path. -/
def onContent : Operation ω → Content S ω → Content S ω
  | .setText _ value, c => (c.assignText value).2.1
  | .setFlag _ value, c => (c.assignFlag value).2.1
  | .setChoice _ value, c => (c.assignChoice value).2.1
  | .toggle _, c => c.assignToggled.2.1
  | .observe _ observer, c => c.mapChanged fun signal => (signal.connect observer).2
  | .disconnect _ handle, c => c.mapChanged fun signal => (signal.disconnect handle).2
  | .disconnectAll _, c => c.mapChanged Signal.disconnectAll
  | .bind _ action, c => c.setAction (some action)
  | .unbind _, c => c.setAction none
  | .emitText .., c | .emitFlag .., c | .emitChoice .., c | .execute _, c => c

/-- The calls that an operation makes for the content of the item at its path. -/
def callsOn : Operation ω → Content S ω → List (ω × Notice)
  | .setText _ value, c => (c.assignText value).2.2
  | .setFlag _ value, c => (c.assignFlag value).2.2
  | .setChoice _ value, c => (c.assignChoice value).2.2
  | .toggle _, c => c.assignToggled.2.2
  | .emitText _ value, c => c.emission .text (.text value)
  | .emitFlag _ value, c => c.emission .flag (.flag value)
  | .emitChoice _ value, c => c.emission .choice (.choice value)
  | .execute _, c => c.actionCall
  | .observe .., _ | .disconnect .., _ | .disconnectAll _, _ | .bind .., _ | .unbind _, _ => []

end Operation

/-! ## what operations do -/

/-- What is done is a change of the content of the item at a path, with the calls
for that content; nothing, if no item is there. -/
structure Does (s : Items S ω) (path : String) (change : Content S ω → Content S ω)
    (calls : Content S ω → List (ω × Notice)) (done : Outcome (Items S ω) ω Notice Reply) :
    Prop where
  state : done.state = s.modify path change
  calls : done.calls = (s.itemAt? path).elim [] fun i => calls i.content

section

variable {s : Items S ω} {path : String} {change : Content S ω → Content S ω}
  {calls : Content S ω → List (ω × Notice)}

/-- Only the content that is there matters. -/
theorem Does.congr {change' : Content S ω → Content S ω} {calls' : Content S ω → List (ω × Notice)}
    {done : Outcome (Items S ω) ω Notice Reply}
    (h : ∀ i, s.itemAt? path = some i →
      change i.content = change' i.content ∧ calls i.content = calls' i.content)
    (hdone : Does s path change calls done) : Does s path change' calls' done where
  state := hdone.state.trans (modify_congr fun i hi => (h i hi).1)
  calls := by
    rw [hdone.calls]
    cases hi : s.itemAt? path with
    | none => rfl
    | some i => exact (h i hi).2

theorem does_quiet (h : ∀ i, s.itemAt? path = some i →
    change i.content = i.content ∧ calls i.content = []) (reply : Reply) :
    Does s path change calls (.quiet s reply) where
  state := (modify_eq_self fun i hi => (h i hi).1).symm
  calls := by
    cases hi : s.itemAt? path with
    | none => rfl
    | some i => exact (h i hi).2.symm

theorem does_withSignal {change : Signal S → Reply × Signal S}
    {f : Signal S → Signal S} (hf : ∀ signal, (change signal).2 = f signal) :
    Does s path (fun c => c.mapChanged f) (fun _ => []) (s.withSignal path change) := by
  rw [withSignal]
  obtain ⟨i, hi, hitem⟩ | ⟨hnone, err, hitem⟩ := item_cases s path
  · rw [hitem]
    cases hchanged : i.content.changed? with
    | none =>
        simp only [hchanged]
        refine does_quiet (fun j hj => ?_) _
        obtain rfl := Option.some.inj (hi.symm.trans hj)
        simp [Content.mapChanged, hchanged]
    | some signal =>
        simp only [hchanged]
        refine ⟨modify_congr fun j hj => ?_, by rw [hi]; rfl⟩
        obtain rfl := Option.some.inj (hi.symm.trans hj)
        simp [Content.mapChanged, hchanged, hf]
  · rw [hitem]
    exact does_quiet (fun i hi => by simp [hnone] at hi) _

theorem does_withCommand (s : Items S ω) (path : String) (action : Option ω) :
    Does s path (Content.setAction action) (fun _ => []) (s.withCommand path action) := by
  rw [withCommand]
  obtain ⟨i, hi, hkind, hitem⟩ | ⟨hne, err, hitem⟩ := itemOf_cases s .command path
  · rw [hitem]
    refine ⟨modify_congr fun j hj => ?_, by rw [hi]; rfl⟩
    obtain rfl := Option.some.inj (hi.symm.trans hj)
    obtain ⟨former, hcontent⟩ := Content.exists_command_of_kind hkind
    rw [hcontent, Content.setAction]
  · rw [hitem]
    exact does_quiet (fun i hi => ⟨Content.setAction_of_kind_ne (hne i hi), rfl⟩) _

theorem does_executeAt (s : Items S ω) (path : String) :
    Does s path (fun c => c) Content.actionCall (s.executeAt path) := by
  have hsame : s.modify path (fun c => c) = s := modify_eq_self fun _ _ => rfl
  rw [executeAt]
  obtain ⟨i, hi, hkind, hitem⟩ | ⟨hne, err, hitem⟩ := itemOf_cases s .command path
  · obtain ⟨action, hcontent⟩ := Content.exists_command_of_kind hkind
    rw [hitem]
    cases action with
    | none =>
        constructor
        · simp [hcontent, hsame, Outcome.quiet]
        · simp [hi, hcontent, Outcome.quiet, Content.actionCall]
    | some action =>
        constructor
        · simp [hcontent, hsame]
        · simp [hi, hcontent, Content.actionCall]
  · rw [hitem]
    exact does_quiet (fun i hi => ⟨rfl, Content.actionCall_of_kind_ne (hne i hi)⟩) _

variable [Storage S ω]

theorem does_assignAt (k : ValueKind) (s : Items S ω) (path : String) (value : k.Carrier) :
    Does s path (fun c => (k.assign value c).2.1) (fun c => (k.assign value c).2.2)
      (s.assignAt k.kind path (k.assign value)) := by
  rw [assignAt]
  obtain ⟨i, hi, -, hitem⟩ | ⟨hne, err, hitem⟩ := itemOf_cases s k.kind path
  · rw [hitem]
    refine ⟨modify_congr fun j hj => ?_, by rw [hi]; rfl⟩
    rw [Option.some.inj (hi.symm.trans hj)]
  · rw [hitem]
    refine does_quiet (fun i hi => ?_) _
    simp [ValueKind.assign_of_kind_ne (hne i hi)]

theorem does_emitAt (s : Items S ω) (kind : Kind) (path : String) (notice : Notice) :
    Does s path (fun c => c) (Content.emission kind notice) (s.emitAt kind path notice) := by
  rw [emitAt]
  obtain ⟨i, hi, hkind, hitem⟩ | ⟨hne, err, hitem⟩ := itemOf_cases s kind path
  · rw [hitem]
    refine ⟨(modify_eq_self fun _ _ => rfl).symm, ?_⟩
    simp [hi, Content.emission, hkind, Content.observers]
  · rw [hitem]
    exact does_quiet (fun i hi => ⟨rfl, if_neg (hne i hi)⟩) _

/-- To toggle is to assign the opposite of the value that is read. -/
theorem does_toggle (s : Items S ω) (path : String) :
    Does s path (fun c => c.assignToggled.2.1) (fun c => c.assignToggled.2.2)
      (system s (.toggle path)) := by
  rw [system]
  obtain ⟨⟨info, content⟩, hi, hkind, hitem⟩ | ⟨hne, err, hitem⟩ := itemOf_cases s .flag path
  · obtain ⟨state, hstate⟩ := ValueKind.exists_holds (k := .flag) hkind
    cases hstate
    have hread : s.flagAt path = .ok state.value := by
      rw [flagAt, hitem]
      rfl
    have hassign := does_assignAt .flag s path !state.value
    rw [hread]
    have hdone : Does s path (fun c => (c.assignFlag !state.value).2.1)
        (fun c => (c.assignFlag !state.value).2.2)
        { s.assignAt .flag path (Content.assignFlag !state.value) with reply := fun _ => .done } :=
      ⟨hassign.state, hassign.calls⟩
    refine hdone.congr fun j hj => ?_
    obtain rfl := Option.some.inj (hi.symm.trans hj)
    exact ⟨rfl, rfl⟩
  · have hread : s.flagAt path = .error err := by
      rw [flagAt, hitem]
      rfl
    rw [hread]
    refine does_quiet (fun i hi => ?_) _
    simp [Content.assignToggled_of_kind_ne (hne i hi)]

/-- **An operation does what it does to the content of the item at its path, with
the calls for that content, and nothing else.** -/
theorem does_system (s : Items S ω) (o : Operation ω) :
    Does s o.path o.onContent o.callsOn (system s o) := by
  cases o with
  | setText path value => exact does_assignAt .text s path value
  | setFlag path value => exact does_assignAt .flag s path value
  | setChoice path value => exact does_assignAt .choice s path value
  | toggle path => exact does_toggle s path
  | emitText | emitFlag | emitChoice => exact does_emitAt ..
  | observe | disconnect | disconnectAll =>
      rw [system]
      exact does_withSignal fun _ => rfl
  | bind | unbind => exact does_withCommand ..
  | execute path => exact does_executeAt s path

end

end Items

end UiMarkup
