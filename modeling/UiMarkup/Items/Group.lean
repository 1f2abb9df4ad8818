import UiMarkup.Items.Error
import UiMarkup.Items.Item
import UiMarkup.Items.Name

/-!
# UiMarkup.Items.Group

Groups of items and further groups.  A group keeps its entries in the order
in which they were added, and an index from the key of every name to the
place of its entry.

* `Group.insert` adds an entry whose name is new to the group;
* `Group.addItem` and `Group.addGroup` add one and give it as it then stands;
* `Group.get?` finds an entry by name.
-/

namespace UiMarkup

/-- What a group holds: an item, or a group with its entries and its index. -/
inductive Entry (S ω : Type) where
  | item (i : Item S ω)
  | group (name : String) (entries : List (Entry S ω)) (index : List (String × Nat))

/-- A group: its name, its entries, and the place of every key. -/
structure Group (S ω : Type) where
  name : String
  entries : List (Entry S ω)
  index : List (String × Nat)

namespace Entry

open Items

/-- The name of an entry. -/
def name : Entry S ω → String
  | .item i => i.name
  | .group n _ _ => n

/-- The kind of an entry. -/
def kind : Entry S ω → EntryKind
  | .item i => .item i.kind
  | .group _ _ _ => .group

/-- The item that an entry is, if it is one. -/
def item? : Entry S ω → Option (Item S ω)
  | .item i => some i
  | .group _ _ _ => none

/-- The group that an entry is, if it is one. -/
def group? : Entry S ω → Option (Group S ω)
  | .item _ => none
  | .group n entries index => some ⟨n, entries, index⟩

/-- Changes the content of an item and leaves groups alone. -/
def modifyContent (change : Content S ω → Content S ω) : Entry S ω → Entry S ω
  | .item i => .item { i with content := change i.content }
  | .group n entries index => .group n entries index

end Entry

namespace Group

open Items

/-- A group as an entry. -/
def toEntry (g : Group S ω) : Entry S ω :=
  .group g.name g.entries g.index

/-- An entry that is a group is that group as an entry. -/
@[simp] theorem group?_toEntry (g : Group S ω) : g.toEntry.group? = some g := rfl

/-- The group without entries. -/
def empty (name : String) : Group S ω := ⟨name, [], []⟩

/-! ## adding -/

/-- Adds an entry at the end, provided that its name is one and that no entry
of the group has the same key. -/
def insert (g : Group S ω) (e : Entry S ω) : Except Error (Group S ω) :=
  if isName e.name then
    if (g.index.lookup (key e.name)).isSome then .error (.duplicateName g.name e.name)
    else .ok { g with
      entries := g.entries ++ [e]
      index := g.index ++ [(key e.name, g.entries.length)] }
  else .error (.invalidName e.name)

/-- An entry is added exactly if its name is one and its key is new. -/
theorem insert_eq_ok {g h : Group S ω} {e : Entry S ω} :
    g.insert e = .ok h ↔
      isName e.name = true ∧ g.index.lookup (key e.name) = none ∧
        h = ⟨g.name, g.entries ++ [e], g.index ++ [(key e.name, g.entries.length)]⟩ := by
  unfold insert
  by_cases hn : isName e.name = true
  · cases hk : g.index.lookup (key e.name) <;> simp [hn, eq_comm]
  · simp [hn]

/-- A group and the place of one of its entries. -/
structure Placed (S ω : Type) where
  group : Group S ω
  place : Fin group.entries.length

/-- The entry in the place. -/
def Placed.entry (p : Placed S ω) : Entry S ω :=
  p.group.entries[p.place]

/-- Adds an entry at the end and gives its place. -/
def insertPlaced (g : Group S ω) (e : Entry S ω) : Except Error (Placed S ω) :=
  match h : g.insert e with
  | .ok g' => .ok ⟨g', ⟨g.entries.length, by simp [(insert_eq_ok.1 h).2.2]⟩⟩
  | .error err => .error err

/-- Adds an entry and gives what then stands in its place, which must be what
is sought. -/
def addAs (sought : Sought) (view : Entry S ω → Option α) (g : Group S ω) (e : Entry S ω) :
    Except Error (Group S ω × α) := do
  let p ← g.insertPlaced e
  match view p.entry with
  | some x => .ok (p.group, x)
  | none => .error (.wrongKind sought p.entry.kind p.entry.name)

/-- The group is the one with the entry. -/
theorem map_group_insertPlaced (g : Group S ω) (e : Entry S ω) :
    (g.insertPlaced e).map Placed.group = g.insert e := by
  unfold insertPlaced
  split
  · next g' h => exact h.symm
  · next err h => exact h.symm

/-- What stands in the place of an added entry is that entry. -/
theorem entry_of_insertPlaced {g : Group S ω} {e : Entry S ω} {p : Placed S ω}
    (h : g.insertPlaced e = .ok p) : p.entry = e := by
  unfold insertPlaced at h
  split at h
  · next g' hins =>
    obtain rfl := Except.ok.inj h
    obtain ⟨-, -, rfl⟩ := insert_eq_ok.1 hins
    simp [Placed.entry]
  · cases h

/-- An entry that is what is sought is added like any other, and nothing else is
ever found in its place. -/
theorem addAs_eq {sought : Sought} {view : Entry S ω → Option α} {g : Group S ω}
    {e : Entry S ω} {x : α} (hview : view e = some x) :
    g.addAs sought view e = (g.insert e).map (·, x) := by
  rw [← map_group_insertPlaced, addAs]
  cases h : g.insertPlaced e with
  | error err => rfl
  | ok p =>
    rw [← entry_of_insertPlaced h] at hview
    simp [bind, Except.bind, Except.map, hview]

/-- Adds an item and gives it as it stands in the group. -/
def addItem (g : Group S ω) (i : Item S ω) : Except Error (Group S ω × Item S ω) :=
  g.addAs .anyItem Entry.item? (.item i)

/-- Adds a group without entries and gives it as it stands in the group. -/
def addGroup (g : Group S ω) (name : String) : Except Error (Group S ω × Group S ω) :=
  g.addAs .group Entry.group? (empty name).toEntry

/-- An item is added like any entry, and given as it is. -/
theorem addItem_eq (g : Group S ω) (i : Item S ω) :
    g.addItem i = (g.insert (.item i)).map (·, i) :=
  addAs_eq rfl

/-- A group without entries is added like any entry, and given as it is. -/
theorem addGroup_eq (g : Group S ω) (name : String) :
    g.addGroup name = (g.insert (empty name).toEntry).map (·, empty name) :=
  addAs_eq rfl

/-! ## looking up -/

/-- The place of the entry of a name. -/
def place? (g : Group S ω) (name : String) : Option Nat :=
  g.index.lookup (key name)

/-- The entry of a name. -/
def get? (g : Group S ω) (name : String) : Option (Entry S ω) :=
  (g.place? name).bind fun i => g.entries[i]?

/-- The item of a name. -/
def item? (g : Group S ω) (name : String) : Option (Item S ω) :=
  (g.get? name).bind Entry.item?

/-- The group of a name. -/
def group? (g : Group S ω) (name : String) : Option (Group S ω) :=
  (g.get? name).bind Entry.group?

/-- The items, in order. -/
def items (g : Group S ω) : List (Item S ω) :=
  g.entries.filterMap Entry.item?

/-- The groups, in order. -/
def groups (g : Group S ω) : List (Group S ω) :=
  g.entries.filterMap Entry.group?

/-! ## the last entry -/

/-- The entry added last. -/
def last? (g : Group S ω) : Option (Entry S ω) :=
  g.entries.getLast?

/-- The group with another entry in the place of the last one. -/
def replaceLast (g : Group S ω) (e : Entry S ω) : Group S ω :=
  { g with entries := g.entries.dropLast ++ [e] }

/-- The group reached by going `depth` times into the last entry, as far as
that is a group. -/
def innermost (g : Group S ω) : Nat → Group S ω
  | 0 => g
  | depth + 1 =>
    match g.last? with
    | some (.group n entries index) => innermost ⟨n, entries, index⟩ depth
    | _ => g

/-- The group with another group in the place of the one reached by going
`depth` times into the last entry. -/
def replaceInnermost (g : Group S ω) : Nat → Group S ω → Group S ω
  | 0, other => other
  | depth + 1, other =>
    match g.last? with
    | some (.group n entries index) =>
      g.replaceLast (replaceInnermost ⟨n, entries, index⟩ depth other).toEntry
    | _ => other

end Group

end UiMarkup
