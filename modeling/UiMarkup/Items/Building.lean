import UiMarkup.Items.Store

/-!
# UiMarkup.Items.Building

Stores built step by step and in place: entries are added to a group, and the
entry added last is completed.  The group is the one reached by going a number
of times into the last entry, starting at the root.

* `Items.add` adds an entry, or fails and says what it leaves;
* `Items.edit?` changes the entry added last.
-/

namespace UiMarkup

open Items

namespace Items

/-- A change of the item added last. -/
inductive Edit where
  | setTitle (title : Option String)
  | setHint (hint : Option String)
  | addOption (option : Info)

/-- Changes an item; only a choice takes options. -/
def Edit.onItem? (i : Item S ω) : Edit → Option (Item S ω)
  | .setTitle title => some (i.setTitle title)
  | .setHint hint => some (i.setHint hint)
  | .addOption option => i.addOption? option

end Items

namespace Group

/-- Adds an entry in place.  The checks come first; after them the index and
the entries grow, one after the other. -/
def add (e : Entry S ω) : EStateM Error (Group S ω) Unit := do
  unless isName e.name do
    throw (.invalidName e.name)
  let g ← get
  if (g.index.lookup (key e.name)).isSome then
    throw (.duplicateName g.name e.name)
  let indexed := { g with index := g.index ++ [(key e.name, g.entries.length)] }
  set indexed
  set { indexed with entries := indexed.entries ++ [e] }

/-- Adds an entry in place to the group reached by going `depth` times into
the last entry.  What is left of that group stands in its place, also if it
does not take the entry. -/
def addAt (depth : Nat) (e : Entry S ω) : EStateM Error (Group S ω) Unit := fun g =>
  match add e (g.innermost depth) with
  | .ok _ inner => .ok () (g.replaceInnermost depth inner)
  | .error err inner => .error err (g.replaceInnermost depth inner)

/-- Changes the last entry of a group, if that is an item and takes the
change. -/
def editLast? (edit : Edit) (g : Group S ω) : Option (Group S ω) :=
  match g.last? with
  | some (.item i) => (edit.onItem? i).map fun i => g.replaceLast (.item i)
  | _ => none

/-- Changes the last entry of the group at a depth. -/
def editAt? (depth : Nat) (edit : Edit) (g : Group S ω) : Option (Group S ω) :=
  (editLast? edit (g.innermost depth)).map (g.replaceInnermost depth)

end Group

namespace Items

/-- Adds an entry to the group at a depth. -/
def add (depth : Nat) (e : Entry S ω) : EStateM Error (Items S ω) Unit := fun s =>
  match Group.addAt depth e s.root with
  | .ok _ root => .ok () ⟨root⟩
  | .error err root => .error err ⟨root⟩

/-- Changes the last entry of the group at a depth. -/
def edit? (s : Items S ω) (depth : Nat) (edit : Edit) : Option (Items S ω) :=
  (s.root.editAt? depth edit).map (⟨·⟩)

end Items

end UiMarkup
