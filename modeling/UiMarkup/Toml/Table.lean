/-!
# UiMarkup.Toml.Table

Values of TOML and the tables that a text builds up.  A key may be set once,
and a table may be extended only by the means that made it: its origin says
which of them are left.
-/

namespace UiMarkup.Toml

/-- How a table came to be. -/
inductive Origin where
  /-- By a header of its own, or as the whole text. -/
  | header
  /-- On the way to the table of a header. -/
  | implied
  /-- On the way to the value of a dotted key. -/
  | dotted
  /-- As a value between braces. -/
  | inline
  deriving DecidableEq

/-- A value.  Numbers, dates and times are one kind of value without content. -/
inductive Value where
  | string (text : String)
  | boolean (b : Bool)
  | quantity
  | array (values : List Value)
  | table (origin : Origin) (entries : List (String × Value))
  | tables (members : List (List (String × Value)))

/-- A table with its origin. -/
structure Table where
  origin : Origin
  entries : List (String × Value)

namespace Table

/-- The value of a key. -/
def get? (t : Table) (key : String) : Option Value :=
  t.entries.lookup key

/-- Sets the value of a key, in the place of an earlier value if there is one. -/
def set (t : Table) (key : String) (v : Value) : Table :=
  if (t.get? key).isSome then
    { t with entries := t.entries.map fun e => if e.1 = key then (key, v) else e }
  else { t with entries := t.entries ++ [(key, v)] }

/-- A table as a value. -/
def toValue (t : Table) : Value :=
  .table t.origin t.entries

/-! ## descent along keys -/

/-- Replaces the last of some tables. -/
def setLast (members : List (List (String × Value))) (entries : List (String × Value)) : Value :=
  .tables (members.dropLast ++ [entries])

/-- Changes the table that the keys lead to by `change`.  A missing table on
the way is made with the given origin; a key with several tables leads to the
last one.  Nothing leads into other values, and a dotted key leads into no
table that has a header. -/
def descend (origin : Origin) (change : Table → Option Table) :
    List String → Table → Option Table
  | [], t => change t
  | key :: keys, t =>
    match t.get? key with
    | none => do
      let inner ← descend origin change keys ⟨origin, []⟩
      some (t.set key inner.toValue)
    | some (.table inside entries) =>
      if inside = .inline ∨ (origin = .dotted ∧ inside = .header) then none
      else do
        let inner ← descend origin change keys ⟨inside, entries⟩
        some (t.set key inner.toValue)
    | some (.tables members) => do
      let inner ← descend origin change keys ⟨.header, members.getLast?.getD []⟩
      some (t.set key (setLast members inner.entries))
    | some _ => none

/-- Sets a dotted key.  The keys before the last one are `path`; the table
that they lead to must have been made by dotted keys as well. -/
def insert (path : List String) (key : String) (v : Value) : Table → Option Table :=
  descend .dotted (fun t =>
    if (path ≠ [] ∧ t.origin ≠ .dotted) ∨ (t.get? key).isSome then none
    else some (t.set key v)) path

/-- Makes the table of a header.  It may exist only as implied by headers. -/
def openTable (path : List String) (key : String) : Table → Option Table :=
  descend .implied (fun t =>
    match t.get? key with
    | none => some (t.set key (.table .header []))
    | some (.table .implied entries) => some (t.set key (.table .header entries))
    | some _ => none) path

/-- Makes one more table of a header between double brackets. -/
def openMember (path : List String) (key : String) : Table → Option Table :=
  descend .implied (fun t =>
    match t.get? key with
    | none => some (t.set key (.tables [[]]))
    | some (.tables members) => some (t.set key (.tables (members ++ [[]])))
    | some _ => none) path

end Table

end UiMarkup.Toml
