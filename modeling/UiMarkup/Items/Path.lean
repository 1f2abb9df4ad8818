import UiMarkup.Items.Group

/-!
# UiMarkup.Items.Path

Paths of names, joined by points, and the positions that they lead to.  Every
name of a path but the last one must name a group.

* `Group.locate?` turns names into a position;
* `Group.at?` and `Group.modifyAt` read and change the entry at a position.
-/

namespace UiMarkup

namespace Items

/-! ## paths -/

/-- Cuts a text at every occurrence of a character. -/
def splitAt (sep : Char) : List Char → List (List Char)
  | [] => [[]]
  | c :: rest =>
    if c = sep then [] :: splitAt sep rest
    else
      match splitAt sep rest with
      | [] => [[c]]
      | part :: parts => (c :: part) :: parts

/-- The names that a path is made of. -/
def namesOfPath (path : String) : List String :=
  (splitAt '.' path.toList).map String.ofList

/-- A place in a tree: the places on the way down to it. -/
abbrev Position := List Nat

end Items

namespace Group

open Items

/-! ## positions -/

/-- The position that names lead to from a group on. -/
def locate? (g : Group S ω) : List String → Option Position
  | [] => none
  | [n] => (g.place? n).map ([·])
  | n :: names => do
    let place ← g.place? n
    let entry ← g.entries[place]?
    let inner ← entry.group?
    let position ← inner.locate? names
    some (place :: position)

/-- The entry at a position. -/
def at? (g : Group S ω) : Position → Option (Entry S ω)
  | [] => none
  | [place] => g.entries[place]?
  | place :: position => do
    let entry ← g.entries[place]?
    let inner ← entry.group?
    inner.at? position

/-- Changes the entry at a position. -/
def modifyAt (g : Group S ω) (change : Entry S ω → Entry S ω) : Position → Group S ω
  | [] => g
  | [place] => { g with entries := g.entries.modify place change }
  | place :: position =>
    { g with entries := g.entries.modify place fun entry =>
        match entry with
        | .group n entries index =>
          (modifyAt ⟨n, entries, index⟩ change position).toEntry
        | .item i => .item i }

end Group

end UiMarkup
