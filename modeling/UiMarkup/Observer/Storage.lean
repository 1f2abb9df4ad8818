/-!
# UiMarkup.Observer.Storage

Storage under handles that never come back, as a signal needs it.

* `Storage` has the operations;
* `Storage.Reached` says which handles were given out on the way to a state;
* `LawfulStorage` says what the operations do in the states that are reached.
-/

namespace UiMarkup.Observer

/-- The name of something stored: a place and the generation it was stored
in.  Generations count from one. -/
structure Handle where
  place : Nat
  generation : Nat
  deriving DecidableEq, Inhabited

/-- The handle that nothing is ever stored under. -/
def Handle.null : Handle := ⟨0, 0⟩

/-- Storage of values under handles that it gives out itself. -/
class Storage (S : Type) (α : outParam Type) where
  /-- The storage that nothing was put into yet. -/
  empty : S
  /-- Stores a value under a new handle. -/
  insert : S → α → Handle × S
  /-- What is stored under a handle. -/
  get? : S → Handle → Option α
  /-- Takes out what is stored under a handle. -/
  remove : S → Handle → Option α × S
  /-- Takes out everything. -/
  clear : S → S
  /-- The number of values stored. -/
  size : S → Nat

namespace Storage

/-- The states that are reached from the empty storage, each with the handles
given out on the way, in order. -/
inductive Reached [Storage S α] : List Handle → S → Prop
  | empty : Reached [] empty
  | insert {given : List Handle} {s : S} (x : α) :
      Reached given s → Reached (given ++ [(insert s x).1]) (insert s x).2
  | remove {given : List Handle} {s : S} (h : Handle) :
      Reached given s → Reached given (remove s h).2
  | clear {given : List Handle} {s : S} :
      Reached given s → Reached given (clear s)

end Storage

open Storage in
/-- Storage that keeps its promises: a handle is never given out twice, and
what is found under a handle is what was stored under it, unless it was taken
out since. -/
class LawfulStorage (S : Type) {α : outParam Type} [Storage S α] : Prop where
  /-- A new handle differs from all that were given out before. -/
  insert_fresh {given : List Handle} {s : S} (x : α) :
    Reached given s → (insert s x).1 ∉ given
  /-- Nothing is stored at first. -/
  get?_empty (h : Handle) : get? (empty : S) h = none
  /-- The value is found under its handle, and all else where it was. -/
  get?_insert {given : List Handle} {s : S} (x : α) (h : Handle) :
    Reached given s → get? (insert s x).2 h = if h = (insert s x).1 then some x else get? s h
  /-- What is taken out is what was found under the handle. -/
  fst_remove {given : List Handle} {s : S} (h : Handle) :
    Reached given s → (remove s h).1 = get? s h
  /-- Nothing is left under that handle, and all else stays where it was. -/
  get?_remove {given : List Handle} {s : S} (h h' : Handle) :
    Reached given s → get? (remove s h).2 h' = if h' = h then none else get? s h'
  /-- Nothing is left after everything is taken out. -/
  get?_clear {given : List Handle} {s : S} (h : Handle) :
    Reached given s → get? (clear s) h = none
  /-- The size counts the handles under which something is found. -/
  size_eq {given handles : List Handle} {s : S} :
    Reached given s → handles.Nodup → (∀ h, h ∈ handles ↔ (get? s h).isSome) →
      size s = handles.length

end UiMarkup.Observer
