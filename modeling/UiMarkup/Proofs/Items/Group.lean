import UiMarkup.Items.Group

/-!
# UiMarkup.Proofs.Items.Group

Groups whose index is in order: it has the place of every entry under the key
of its name, and nothing else.

* `insert_ofEntries_eq_ok_iff`: such a group takes one more entry exactly if
  the name of that is one and its key is new, and stays such a group;
* `replaceLast_ofEntries_concat`: so it does if another entry of the same name
  stands in the place of the last one.
-/

namespace UiMarkup

open Items

variable {S ω : Type}

/-- What the name of an entry is compared by. -/
def Entry.key (e : Entry S ω) : String :=
  Items.key e.name

namespace Group

/-- The group of these entries, with the place of each in the index. -/
def ofEntries (name : String) (entries : List (Entry S ω)) : Group S ω :=
  ⟨name, entries, entries.mapIdx fun i e => (e.key, i)⟩

/-! ## one more entry -/

theorem ofEntries_concat (name : String) (entries : List (Entry S ω)) (e : Entry S ω) :
    ofEntries name (entries ++ [e]) =
      ⟨name, entries ++ [e], (ofEntries name entries).index ++ [(e.key, entries.length)]⟩ := by
  rw [ofEntries, List.mapIdx_concat]
  rfl

theorem map_fst_index (entries : List (Entry S ω)) :
    (entries.mapIdx fun i e => (e.key, i)).map Prod.fst = entries.map Entry.key :=
  List.ext_getElem (by simp) (by simp)

/-- A key is not in the index exactly if no entry has it. -/
theorem lookup_ofEntries_eq_none_iff {name : String} {entries : List (Entry S ω)} {k : String} :
    (ofEntries name entries).index.lookup k = none ↔ k ∉ entries.map Entry.key := by
  have hkeys : (ofEntries name entries).index.map Prod.fst = entries.map Entry.key :=
    map_fst_index entries
  rw [List.lookup_eq_none_iff, ← hkeys]
  constructor
  · intro h hmem
    obtain ⟨p, hp, rfl⟩ := List.mem_map.1 hmem
    simpa using h p hp
  · intro h p hp
    have hne : k ≠ p.1 := fun heq => h (heq ▸ List.mem_map_of_mem hp)
    simpa using hne

/-- One more entry is taken exactly if its name is one and its key is new. -/
theorem insert_ofEntries_eq_ok_iff {name : String} {entries : List (Entry S ω)} {e : Entry S ω}
    {g : Group S ω} :
    (ofEntries name entries).insert e = .ok g ↔
      isName e.name = true ∧ e.key ∉ entries.map Entry.key ∧
        g = ofEntries name (entries ++ [e]) := by
  rw [insert_eq_ok, ← Entry.key, lookup_ofEntries_eq_none_iff, ofEntries_concat]
  rfl

/-- An entry is refused for its name, or else for its key. -/
theorem insert_eq_error {g : Group S ω} {e : Entry S ω} {err : Error} :
    g.insert e = .error err ↔
      (isName e.name = false ∧ err = .invalidName e.name) ∨
        (isName e.name = true ∧ (g.index.lookup (key e.name)).isSome = true ∧
          err = .duplicateName g.name e.name) := by
  unfold insert
  by_cases hname : isName e.name = true
  · by_cases hkey : (g.index.lookup (key e.name)).isSome = true
    · simpa [hname, hkey] using eq_comm
    · simp [hname, hkey]
  · simpa [hname] using eq_comm

/-- One more entry stands behind the others. -/
theorem entries_of_insert {g h : Group S ω} {e : Entry S ω} (hins : g.insert e = .ok h) :
    h.entries = g.entries ++ [e] := by
  obtain ⟨-, -, rfl⟩ := insert_eq_ok.1 hins
  rfl

/-! ## the last entry -/

theorem last?_of_entries {g : Group S ω} {entries : List (Entry S ω)} {e : Entry S ω}
    (h : g.entries = entries ++ [e]) : g.last? = some e := by
  rw [last?, h, List.getLast?_concat]

theorem last?_replaceLast (g : Group S ω) (e : Entry S ω) : (g.replaceLast e).last? = some e :=
  last?_of_entries rfl

theorem last?_ofEntries_concat (name : String) (entries : List (Entry S ω)) (e : Entry S ω) :
    (ofEntries name (entries ++ [e])).last? = some e :=
  List.getLast?_concat

/-- Another entry of the same name stands in the place of the last one. -/
theorem replaceLast_ofEntries_concat {name : String} {entries : List (Entry S ω)}
    {e e' : Entry S ω} (hname : e'.name = e.name) :
    (ofEntries name (entries ++ [e])).replaceLast e' = ofEntries name (entries ++ [e']) := by
  have hkey : e'.key = e.key := congrArg Items.key hname
  rw [ofEntries_concat, ofEntries_concat, replaceLast, List.dropLast_concat, hkey]

end Group

end UiMarkup
