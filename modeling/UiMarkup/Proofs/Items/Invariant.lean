import Mathlib.Data.List.Nodup
import UiMarkup.Proofs.Items.Group

/-!
# UiMarkup.Proofs.Items.Invariant

What every group of a store keeps: the index has the place of each entry and
nothing else, every entry has a name, and no two names are the same.

* `Group.InOrder` says this of one group, `Group.Sound` of all groups in it;
* `Group.Sound.of_insert` and `Group.Sound.replaceLast`: one more entry, or
  another one in the last place, keeps it;
* `Group.InOrder.place?_eq_some_iff` says what the index is good for.
-/

namespace UiMarkup

open Items

variable {S ω : Type}

namespace Group

/-- The index has exactly one place for each entry, under the key of its name;
every name is one, and no two have the same key. -/
structure InOrder (g : Group S ω) : Prop where
  index : g.index = g.entries.mapIdx fun i e => (e.key, i)
  names : ∀ e ∈ g.entries, isName e.name = true
  keys : (g.entries.map Entry.key).Nodup

/-- The second group is the first one, or stands in it at some depth. -/
inductive Holds : Group S ω → Group S ω → Prop
  | here {g : Group S ω} : Holds g g
  | inside {g inner found : Group S ω} (hmem : inner.toEntry ∈ g.entries)
      (h : Holds inner found) : Holds g found

/-- Every group in a group is in order. -/
def Sound (g : Group S ω) : Prop :=
  ∀ found, g.Holds found → found.InOrder

/-! ## groups in groups -/

theorem toEntry_injective {g h : Group S ω} (heq : g.toEntry = h.toEntry) : g = h := by
  simpa using congrArg Entry.group? heq

theorem toEntry_ne_item (g : Group S ω) (i : Item S ω) : g.toEntry ≠ .item i := by
  simp [toEntry]

/-- A group is sound exactly if it is in order and all its groups are sound. -/
theorem sound_iff {g : Group S ω} :
    g.Sound ↔ g.InOrder ∧ ∀ inner : Group S ω, inner.toEntry ∈ g.entries → inner.Sound := by
  constructor
  · intro h
    exact ⟨h g .here, fun inner hmem found hfound => h found (.inside hmem hfound)⟩
  · rintro ⟨horder, hinner⟩ found hfound
    cases hfound with
    | here => exact horder
    | inside hmem hfound => exact hinner _ hmem found hfound

theorem Sound.inOrder {g : Group S ω} (h : g.Sound) : g.InOrder :=
  (sound_iff.1 h).1

theorem Sound.of_mem {g inner : Group S ω} (h : g.Sound) (hmem : inner.toEntry ∈ g.entries) :
    inner.Sound :=
  (sound_iff.1 h).2 inner hmem

/-- A group in order is known by its name and its entries. -/
theorem InOrder.eq_ofEntries {g : Group S ω} (h : g.InOrder) : g = ofEntries g.name g.entries := by
  obtain ⟨name, entries, index⟩ := g
  have hindex := h.index
  simp only at hindex
  rw [hindex, ofEntries]

/-- A group that is made of entries is sound exactly if they have names, all
different, and the groups among them are sound. -/
theorem sound_ofEntries_iff {name : String} {entries : List (Entry S ω)} :
    (ofEntries name entries).Sound ↔
      (∀ e ∈ entries, isName e.name = true) ∧ (entries.map Entry.key).Nodup ∧
        ∀ inner : Group S ω, inner.toEntry ∈ entries → inner.Sound := by
  rw [sound_iff]
  constructor
  · rintro ⟨horder, hinner⟩
    exact ⟨horder.names, horder.keys, hinner⟩
  · rintro ⟨hnames, hkeys, hinner⟩
    exact ⟨⟨rfl, hnames, hkeys⟩, hinner⟩

theorem sound_empty (name : String) : (empty name : Group S ω).Sound :=
  sound_ofEntries_iff.2 ⟨by simp, by simp, by simp⟩

/-! ## one more entry, and another one in the last place -/

/-- An entry that may stand in a sound group: an item, or a sound group. -/
def SoundEntry (e : Entry S ω) : Prop :=
  ∀ inner : Group S ω, e = inner.toEntry → inner.Sound

theorem soundEntry_item (i : Item S ω) : SoundEntry (.item i) :=
  fun inner heq => absurd heq.symm (toEntry_ne_item inner i)

theorem soundEntry_toEntry {g : Group S ω} : SoundEntry g.toEntry ↔ g.Sound :=
  ⟨fun h => h g rfl, fun h _ heq => toEntry_injective heq ▸ h⟩

theorem sound_ofEntries_concat_iff {name : String} {entries : List (Entry S ω)} {e : Entry S ω} :
    (ofEntries name (entries ++ [e])).Sound ↔
      (ofEntries name entries).Sound ∧ isName e.name = true ∧ e.key ∉ entries.map Entry.key ∧
        SoundEntry e := by
  have hkeys : ((entries ++ [e]).map Entry.key).Nodup ↔
      (entries.map Entry.key).Nodup ∧ e.key ∉ entries.map Entry.key := by
    rw [List.map_append, List.nodup_append_comm, List.map_singleton, List.singleton_append,
      List.nodup_cons, and_comm]
  have hnames : (∀ e' ∈ entries ++ [e], isName e'.name = true) ↔
      (∀ e' ∈ entries, isName e'.name = true) ∧ isName e.name = true := by
    simp [or_imp, forall_and]
  have hinner : (∀ inner : Group S ω, inner.toEntry ∈ entries ++ [e] → inner.Sound) ↔
      (∀ inner : Group S ω, inner.toEntry ∈ entries → inner.Sound) ∧ SoundEntry e := by
    simp [or_imp, forall_and, SoundEntry, eq_comm]
  rw [sound_ofEntries_iff, sound_ofEntries_iff, hkeys, hnames, hinner]
  tauto

/-- A sound group takes one more entry exactly if the name of that is one and
its key is new. -/
theorem Sound.insert_eq_ok_iff {g h : Group S ω} {e : Entry S ω} (hg : g.Sound) :
    g.insert e = .ok h ↔
      isName e.name = true ∧ e.key ∉ g.entries.map Entry.key ∧
        h = ofEntries g.name (g.entries ++ [e]) := by
  conv_lhs => rw [hg.inOrder.eq_ofEntries]
  exact insert_ofEntries_eq_ok_iff

/-- One more entry keeps a group sound. -/
theorem Sound.of_insert {g h : Group S ω} {e : Entry S ω} (hg : g.Sound) (he : SoundEntry e)
    (hins : g.insert e = .ok h) : h.Sound := by
  obtain ⟨hname, hkey, rfl⟩ := hg.insert_eq_ok_iff.1 hins
  have hentries : (ofEntries g.name g.entries).Sound := hg.inOrder.eq_ofEntries ▸ hg
  exact sound_ofEntries_concat_iff.2 ⟨hentries, hname, hkey, he⟩

/-- A group with a last entry is made of that and the entries before. -/
theorem exists_concat_of_last? {g : Group S ω} {e : Entry S ω} (hg : g.InOrder)
    (hlast : g.last? = some e) :
    ∃ before, g = ofEntries g.name (before ++ [e]) := by
  obtain ⟨before, hbefore⟩ := List.getLast?_eq_some_iff.1 hlast
  exact ⟨before, hbefore ▸ hg.eq_ofEntries⟩

/-- Another entry of the same name in the last place keeps a group sound. -/
theorem Sound.replaceLast {g : Group S ω} {e e' : Entry S ω} (hg : g.Sound)
    (hlast : g.last? = some e) (hname : e'.name = e.name) (he' : SoundEntry e') :
    (g.replaceLast e').Sound := by
  obtain ⟨before, heq⟩ := exists_concat_of_last? hg.inOrder hlast
  have hkey : e'.key = e.key := congrArg Items.key hname
  rw [heq, sound_ofEntries_concat_iff] at hg
  rw [heq, replaceLast_ofEntries_concat hname, sound_ofEntries_concat_iff, hname, hkey]
  exact ⟨hg.1, hg.2.1, hg.2.2.1, he'⟩

/-- The last entry in its own place changes nothing. -/
theorem replaceLast_of_last? {g : Group S ω} {e : Entry S ω} (hlast : g.last? = some e) :
    g.replaceLast e = g := by
  obtain ⟨before, hbefore⟩ := List.getLast?_eq_some_iff.1 hlast
  obtain ⟨name, entries, index⟩ := g
  simp only at hbefore
  simp [Group.replaceLast, hbefore]

/-! ## looking up -/

/-- In a list of pairs with distinct keys, what is found under a key is what
stands beside it. -/
theorem lookup_eq_some_iff_mem {α β : Type} [DecidableEq α] {pairs : List (α × β)} {a : α} {b : β}
    (h : (pairs.map Prod.fst).Nodup) : pairs.lookup a = some b ↔ (a, b) ∈ pairs := by
  induction pairs with
  | nil => simp
  | cons p pairs ih =>
      obtain ⟨a', b'⟩ := p
      simp only [List.map_cons, List.nodup_cons] at h
      by_cases ha : a = a'
      · subst ha
        have hnot : (a, b) ∉ pairs := fun hmem => h.1 (List.mem_map_of_mem hmem)
        simp [List.lookup_cons_self, hnot, eq_comm]
      · simp [List.lookup_cons, beq_eq_false_iff_ne.2 ha, ha, ih h.2]

/-- In a group in order, the place of a name is that of the entry with its
key. -/
theorem InOrder.place?_eq_some_iff {g : Group S ω} (hg : g.InOrder) {name : String} {i : Nat} :
    g.place? name = some i ↔ ∃ e, g.entries[i]? = some e ∧ e.key = key name := by
  have hkeys : (g.index.map Prod.fst).Nodup := by
    rw [hg.index, map_fst_index]
    exact hg.keys
  rw [place?, lookup_eq_some_iff_mem hkeys, hg.index, List.mem_mapIdx]
  constructor
  · rintro ⟨j, hj, heq⟩
    obtain ⟨hkey, rfl⟩ := Prod.mk.inj heq
    exact ⟨g.entries[j], List.getElem?_eq_getElem hj, hkey⟩
  · rintro ⟨e, he, hkey⟩
    obtain ⟨hi, rfl⟩ := List.getElem?_eq_some_iff.1 he
    exact ⟨i, hi, by rw [hkey]⟩

end Group

end UiMarkup
