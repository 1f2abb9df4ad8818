import UiMarkup.Items.Building
import UiMarkup.Observer.Arena
import UiMarkup.Proofs.Items.Declaration
import UiMarkup.Proofs.Items.Invariant

/-!
# UiMarkup.Proofs.Items.Building

Stores that are declared by a document or built step by step are sound: in
every group, at any depth, the index agrees with the entries.

* `Group.add_eq`, `Group.addAt_eq`: what adding in place leaves;
* `Group.DiffersIn`: what a change at a depth leaves of the groups above;
* `Group.Built`, `Items.Built`: what building and declaring lead to;
* `Items.Built.sound`: all of it is sound;
* `Items.inOrder_and_add_of_built`: what is added stands at the end, and an
  entry that is refused leaves no trace.
-/

namespace UiMarkup

open Items
open Observer (Arena Storage)

variable {S ω : Type}

namespace Group

/-! ## adding in place -/

/-- Adding in place gives the group with the entry, or leaves the group as it
was. -/
theorem add_eq (e : Entry S ω) (g : Group S ω) :
    add e g = match g.insert e with
      | .ok h => .ok () h
      | .error err => .error err g := by
  rw [add, insert]
  split
  · change (if (g.index.lookup (key e.name)).isSome = true then
        (_ : EStateM Error (Group S ω) Unit) else _) g = _
    split
    · rfl
    · rfl
  · rfl

/-! ## the group at a depth -/

/-- The depth leads into the group that is the last entry, or no further. -/
theorem innermost_cases (g : Group S ω) (depth : Nat) :
    (∃ inner : Group S ω, g.last? = some inner.toEntry ∧
        g.innermost (depth + 1) = inner.innermost depth ∧
        ∀ other, g.replaceInnermost (depth + 1) other =
          g.replaceLast (inner.replaceInnermost depth other).toEntry) ∨
      (g.innermost (depth + 1) = g ∧ ∀ other, g.replaceInnermost (depth + 1) other = other) := by
  cases hlast : g.last? with
  | none => simp [innermost, replaceInnermost, hlast]
  | some e =>
      cases e with
      | item i => simp [innermost, replaceInnermost, hlast]
      | group n entries index =>
          refine .inl ⟨⟨n, entries, index⟩, rfl, ?_, fun other => ?_⟩
          · rw [innermost, hlast]
          · rw [replaceInnermost, hlast]

/-- A group in its own place changes nothing. -/
theorem replaceInnermost_innermost (g : Group S ω) (depth : Nat) :
    g.replaceInnermost depth (g.innermost depth) = g := by
  induction depth generalizing g with
  | zero => rfl
  | succ depth ih =>
      obtain ⟨inner, hlast, hinner, hreplace⟩ | ⟨hinner, hreplace⟩ := innermost_cases g depth
      · rw [hinner, hreplace, ih]
        exact replaceLast_of_last? hlast
      · rw [hinner, hreplace]

/-- The two groups are the same but for one group, the first or the second of
these two: it is the whole group, or stands in it at some depth, always in the
last entry.  The groups above it have the same names and the same indices, and
all their other entries are the same. -/
inductive DiffersIn (inner inner' : Group S ω) : Group S ω → Group S ω → Prop
  | here : DiffersIn inner inner' inner inner'
  | inside {name : String} {front : List (Entry S ω)} {index : List (String × Nat)}
      {g h : Group S ω} (hinside : DiffersIn inner inner' g h) (hname : h.name = g.name) :
      DiffersIn inner inner' ⟨name, front ++ [g.toEntry], index⟩ ⟨name, front ++ [h.toEntry], index⟩

theorem DiffersIn.name_eq {inner inner' g h : Group S ω} (hdiffers : DiffersIn inner inner' g h)
    (hname : inner'.name = inner.name) : h.name = g.name := by
  cases hdiffers with
  | here => exact hname
  | inside => rfl

/-- Another group of the same name at a depth is the only difference. -/
theorem differsIn_replaceInnermost {g other : Group S ω} {depth : Nat}
    (hname : other.name = (g.innermost depth).name) :
    DiffersIn (g.innermost depth) other g (g.replaceInnermost depth other) := by
  induction depth generalizing g with
  | zero => exact .here
  | succ depth ih =>
      obtain ⟨inner, hlast, hinner, hreplace⟩ | ⟨hinner, hreplace⟩ := innermost_cases g depth
      · rw [hinner] at hname
        have hinside := ih hname
        obtain ⟨front, hfront⟩ := List.getLast?_eq_some_iff.1 hlast
        have hg : g = ⟨g.name, front ++ [inner.toEntry], g.index⟩ := by rw [← hfront]
        have hh : g.replaceLast (inner.replaceInnermost depth other).toEntry =
            ⟨g.name, front ++ [(inner.replaceInnermost depth other).toEntry], g.index⟩ := by
          rw [replaceLast, hfront, List.dropLast_concat]
        rw [hinner, hreplace, hh]
        conv => arg 3; rw [hg]
        exact .inside hinside (hinside.name_eq hname)
      · rw [hinner, hreplace]
        exact .here

/-- Adding at a depth gives the store with the larger group, or leaves the
store as it was. -/
theorem addAt_eq (depth : Nat) (e : Entry S ω) (g : Group S ω) :
    addAt depth e g = match (g.innermost depth).insert e with
      | .ok h => .ok () (g.replaceInnermost depth h)
      | .error err => .error err g := by
  rw [addAt, add_eq]
  cases (g.innermost depth).insert e with
  | ok h => rfl
  | error err => simp only [replaceInnermost_innermost]

theorem Sound.innermost {g : Group S ω} (hg : g.Sound) (depth : Nat) :
    (g.innermost depth).Sound := by
  induction depth generalizing g with
  | zero => exact hg
  | succ depth ih =>
      obtain ⟨inner, hlast, hinner, -⟩ | ⟨hinner, -⟩ := innermost_cases g depth
      · rw [hinner]
        exact ih (hg.of_mem (List.mem_of_getLast? hlast))
      · rw [hinner]
        exact hg

/-- Another sound group of the same name at a depth keeps a group sound, and
its name. -/
theorem Sound.replaceInnermost {g other : Group S ω} {depth : Nat} (hg : g.Sound)
    (hother : other.Sound) (hname : other.name = (g.innermost depth).name) :
    (g.replaceInnermost depth other).Sound ∧ (g.replaceInnermost depth other).name = g.name := by
  induction depth generalizing g with
  | zero => exact ⟨hother, hname⟩
  | succ depth ih =>
      obtain ⟨inner, hlast, hinner, hreplace⟩ | ⟨hinner, hreplace⟩ := innermost_cases g depth
      · rw [hinner] at hname
        obtain ⟨hsound, hinnerName⟩ := ih (hg.of_mem (List.mem_of_getLast? hlast)) hname
        rw [hreplace]
        exact ⟨hg.replaceLast hlast hinnerName (soundEntry_toEntry.2 hsound), rfl⟩
      · rw [hinner] at hname
        rw [hreplace]
        exact ⟨hother, hname⟩

theorem name_of_insert {g h : Group S ω} {e : Entry S ω} (hins : g.insert e = .ok h) :
    h.name = g.name := by
  obtain ⟨-, -, rfl⟩ := insert_eq_ok.1 hins
  rfl

/-! ## the entry added last -/

theorem name_of_onItem? {edit : Edit} {i i' : Item S ω} (h : edit.onItem? i = some i') :
    i'.name = i.name := by
  cases edit with
  | setTitle title => cases h; rfl
  | setHint hint => cases h; rfl
  | addOption option =>
      rw [Edit.onItem?, Item.addOption?] at h
      split at h
      · cases h; rfl
      · cases h

/-- A change of the item added last keeps a group sound, and its name. -/
theorem Sound.editLast? {g h : Group S ω} {edit : Edit} (hg : g.Sound)
    (hedit : editLast? edit g = some h) : h.Sound ∧ h.name = g.name := by
  rw [Group.editLast?] at hedit
  split at hedit
  · next i hlast =>
    obtain ⟨i', hi', rfl⟩ := Option.map_eq_some_iff.1 hedit
    exact ⟨hg.replaceLast hlast (name_of_onItem? hi') (soundEntry_item i'), rfl⟩
  · cases hedit

/-! ## one step -/

/-- The larger group stands in its place. -/
theorem exists_of_addAt_ok {g h : Group S ω} {depth : Nat} {e : Entry S ω}
    (hadd : addAt depth e g = .ok () h) :
    ∃ inner, (g.innermost depth).insert e = .ok inner ∧ h = g.replaceInnermost depth inner := by
  rw [addAt_eq] at hadd
  cases hins : (g.innermost depth).insert e with
  | error err => simp [hins] at hadd
  | ok inner =>
      simp only [hins, EStateM.Result.ok.injEq, true_and] at hadd
      exact ⟨inner, rfl, hadd.symm⟩

/-- One more entry at a depth keeps a group sound. -/
theorem Sound.of_addAt {g h : Group S ω} {depth : Nat} {e : Entry S ω} (hg : g.Sound)
    (he : SoundEntry e) (hadd : addAt depth e g = .ok () h) : h.Sound := by
  obtain ⟨inner, hins, rfl⟩ := exists_of_addAt_ok hadd
  have hinner : inner.Sound := (hg.innermost depth).of_insert he hins
  exact (hg.replaceInnermost hinner (name_of_insert hins)).1

/-- A refused entry leaves the group as it was. -/
theorem eq_of_addAt_error {g h : Group S ω} {depth : Nat} {e : Entry S ω} {err : Error}
    (hadd : addAt depth e g = .error err h) :
    h = g ∧ (g.innermost depth).insert e = .error err := by
  rw [addAt_eq] at hadd
  cases hins : (g.innermost depth).insert e with
  | error err' =>
      simp only [hins, EStateM.Result.error.injEq] at hadd
      exact ⟨hadd.2.symm, by rw [hadd.1]⟩
  | ok inner => simp [hins] at hadd

/-- A change of the item added last at a depth keeps a group sound. -/
theorem Sound.editAt? {g h : Group S ω} {depth : Nat} {edit : Edit} (hg : g.Sound)
    (hedit : g.editAt? depth edit = some h) : h.Sound := by
  obtain ⟨inner, hinner, rfl⟩ := Option.map_eq_some_iff.1 hedit
  obtain ⟨hsound, hname⟩ := (hg.innermost depth).editLast? hinner
  exact (hg.replaceInnermost hsound hname).1

/-- The groups that building leads to.  A group that is added has been built
before, and an entry that is refused may leave something. -/
inductive Built : Group S ω → Prop
  | empty (name : String) : Built (.empty name)
  | added {g h : Group S ω} {depth : Nat} {e : Entry S ω} (hg : Built g)
      (he : ∀ inner : Group S ω, e = inner.toEntry → Built inner)
      (hadd : addAt depth e g = .ok () h) : Built h
  | refused {g h : Group S ω} {depth : Nat} {e : Entry S ω} {err : Error} (hg : Built g)
      (hadd : addAt depth e g = .error err h) : Built h
  | edited {g h : Group S ω} {depth : Nat} {edit : Edit} (hg : Built g)
      (hedit : g.editAt? depth edit = some h) : Built h

/-- Whatever is built is sound. -/
theorem Built.sound {g : Group S ω} (h : g.Built) : g.Sound := by
  induction h with
  | empty name => exact sound_empty name
  | added _ _ hadd ih ihe => exact ih.of_addAt ihe hadd
  | refused _ hadd ih => exact (eq_of_addAt_error hadd).1 ▸ ih
  | edited _ hedit ih => exact ih.editAt? hedit

/-! ## what an entry adds -/

/-- The second group is the first one with one more entry at the end: that is
found under its name, and every other name leads where it led before. -/
structure Extends (g : Group S ω) (e : Entry S ω) (h : Group S ω) : Prop where
  name : h.name = g.name
  entries : h.entries = g.entries ++ [e]
  place : h.place? e.name = some g.entries.length
  others : ∀ n, key n ≠ e.key → h.place? n = g.place? n ∧ h.get? n = g.get? n

/-- In a group in order, a key is in the index exactly if an entry has it. -/
theorem InOrder.isSome_lookup_iff {g : Group S ω} (hg : g.InOrder) {k : String} :
    (g.index.lookup k).isSome = true ↔ k ∈ g.entries.map Entry.key := by
  have hindex : g.index = (ofEntries g.name g.entries).index := congrArg Group.index hg.eq_ofEntries
  rw [Option.isSome_iff_ne_none, ne_eq, hindex, lookup_ofEntries_eq_none_iff, not_not]

/-- A group in order extends by what it takes. -/
theorem InOrder.extends_of_insert {g h : Group S ω} {e : Entry S ω} (hg : g.InOrder)
    (hins : g.insert e = .ok h) : g.Extends e h := by
  obtain ⟨-, hnew, rfl⟩ := insert_eq_ok.1 hins
  have hplace : ∀ n, key n ≠ e.key →
      (⟨g.name, g.entries ++ [e],
        g.index ++ [(key e.name, g.entries.length)]⟩ : Group S ω).place? n =
        g.place? n := by
    intro n hn
    have hne : (key n == key e.name) = false := beq_eq_false_iff_ne.2 hn
    simp [place?, List.lookup_append, List.lookup_cons, hne]
  refine ⟨rfl, rfl, ?_, fun n hn => ⟨hplace n hn, ?_⟩⟩
  · simp [place?, List.lookup_append, hnew]
  · rw [get?, get?, hplace n hn]
    cases hi : g.place? n with
    | none => rfl
    | some i =>
        obtain ⟨e', he', -⟩ := hg.place?_eq_some_iff.1 hi
        simp only [Option.bind_some]
        rw [he', List.getElem?_append_left (List.getElem?_eq_some_iff.1 he').1, he']

end Group

namespace Items

open UiMarkup.Group

/-! ## adding to a store -/

theorem add_eq_ok_iff {s s' : Items S ω} {depth : Nat} {e : Entry S ω} :
    add depth e s = .ok () s' ↔ addAt depth e s.root = .ok () s'.root := by
  rw [add]
  cases addAt depth e s.root with
  | ok _ root => cases s'; simp
  | error err root => simp

theorem add_eq_error_iff {s s' : Items S ω} {depth : Nat} {e : Entry S ω} {err : Error} :
    add depth e s = .error err s' ↔ addAt depth e s.root = .error err s'.root := by
  rw [add]
  cases addAt depth e s.root with
  | ok _ root => simp
  | error err root => cases s'; simp

/-! ## declared stores -/

variable [Storage S ω]


theorem exists_of_mem_declaredEntries {separator : String} {nodes : List Node} {e : Entry S ω}
    (h : e ∈ declaredEntries separator nodes) :
    ∃ x ∈ nodes, ∃ behind, declared? separator behind x = some e := by
  induction nodes with
  | nil => simp [declaredEntries] at h
  | cons x nodes ih =>
      rw [declaredEntries, List.mem_append, Option.mem_toList] at h
      rcases h with h | h
      · exact ⟨x, List.mem_cons_self, nodes, h⟩
      · obtain ⟨y, hy, hdeclared⟩ := ih h
        exact ⟨y, List.mem_cons_of_mem _ hy, hdeclared⟩

/-- Well-declared nodes declare entries with names. -/
theorem isName_of_mem_declaredEntries {separator : String} {nestedGroups : Bool}
    {nodes : List Node} (hwell : WellDeclared nestedGroups nodes) {e : Entry S ω}
    (h : e ∈ declaredEntries separator nodes) : isName e.name = true := by
  obtain ⟨x, hx, behind, hdeclared⟩ := exists_of_mem_declaredEntries h
  cases x with
  | attr a =>
      rw [declared?] at hdeclared
      split at hdeclared
      · cases hdeclared
      · next ha =>
        obtain rfl := Option.some.inj hdeclared
        exact validName_iff.1 (hwell.items a hx ha).2
  | elem name inner =>
      rw [declared?] at hdeclared
      obtain rfl := Option.some.inj hdeclared
      exact validName_iff.1 (hwell.groups name inner hx).1

/-- A group among the entries is declared by an element among the nodes. -/
theorem exists_of_toEntry_mem_declaredEntries {separator : String} {nodes : List Node}
    {g : Group S ω} (h : g.toEntry ∈ declaredEntries separator nodes) :
    ∃ name inner, .elem name inner ∈ nodes ∧
      g = ofEntries name (declaredEntries separator inner) := by
  obtain ⟨x, hx, behind, hdeclared⟩ := exists_of_mem_declaredEntries h
  cases x with
  | attr a =>
      rw [declared?] at hdeclared
      split at hdeclared
      · cases hdeclared
      · exact absurd (Option.some.inj hdeclared).symm (toEntry_ne_item g _)
  | elem name inner =>
      rw [declared?] at hdeclared
      exact ⟨name, inner, hx, (toEntry_injective (Option.some.inj hdeclared)).symm⟩

/-- What nodes declare that are well-declared at every depth is sound. -/
theorem sound_declaredEntries {separator : String} {nestedGroups : Bool} {name : String}
    {nodes : List Node} (h : ∀ found, Within nodes found → WellDeclared nestedGroups found) :
    (ofEntries name (declaredEntries separator nodes) : Group S ω).Sound := by
  induction hsize : sizeOf nodes using Nat.strongRecOn generalizing name nodes with
  | _ size ih =>
      obtain ⟨hwell, hinside⟩ := forall_within_iff.1 h
      refine sound_ofEntries_iff.2 ⟨?_, ?_, ?_⟩
      · exact fun e he => isName_of_mem_declaredEntries hwell he
      · rw [map_key_declaredEntries]
        exact hwell.names
      · intro g hg
        obtain ⟨n, inner, hmem, rfl⟩ := exists_of_toEntry_mem_declaredEntries hg
        exact ih _ (hsize ▸ Node.sizeOf_lt_of_mem hmem) (hinside n inner hmem) rfl

/-! ## declaring and building -/

/-- The stores that declaring and building lead to. -/
inductive Built : Items S ω → Prop
  | empty : Built .empty
  | declared {dialect : Dialect} {root : Element} {s : Items S ω}
      (h : ofElement dialect root = .ok s) : Built s
  | added {s s' : Items S ω} {depth : Nat} {e : Entry S ω} (hs : Built s)
      (he : ∀ inner : Group S ω, e = inner.toEntry → inner.Built)
      (hadd : add depth e s = .ok () s') : Built s'
  | refused {s s' : Items S ω} {depth : Nat} {e : Entry S ω} {err : Error} (hs : Built s)
      (hadd : add depth e s = .error err s') : Built s'
  | edited {s s' : Items S ω} {depth : Nat} {edit : Edit} (hs : Built s)
      (hedit : s.edit? depth edit = some s') : Built s'

/-- Whatever is declared or built is sound. -/
theorem Built.sound {s : Items S ω} (h : s.Built) : s.root.Sound := by
  induction h with
  | empty => exact sound_empty rootName
  | declared h =>
      obtain ⟨-, hwell, rfl⟩ := (ofElement_eq_ok_iff_wellDeclared _ _ _).1 h
      exact sound_declaredEntries hwell
  | added _ he hadd ih =>
      exact ih.of_addAt (fun inner heq => (he inner heq).sound) (add_eq_ok_iff.1 hadd)
  | refused _ hadd ih => exact (eq_of_addAt_error (add_eq_error_iff.1 hadd)).1 ▸ ih
  | edited _ hedit ih =>
      obtain ⟨root, hroot, rfl⟩ := Option.map_eq_some_iff.1 hedit
      exact ih.editAt? hroot

/-- **The index agrees with the entries**: in every group of a store that was
declared or built, at any depth, the index has exactly the place of each entry,
all names are names, and no two are the same.  An entry that is added to such a
store stands at the end of its group, which is the only difference in the whole
store; an entry is refused exactly for its name or its key, and then the store
is as it was. -/
theorem inOrder_and_add_of_built {s : Items S ω} (hs : s.Built) :
    (∀ g, s.root.Holds g → g.InOrder) ∧
      ∀ (depth : Nat) (e : Entry S ω),
        (∀ s', add depth e s = .ok () s' →
          isName e.name = true ∧ e.key ∉ (s.root.innermost depth).entries.map Entry.key ∧
            ∃ g, (s.root.innermost depth).Extends e g ∧
              DiffersIn (s.root.innermost depth) g s.root s'.root ∧
              s'.root = s.root.replaceInnermost depth g) ∧
        (∀ err s', add depth e s = .error err s' →
          s' = s ∧
            ((isName e.name = false ∧ err = .invalidName e.name) ∨
              (isName e.name = true ∧
                e.key ∈ (s.root.innermost depth).entries.map Entry.key ∧
                err = .duplicateName (s.root.innermost depth).name e.name))) := by
  refine ⟨hs.sound, fun depth e => ?_⟩
  have horder := (hs.sound.innermost depth).inOrder
  constructor
  · intro s' hadd
    obtain ⟨g, hins, hroot⟩ := exists_of_addAt_ok (add_eq_ok_iff.1 hadd)
    obtain ⟨hname, hnew, -⟩ := (hs.sound.innermost depth).insert_eq_ok_iff.1 hins
    have hextends := horder.extends_of_insert hins
    exact ⟨hname, hnew, g, hextends, hroot ▸ differsIn_replaceInnermost hextends.name, hroot⟩
  · intro err s' hadd
    obtain ⟨hroot, hins⟩ := eq_of_addAt_error (add_eq_error_iff.1 hadd)
    rw [insert_eq_error, horder.isSome_lookup_iff] at hins
    exact ⟨congrArg Items.mk hroot, hins⟩

/-- In a declared store that refused an entry, a group inside takes another one:
its name has a capital sigma at either end. -/
theorem inOrder_and_add_of_built_nested :
    ∃ s s' : Items (Arena Unit) Unit, s.Built ∧
      add 1 (.item (.ofKind .flag "OPEN")) s = .error (.duplicateName "File" "OPEN") s ∧
      add 1 (.item (.ofKind .flag "ΣΑΣ")) s = .ok () s' ∧
      (∀ g, s.root.Holds g → g.InOrder) ∧
      ∃ g, (s.root.innermost 1).Extends (.item (.ofKind .flag "ΣΑΣ")) g ∧
        DiffersIn (s.root.innermost 1) g s.root s'.root ∧
        s'.root = s.root.replaceInnermost 1 g := by
  let root : Element := ⟨"Items", [.attr ⟨"Mode", [some "Enum"]⟩, .attr ⟨"*", [some "a"]⟩,
    .elem "File" [.attr ⟨"Open", [some "Command"]⟩]]⟩
  let mode : Item (Arena Unit) Unit :=
    ⟨⟨"Mode", none, none⟩, .choice (.ofValue 0) [⟨"Mode:a", none, none⟩]⟩
  let s : Items (Arena Unit) Unit := ⟨.ofEntries "Items" [.item mode,
    (Group.ofEntries "File" [.item (.ofKind .command "Open")]).toEntry]⟩
  let s' : Items (Arena Unit) Unit := ⟨.ofEntries "Items" [.item mode,
    (Group.ofEntries "File" [.item (.ofKind .command "Open"),
      .item (.ofKind .flag "ΣΑΣ")]).toEntry]⟩
  have hdeclared : ofElement .standard root = .ok s := rfl
  have hrefused : add 1 (.item (.ofKind .flag "OPEN")) s =
      .error (.duplicateName "File" "OPEN") s := rfl
  have hadded : add 1 (.item (.ofKind .flag "ΣΑΣ")) s = .ok () s' := rfl
  have hbuilt : s.Built := .refused (.declared hdeclared) hrefused
  obtain ⟨horder, hadd⟩ := inOrder_and_add_of_built hbuilt
  exact ⟨s, s', hbuilt, hrefused, hadded, horder, ((hadd 1 _).1 s' hadded).2.2⟩

end Items

end UiMarkup
