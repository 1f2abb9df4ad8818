import UiMarkup.Proofs.Items.Paths
import UiMarkup.Proofs.Text.WordChar

/-!
# UiMarkup.Proofs.Items.OptionNames

Names of options, which are those of their choices, then the separator and what
the document gives.  If the separator has a character that no name has, the
first such character shows where the name of the choice ends, so option names
are read in one way only, and no option is named as an item or a group is.

* `append_separator_inj`: names are read back in front of a separator;
* `exists_of_mem_options`: what options of declared items are named;
* `optionNames_of_ofElement`: in a declared store no option is taken for an
  entry, by its name and as a path.
-/

namespace UiMarkup

open Items
open Observer (Arena Storage)
open Text (isWordChar lateCapitals)

variable {S ω : Type}

/-- The options of an item: none, unless it is a choice. -/
def Item.options (i : Item S ω) : List Info :=
  match i.content with
  | .choice _ options => options
  | _ => []

/-- The names on the way down to an entry end with its own. -/
theorem Group.Leads.name_mem {g : Group S ω} {position : Position} {names : List String}
    {e : Entry S ω} (h : g.Leads position names e) : e.name ∈ names := by
  induction h with
  | here h => exact List.mem_cons_self
  | inside _ _ ih => exact List.mem_cons_of_mem _ ih

theorem Group.Sound.isName_of_at? {g : Group S ω} (hg : g.Sound) {position : Position}
    {e : Entry S ω} (h : g.at? position = some e) : isName e.name = true := by
  obtain ⟨names, hleads⟩ := Group.at?_eq_some_iff.1 h
  exact hg.isName_of_leads hleads _ hleads.name_mem

namespace Items

/-! ## names in front of a separator -/

theorem isWordChar_of_isName {name : String} (h : isName name = true) :
    ∀ c ∈ name.toList, isWordChar c = true := by
  simp only [isName, Bool.and_eq_true, List.all_eq_true] at h
  exact h.2

/-- A prefix that satisfies `p` up to its end and a text that does not: what
satisfies `p` at the start goes on into the text, and not further. -/
theorem takeWhile_append_append {p : Char → Bool} {xs sep : List Char} (rest : List Char)
    (hxs : ∀ c ∈ xs, p c = true) (hsep : ∃ c ∈ sep, p c = false) :
    (xs ++ sep ++ rest).takeWhile p = xs ++ sep.takeWhile p := by
  have hend : (sep.takeWhile p).length ≠ sep.length := by
    intro hlength
    obtain ⟨c, hc, hpc⟩ := hsep
    have hall := List.takeWhile_eq_self_iff.1
      ((List.takeWhile_sublist p).eq_of_length hlength) c hc
    simp [hpc] at hall
  rw [List.append_assoc, List.takeWhile_append_of_pos hxs, List.takeWhile_append, if_neg hend]

/-- Names in front of a separator with a character that no name has are read
back, and so is what comes behind it. -/
theorem append_separator_inj {n m separator id id' : String} (hn : isName n = true)
    (hm : isName m = true) (hsep : ∃ c ∈ separator.toList, isWordChar c = false)
    (h : n ++ separator ++ id = m ++ separator ++ id') : n = m ∧ id = id' := by
  have hlists := congrArg String.toList h
  simp only [String.toList_append] at hlists
  have hwords := congrArg (List.takeWhile isWordChar) hlists
  rw [takeWhile_append_append _ (isWordChar_of_isName hn) hsep,
    takeWhile_append_append _ (isWordChar_of_isName hm) hsep] at hwords
  obtain rfl := String.toList_inj.1 (List.append_cancel_right hwords)
  exact ⟨rfl, String.toList_inj.1 (List.append_cancel_left hlists)⟩

/-! ## declared options -/

variable [Storage S ω]

theorem exists_of_mem_options {separator : String} {a : Attribute} {options : List Attribute}
    {option : Info} (h : option ∈ (declaredItem separator a options : Item S ω).options) :
    ∃ id, option.name = a.name ++ separator ++ id := by
  rw [Item.options, declaredItem] at h
  cases hkind : declaredKind a with
  | choice =>
      simp only [hkind, List.mem_map] at h
      obtain ⟨b, -, rfl⟩ := h
      exact ⟨firstText b, rfl⟩
  | _ => simp [hkind] at h

/-- Every item at any depth of what nodes declare is declared by an attribute. -/
theorem exists_declaredItem_of_leads {separator : String} {g : Group S ω} {position : Position}
    {names : List String} {i : Item S ω} (h : g.Leads position names (.item i)) :
    ∀ {name : String} {nodes : List Node},
      g = Group.ofEntries name (declaredEntries separator nodes) →
        ∃ a options, i = declaredItem separator a options := by
  generalize he : Entry.item i = e at h
  induction h with
  | here h =>
      rintro name nodes rfl
      subst he
      obtain ⟨x, -, behind, hdeclared⟩ := exists_of_mem_declaredEntries (List.mem_of_getElem? h)
      cases x with
      | attr a =>
          rw [declared?] at hdeclared
          split at hdeclared
          · cases hdeclared
          · exact ⟨a, _, (Entry.item.inj (Option.some.inj hdeclared)).symm⟩
      | elem name inner =>
          rw [declared?] at hdeclared
          cases hdeclared
  | inside hinner _ ih =>
      rintro name nodes rfl
      obtain ⟨_, _, -, hgroup⟩ :=
        exists_of_toEntry_mem_declaredEntries (List.mem_of_getElem? hinner)
      exact ih he hgroup

/-- A text with a character that no name has finds nothing, unless it is read as
more than one name. -/
theorem Built.find?_eq_none_of_not_word {s : Items S ω} (hs : s.Built) {path : String} {c : Char}
    (hdot : '.' ∉ path.toList) (hmem : c ∈ path.toList) (hc : isWordChar c = false)
    (hlate : c ∉ lateCapitals) : s.find? path = none := by
  rw [Option.eq_none_iff_forall_ne_some]
  intro e hfind
  obtain ⟨position, hlocate, -⟩ := find?_eq_some_iff.1 hfind
  obtain ⟨names, e', hleads, hkeys⟩ := hs.locate?_eq_some_iff.1 hlocate
  rw [namesOfPath_of_dot_not_mem hdot, List.map_singleton] at hkeys
  obtain ⟨n, hn, hkey⟩ := List.mem_map.1 (hkeys ▸ List.mem_singleton_self (key path))
  have hname := isWordChar_of_isName (hs.sound.isName_of_leads hleads n hn)
  exact Text.lowercase_ne_of_mem hname hmem hc hlate hkey

/-- **An option name is that of its choice and what the document gives, and no
entry has it as its name**, if the separator has a character that is no word
character.  Names are read back in front of such a separator, whatever comes
behind it.  No entry is found by an option name either, unless that has a point
and is cut in two, or the separator has late capitals alone, whose lowercase
names may have. -/
theorem optionNames_of_ofElement {dialect : Dialect}
    (hsep : ∃ c ∈ dialect.separator.toList, isWordChar c = false) :
    (∀ n m id id', isName n = true → isName m = true →
      n ++ dialect.separator ++ id = m ++ dialect.separator ++ id' → n = m ∧ id = id') ∧
    ∀ (root : Element) (s : Items S ω), ofElement dialect root = .ok s →
      ∀ position i, s.root.at? position = some (.item i) → ∀ option ∈ i.options,
        (isName i.name = true ∧ ∃ id, option.name = i.name ++ dialect.separator ++ id) ∧
        option.name ≠ s.root.name ∧
        (∀ position' e, s.root.at? position' = some e → option.name ≠ e.name) ∧
        ((∃ c ∈ dialect.separator.toList, isWordChar c = false ∧ c ∉ lateCapitals) →
          '.' ∉ option.name.toList → s.find? option.name = none) := by
  refine ⟨fun n m id id' hn hm h => append_separator_inj hn hm hsep h, ?_⟩
  intro root s hs position i hitem option hoption
  have hbuilt : s.Built := .declared hs
  obtain ⟨-, -, rfl⟩ := (ofElement_eq_ok_iff_wellDeclared _ _ _).1 hs
  obtain ⟨names, hleads⟩ := Group.at?_eq_some_iff.1 hitem
  obtain ⟨a, options, rfl⟩ := exists_declaredItem_of_leads hleads rfl
  obtain ⟨id, hid⟩ := exists_of_mem_options hoption
  have hmem : ∀ c ∈ dialect.separator.toList, c ∈ option.name.toList := fun c hc => by
    simp [hid, hc]
  have hne : ∀ {name : String}, isName name = true → option.name ≠ name := by
    rintro name hname rfl
    obtain ⟨c, hc, hword⟩ := hsep
    exact Bool.noConfusion (hword.symm.trans (isWordChar_of_isName hname c (hmem c hc)))
  have hroot : option.name ≠ rootName := hne (by decide)
  have hchoice := hbuilt.sound.isName_of_at? hitem
  refine ⟨⟨hchoice, id, hid⟩, hroot, ?_, ?_⟩
  · exact fun _ _ he => hne (hbuilt.sound.isName_of_at? he)
  · rintro ⟨c, hc, hword, hlate⟩ hdot
    exact hbuilt.find?_eq_none_of_not_word hdot (hmem c hc) hword hlate

/-- The separator is between letters, and the document gives the separator
itself. -/
theorem optionNames_of_ofElement_letters :
    ∃ s : Items (Arena Unit) Unit,
      ofElement ⟨"a:b", true⟩ ⟨"Items", [.elem "File" [.attr ⟨"Mode", [some "Enum"]⟩,
        .attr ⟨"*", [some "a:b"]⟩, .attr ⟨"Modea", [some "Enum"]⟩]]⟩ = .ok s ∧
      (∀ n id, isName n = true → n ++ "a:b" ++ id = "Modea:ba:b" → n = "Mode" ∧ id = "a:b") ∧
      (∃ i, s.root.at? [0, 0] = some (.item i) ∧ ⟨"Modea:ba:b", none, none⟩ ∈ i.options) ∧
      (∀ position e, s.root.at? position = some e → e.name ≠ "Modea:ba:b") ∧
      s.find? "Modea:ba:b" = none := by
  let mode : Item (Arena Unit) Unit :=
    ⟨⟨"Mode", none, none⟩, .choice (.ofValue 0) [⟨"Modea:ba:b", none, none⟩]⟩
  let file : Group (Arena Unit) Unit :=
    .ofEntries "File" [.item mode, .item (.ofKind .choice "Modea")]
  let s : Items (Arena Unit) Unit := ⟨.ofEntries "Items" [file.toEntry]⟩
  have hs : ofElement ⟨"a:b", true⟩ ⟨"Items", [.elem "File" [.attr ⟨"Mode", [some "Enum"]⟩,
      .attr ⟨"*", [some "a:b"]⟩, .attr ⟨"Modea", [some "Enum"]⟩]]⟩ = .ok s := rfl
  have hsep : ∃ c ∈ (⟨"a:b", true⟩ : Dialect).separator.toList, isWordChar c = false :=
    ⟨':', by decide, by decide⟩
  have hsep' : ∃ c ∈ (⟨"a:b", true⟩ : Dialect).separator.toList,
      isWordChar c = false ∧ c ∉ lateCapitals := ⟨':', by decide, by decide, by decide⟩
  have hitem : s.root.at? [0, 0] = some (.item mode) := rfl
  have hoption : (⟨"Modea:ba:b", none, none⟩ : Info) ∈ mode.options := List.mem_cons_self
  obtain ⟨hinj, hnames⟩ := optionNames_of_ofElement (S := Arena Unit) hsep
  obtain ⟨-, -, hne, hnone⟩ := hnames _ s hs _ mode hitem _ hoption
  refine ⟨s, hs, fun n id hn h => hinj n "Mode" id "a:b" hn (by decide) h, ⟨mode, hitem, hoption⟩,
    fun position e he => (hne position e he).symm, hnone hsep' (by decide)⟩

set_option maxRecDepth 4000 in
/-- An item is found by the name of an option.  The separator is a late capital,
and the name of the item has its small letter in the same place. -/
theorem find?_eq_some_of_late_capital :
    ∃ (s : Items (Arena Unit) Unit) (i : Item (Arena Unit) Unit),
      Dialect.validate ⟨"\uA7D2", true⟩ = .ok ⟨"\uA7D2", true⟩ ∧
      isWordChar '\uA7D2' = false ∧
      ofElement ⟨"\uA7D2", true⟩ ⟨"Items", [.attr ⟨"Mode", [some "Enum"]⟩,
        .attr ⟨"*", [some "a"]⟩, .attr ⟨"mode\uA7D3a", [some "String"]⟩]⟩ = .ok s ∧
      s.root.at? [0] = some (.item i) ∧ (⟨"Mode\uA7D2a", none, none⟩ : Info) ∈ i.options ∧
      '.' ∉ "Mode\uA7D2a".toList ∧
      s.find? "Mode\uA7D2a" = some (.item (.ofKind .text "mode\uA7D3a")) := by
  let mode : Item (Arena Unit) Unit :=
    ⟨⟨"Mode", none, none⟩, .choice (.ofValue 0) [⟨"Mode\uA7D2a", none, none⟩]⟩
  let s : Items (Arena Unit) Unit :=
    ⟨.ofEntries "Items" [.item mode, .item (.ofKind .text "mode\uA7D3a")]⟩
  have hs : ofElement ⟨"\uA7D2", true⟩ ⟨"Items", [.attr ⟨"Mode", [some "Enum"]⟩,
      .attr ⟨"*", [some "a"]⟩, .attr ⟨"mode\uA7D3a", [some "String"]⟩]⟩ = .ok s := rfl
  have hleads : s.root.Leads [1] ["mode\uA7D3a"] (.item (.ofKind .text "mode\uA7D3a")) :=
    .here (e := .item (.ofKind .text "mode\uA7D3a")) rfl
  have hkeys : (namesOfPath "Mode\uA7D2a").map key = ["mode\uA7D3a"].map key := by decide
  have hlocate := (Built.declared hs).locate?_eq_some_iff.2 ⟨_, _, hleads, hkeys⟩
  exact ⟨s, mode, rfl, by decide +kernel, hs, rfl, List.mem_cons_self, by decide,
    find?_eq_some_iff.2 ⟨[1], hlocate, hleads.at?_eq⟩⟩

end Items

end UiMarkup
