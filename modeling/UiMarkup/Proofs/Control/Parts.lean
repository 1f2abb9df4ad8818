import UiMarkup.Control.Reader
import UiMarkup.Proofs.Control.Schema

/-!
# UiMarkup.Proofs.Control.Parts

The parts of a control that no other controls stand in.  Every reader of such
a part is matched with the relation of the schema that describes the part:

* `readOptional_eq_ok_iff`: an attribute that may stand once;
* `readMargin_eq_ok_iff`, `readOrientation_eq_ok_iff`, `readPlacement_eq_ok_iff`,
  `readMenu_eq_ok_iff`: what is made of them.
-/

namespace UiMarkup.Control

open Number (Binary64)

variable {α β : Type}

/-! ## names -/

/-- What is looked up under a name is what has that name. -/
theorem attributesNamed_eq (e : Element) (name : String) :
    e.attributesNamed name = e.attributes.filter (·.name = name) := rfl

theorem elementsNamed_eq (e : Element) (name : String) :
    e.elementsNamed name = e.elements.filter (·.name = name) := rfl

/-- Child elements found by a name have that name. -/
theorem name_of_mem_elements_filter {e child : Element} {name : String}
    (h : child ∈ e.elements.filter (·.name = name)) : child.name = name :=
  of_decide_eq_true (List.mem_filter.1 h).2

/-! ## at most one -/

/-- A reader that looks at the only node found, if any was found, has two
cases. -/
theorem exists_atMostOne_iff {e : Element} {name : String} {found : List α}
    {p : Option α → Prop} :
    (∃ a?, e.atMostOne name found = .ok a? ∧ p a?) ↔
      found = [] ∧ p none ∨ ∃ a, found = [a] ∧ p (some a) := by
  constructor
  · intro h
    obtain ⟨a?, ha, hp⟩ := h
    cases a? with
    | none => exact .inl ⟨(Element.atMostOne_eq_none e name found).1 ha, hp⟩
    | some a => exact .inr ⟨a, (Element.atMostOne_eq_some e name found a).1 ha, hp⟩
  · intro h
    rcases h with ⟨rfl, hp⟩ | ⟨a, rfl, hp⟩
    · exact ⟨none, rfl, hp⟩
    · exact ⟨some a, rfl, hp⟩

/-- What was found at most once means something in the same two cases. -/
theorem atMostOne_iff {means : α → β → Prop} {found : List α} {meant : Option β} :
    AtMostOne means found meant ↔
      found = [] ∧ meant = none ∨ ∃ a, found = [a] ∧ ∃ b, means a b ∧ meant = some b := by
  constructor
  · intro h
    cases h with
    | none => exact .inl ⟨rfl, rfl⟩
    | one h => exact .inr ⟨_, rfl, _, h, rfl⟩
  · intro h
    rcases h with ⟨rfl, rfl⟩ | ⟨a, rfl, b, h, rfl⟩
    · exact .none
    · exact .one h

/-- What is said at most once and meant is said. -/
theorem exists_of_atMostOne {means : α → β → Prop} {xs : List α} {y : β}
    (h : AtMostOne means xs (some y)) : ∃ x ∈ xs, means x y := by
  cases h with
  | one h => exact ⟨_, List.mem_singleton_self _, h⟩

/-- What must be said is said. -/
theorem exists_of_exactlyOne {means : α → β → Prop} {xs : List α} {y : β}
    (h : ExactlyOne means xs y) : ∃ x ∈ xs, means x y := by
  cases h with
  | one h => exact ⟨_, List.mem_singleton_self _, h⟩

/-- The attribute of a name is read exactly if there is at most one and its
reader takes it. -/
theorem readOptional_eq_ok_iff {read : Attribute → Except Document.Error β}
    {means : Attribute → β → Prop} (hread : ∀ a x, read a = .ok x ↔ means a x) {e : Element}
    {name : String} {meant : Option β} :
    readOptional e name read = .ok meant ↔
      AtMostOne means (e.attributes.filter (·.name = name)) meant := by
  rw [readOptional, bind_eq_ok, Element.optionalAttribute, attributesNamed_eq,
    exists_atMostOne_iff, atMostOne_iff]
  simp only [bind_eq_ok, hread, Except.ok.injEq, eq_comm (b := meant)]

/-- The text of an attribute is read exactly if at most one attribute has the
name and that one has a text. -/
theorem optionalText_eq_ok_iff {e : Element} {name : String} {text : Option String} :
    optionalText e name = .ok text ↔
      AtMostOne Attribute.HasText (e.attributes.filter (·.name = name)) text :=
  readOptional_eq_ok_iff fun _ _ => Attribute.onlyText_eq_ok_iff

/-- The number of an attribute is read exactly if at most one attribute has the
name and that one has a number. -/
theorem readOptional_onlyFloat_eq_ok_iff {e : Element} {name : String} {x : Option Binary64} :
    readOptional e name Attribute.onlyFloat = .ok x ↔
      AtMostOne Attribute.HasFloat (e.attributes.filter (·.name = name)) x :=
  readOptional_eq_ok_iff fun _ _ => Attribute.onlyFloat_eq_ok_iff

/-- The boolean of an attribute is read exactly if at most one attribute has
the name and that one has a boolean. -/
theorem readOptional_onlyFlag_eq_ok_iff {e : Element} {name : String} {b : Option Bool} :
    readOptional e name Attribute.onlyFlag = .ok b ↔
      AtMostOne Attribute.HasFlag (e.attributes.filter (·.name = name)) b :=
  readOptional_eq_ok_iff fun _ _ => Attribute.onlyFlag_eq_ok_iff

/-! ## margins -/

/-- A side of a margin is read exactly if it is said at most once, as a
number. -/
theorem readSide_eq_ok_iff {e : Element} {name : String} {x : Binary64} :
    readSide e name = .ok x ↔
      OrDefault Attribute.HasFloat .zero (e.attributes.filter (·.name = name)) x := by
  simp only [readSide, bind_eq_ok, readOptional_onlyFloat_eq_ok_iff, OrDefault, Except.ok.injEq]

/-- A margin is read exactly if there is at most one element for it and that
one describes it. -/
theorem readMargin_eq_ok_iff {e : Element} {margin : Option Margin} :
    readMargin e = .ok margin ↔
      AtMostOne DescribesMargin (e.elements.filter (·.name = "Margin")) margin := by
  rw [readMargin, bind_eq_ok, Element.optionalElement, elementsNamed_eq, exists_atMostOne_iff,
    atMostOne_iff]
  simp only [bind_eq_ok, exists_unit, Element.requireAttributeNames_eq_ok,
    Element.requireNoElements_eq_ok, readSide_eq_ok_iff, Except.ok.injEq, eq_comm (b := margin)]
  refine or_congr_right (exists_congr fun slot => and_congr_right fun _ => ?_)
  constructor
  · intro h
    obtain ⟨hattributes, helements, left, hleft, top, htop, right, hright, bottom, hbottom,
      rfl⟩ := h
    exact ⟨_, ⟨hattributes, helements, hleft, htop, hright, hbottom⟩, rfl⟩
  · intro h
    obtain ⟨t, ht, rfl⟩ := h
    exact ⟨ht.attributes, ht.elements, t.left, ht.left, t.top, ht.top, t.right, ht.right,
      t.bottom, ht.bottom, rfl⟩

/-! ## orientations -/

/-- The place of a text among the names of the orientations is that of the
orientation it names. -/
theorem findIdx?_names_eq_some_iff {s : String} {i : Nat} :
    Orientation.names.findIdx? (· == s) = some i ↔
      ∃ o, Orientation.ofIndex? i = some o ∧ s = o.name := by
  constructor
  · intro h
    obtain ⟨hi, hs, -⟩ := List.findIdx?_eq_some_iff_getElem.1 h
    match i, hi, hs with
    | 0, _, hs => exact ⟨.horizontal, rfl, (eq_of_beq hs).symm⟩
    | 1, _, hs => exact ⟨.vertical, rfl, (eq_of_beq hs).symm⟩
  · intro h
    obtain ⟨o, hi, rfl⟩ := h
    match i, hi with
    | 0, hi => rw [← Option.some.inj hi]; decide
    | 1, hi => rw [← Option.some.inj hi]; decide

/-- The orientation is read exactly if it is said at most once, by its name. -/
theorem readOrientation_eq_ok_iff {e : Element} {o : Orientation} :
    readOrientation e = .ok o ↔
      OrDefault Attribute.HasOrientation .horizontal
        (e.attributes.filter (·.name = "Direction")) o := by
  have hread : ∀ (a : Attribute) (i : Nat), a.onlyChoice Orientation.names = .ok i ↔
      ∃ s, a.HasText s ∧ Orientation.names.findIdx? (· == s) = some i := fun a i =>
    Attribute.only_readAt_eq_ok_iff
  rw [readOrientation, bind_eq_ok]
  simp only [readOptional_eq_ok_iff hread, findIdx?_names_eq_some_iff, OrDefault,
    Except.ok.injEq]
  generalize e.attributes.filter (·.name = "Direction") = found
  constructor
  · intro h
    obtain ⟨i?, hi, rfl⟩ := h
    cases hi with
    | none => exact ⟨none, .none, rfl⟩
    | one hi =>
        obtain ⟨s, hs, o, ho, rfl⟩ := hi
        exact ⟨some o, .one hs, by rw [Option.bind_some, ho]⟩
  · intro h
    obtain ⟨o?, ho, rfl⟩ := h
    cases ho with
    | none => exact ⟨none, .none, rfl⟩
    | @one a o ho =>
        cases o with
        | horizontal => exact ⟨some 0, .one ⟨_, ho, .horizontal, rfl, rfl⟩, rfl⟩
        | vertical => exact ⟨some 1, .one ⟨_, ho, .vertical, rfl, rfl⟩, rfl⟩

/-! ## cells -/

/-- A number of cells is read where a text stands that spells it, if it is not
too small. -/
theorem readCells_eq_ok_iff {a : Attribute} {index : UInt64} {least : Nat}
    {expected : Document.Expected} {n : UInt32} :
    readCells a index least expected = .ok n ↔
      ∃ s, a.values[index.toNat]? = some (some s) ∧
        Number.readInteger? s = some (n.toNat : Int) ∧ least ≤ n.toNat := by
  rw [readCells, bind_eq_ok]
  simp only [Attribute.integerAt_eq_ok_iff, UInt32.size]
  constructor
  · intro h
    obtain ⟨m, ⟨s, hs, hm⟩, h⟩ := h
    split at h
    · cases h
    · next hrange =>
      have hn : (n.toNat : Int) = m := by
        rw [← Except.ok.inj h, UInt32.toNat_ofNat', Nat.mod_eq_of_lt (by omega)]
        omega
      exact ⟨s, hs, by rw [hm, hn], by omega⟩
  · intro h
    obtain ⟨s, hs, hn, hleast⟩ := h
    have hlt := n.toNat_lt
    refine ⟨n.toNat, ⟨s, hs, hn⟩, ?_⟩
    rw [if_neg (by omega), Int.toNat_natCast, UInt32.ofNat_toNat]

/-- Cells are refused if the cell behind the last one is beyond the limit. -/
theorem ite_isNone_stop?_eq_ok_iff {e : Document.Error} {s t : Span} :
    (if s.stop?.isNone then .error e else .ok s : Except Document.Error Span) = .ok t ↔
      s = t ∧ s.index.toNat + s.span.toNat ≤ Span.limit.toNat := by
  have hlimit : Span.limit.toNat + 1 = UInt32.size := rfl
  have hstop : s.stop?.isNone = true ↔ ¬ s.index.toNat + s.span.toNat ≤ Span.limit.toNat := by
    rw [Span.stop?]
    split
    · exact iff_of_false (by simp) (by omega)
    · exact iff_of_true rfl (by omega)
  split
  · next h => exact iff_of_false nofun fun h' => hstop.1 h h'.2
  · next h =>
    rw [hstop, not_not] at h
    exact ⟨fun heq => ⟨Except.ok.inj heq, h⟩, fun heq => congrArg _ heq.1⟩

/-- Cells are read exactly if the attribute has them. -/
theorem readSpan_eq_ok_iff {a : Attribute} {s : Span} : readSpan a = .ok s ↔ a.HasSpan s := by
  have hindex : ∀ n, readCells a 0 0 .nonNegative = .ok n ↔
      ∃ t, a.values[0]? = some (some t) ∧ Number.readInteger? t = some (n.toNat : Int) ∧
        0 ≤ n.toNat := fun n => readCells_eq_ok_iff
  have hspan : ∀ n, readCells a 1 1 .positive = .ok n ↔
      ∃ t, a.values[1]? = some (some t) ∧ Number.readInteger? t = some (n.toNat : Int) ∧
        1 ≤ n.toNat := fun n => readCells_eq_ok_iff
  rw [readSpan, demand_bind_eq_ok, Attribute.requireCountBetween_eq_ok, bind_eq_ok,
    Attribute.HasSpan]
  by_cases hlength : a.values.length = 2
  · -- two values, of which the second one is the number of cells
    simp only [if_pos hlength, bind_eq_ok, hindex, hspan, ite_isNone_stop?_eq_ok_iff]
    obtain ⟨v, w, hvalues⟩ := List.length_eq_two.1 hlength
    rw [hvalues]
    constructor
    · intro h
      obtain ⟨-, index, ⟨t, ht, hread, -⟩, span, ⟨u, hu, hread', hleast⟩, rfl, hlimit⟩ := h
      obtain rfl := Option.some.inj ht
      obtain rfl := Option.some.inj hu
      exact ⟨.inr ⟨t, u, rfl, hread, hread', hleast⟩, hlimit⟩
    · intro h
      obtain ⟨⟨t, ht, -⟩ | ⟨t, u, htu, hread, hread', hleast⟩, hlimit⟩ := h
      · cases ht
      · cases htu
        exact ⟨by simp, s.index, ⟨t, rfl, hread, Nat.zero_le _⟩, s.span,
          ⟨u, rfl, hread', hleast⟩, rfl, hlimit⟩
  · -- one value, and one cell
    simp only [if_neg hlength, ok_bind, hindex, ite_isNone_stop?_eq_ok_iff]
    constructor
    · intro h
      obtain ⟨⟨hleast, hmost⟩, index, ⟨t, ht, hread, -⟩, rfl, hlimit⟩ := h
      obtain ⟨v, hvalues⟩ := List.length_eq_one_iff.1 (show a.values.length = 1 by omega)
      rw [hvalues] at ht
      obtain rfl := Option.some.inj ht
      exact ⟨.inl ⟨t, hvalues, hread, rfl⟩, hlimit⟩
    · intro h
      obtain ⟨⟨t, ht, hread, hone⟩ | ⟨t, u, htu, -⟩, hlimit⟩ := h
      · obtain ⟨index, span⟩ := s
        subst hone
        rw [ht]
        exact ⟨by simp, index, ⟨t, rfl, hread, Nat.zero_le _⟩, rfl, hlimit⟩
      · exact absurd (by rw [htu]; rfl) hlength

theorem requiredAttribute_eq_ok_iff {e : Element} {name : String} {a : Attribute} :
    e.requiredAttribute name = .ok a ↔ e.attributes.filter (·.name = name) = [a] := by
  rw [Element.requiredAttribute, bind_eq_ok, Element.optionalAttribute, attributesNamed_eq,
    exists_atMostOne_iff]
  simp

/-- Cells that must be said are read exactly if they are said once. -/
theorem readRequired_eq_ok_iff {e : Element} {name : String} {s : Span} :
    (e.requiredAttribute name >>= readSpan) = .ok s ↔
      ExactlyOne Attribute.HasSpan (e.attributes.filter (·.name = name)) s := by
  simp only [bind_eq_ok, requiredAttribute_eq_ok_iff, readSpan_eq_ok_iff]
  constructor
  · intro h
    obtain ⟨a, ha, hs⟩ := h
    rw [ha]
    exact .one hs
  · intro h
    generalize e.attributes.filter (·.name = name) = found at h
    obtain ⟨hs⟩ := h
    exact ⟨_, rfl, hs⟩

theorem readPlacement_eq_ok_iff {e : Element} {column row : Span} :
    readPlacement e = .ok (column, row) ↔
      ExactlyOne Attribute.HasSpan (e.attributes.filter (·.name = "Column")) column ∧
        ExactlyOne Attribute.HasSpan (e.attributes.filter (·.name = "Row")) row := by
  have hsteps : readPlacement e =
      (e.requiredAttribute "Column" >>= readSpan) >>= fun column =>
        (e.requiredAttribute "Row" >>= readSpan) >>= fun row => .ok (column, row) := by
    simp only [readPlacement, bind_assoc]
  rw [hsteps]
  simp only [bind_eq_ok, Except.ok.injEq, Prod.mk.injEq]
  simp only [← bind_eq_ok, readRequired_eq_ok_iff]
  constructor
  · intro h
    obtain ⟨_, hcolumn, _, hrow, rfl, rfl⟩ := h
    exact ⟨hcolumn, hrow⟩
  · intro h
    exact ⟨column, h.1, row, h.2, rfl, rfl⟩

/-! ## menus -/

/-- An attribute that declares an entry is read as that entry. -/
theorem readEntries_cons_eq_ok_iff {a : Attribute} {more : List Attribute}
    {entries : List MenuEntry} (hname : a.name ∈ ["Command", "CheckItem", "Enum"]) :
    readEntries (a :: more) = .ok entries ↔
      ∃ entry rest, DescribesEntry a entry ∧ readEntries more = .ok rest ∧
        entries = entry :: rest := by
  have hread : ∀ entry : String → MenuEntry,
      (∀ m, DescribesEntry a m ↔ ∃ path, a.HasText path ∧ m = entry path) →
      ((do let path ← a.onlyText
           let rest ← readEntries more
           .ok (entry path :: rest)) = .ok entries ↔
        ∃ m rest, DescribesEntry a m ∧ readEntries more = .ok rest ∧ entries = m :: rest) := by
    intro entry hentry
    simp only [bind_eq_ok, Attribute.onlyText_eq_ok_iff, Except.ok.injEq, hentry]
    constructor
    · intro h
      obtain ⟨path, hpath, rest, hrest, rfl⟩ := h
      exact ⟨_, rest, ⟨path, hpath, rfl⟩, hrest, rfl⟩
    · intro h
      obtain ⟨_, rest, ⟨path, hpath, rfl⟩, hrest, rfl⟩ := h
      exact ⟨path, hpath, rest, hrest, rfl⟩
  simp only [List.mem_cons, List.not_mem_nil, or_false] at hname
  rw [readEntries]
  rcases hname with hname | hname | hname
  · simp only [hname, if_true]
    exact hread .command fun m => by
      cases m <;> simp [DescribesEntry, entryTag, MenuEntry.path, hname]
  · simp only [hname, if_true, String.reduceEq, if_false]
    exact hread .check fun m => by
      cases m <;> simp [DescribesEntry, entryTag, MenuEntry.path, hname]
  · simp only [hname, if_true, String.reduceEq, if_false]
    exact hread .choice fun m => by
      cases m <;> simp [DescribesEntry, entryTag, MenuEntry.path, hname]

/-- The entries of a menu are read exactly if every attribute but the title
declares its entry. -/
theorem readEntries_eq_ok_iff {attrs : List Attribute} {entries : List MenuEntry}
    (hnames : ∀ a ∈ attrs, a.name ∈ ["Item", "Command", "CheckItem", "Enum"]) :
    readEntries attrs = .ok entries ↔
      List.Forall₂ DescribesEntry (attrs.filter (·.name ≠ "Item")) entries := by
  induction attrs generalizing entries with
  | nil =>
      rw [List.filter_nil, List.forall₂_nil_left_iff]
      exact ⟨fun h => (Except.ok.inj h).symm, fun h => h ▸ rfl⟩
  | cons a more ih =>
      have hmore := fun b hb => hnames b (List.mem_cons_of_mem a hb)
      rcases List.mem_cons.1 (hnames a List.mem_cons_self) with htitle | hname
      · rw [List.filter_cons_of_neg (by simp [htitle]), ← ih hmore, readEntries]
        simp [htitle]
      · have hne : a.name ≠ "Item" := by
          intro h
          simp [h] at hname
        rw [List.filter_cons_of_pos (by simp [hne]), List.forall₂_cons_left_iff,
          readEntries_cons_eq_ok_iff hname]
        simp only [ih hmore]

/-- A menu is read exactly if the element describes it. -/
theorem readMenu_eq_ok_iff {e : Element} {m : Menu} : readMenu e = .ok m ↔ DescribesMenu e m := by
  rw [readMenu, demand_bind_eq_ok, demand_bind_eq_ok, Element.requireAttributeNames_eq_ok,
    Element.requireNoElements_eq_ok]
  constructor
  · intro h
    obtain ⟨hattributes, helements, h⟩ := h
    simp only [bind_eq_ok, optionalText_eq_ok_iff, readEntries_eq_ok_iff hattributes,
      Except.ok.injEq] at h
    obtain ⟨title, htitle, entries, hentries, rfl⟩ := h
    exact ⟨hattributes, helements, htitle, hentries⟩
  · intro h
    refine ⟨h.attributes, h.elements, ?_⟩
    simp only [bind_eq_ok, optionalText_eq_ok_iff, readEntries_eq_ok_iff h.attributes,
      Except.ok.injEq]
    exact ⟨m.title, h.title, m.entries, h.entries, rfl⟩

end UiMarkup.Control
