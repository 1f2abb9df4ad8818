import Mathlib.Data.List.Induction
import Mathlib.Data.List.Nodup
import Mathlib.Data.List.TakeWhile
import UiMarkup.Items.Declaration
import UiMarkup.Observer.Arena
import UiMarkup.Proofs.Items.Schema
import UiMarkup.Proofs.Document.Values

/-!
# UiMarkup.Proofs.Items.Declaration

The reader of items accepts the well-declared documents and nothing else, and
the store holds what they declare.

The reader takes in one node after the other and keeps the group so far and
whether an option may follow.  Both are functions of the nodes taken in
(`stateOf`), so that one step lemma for the node behind them carries over to
all nodes by induction from the right:

* `titleOf_eq`, `ofTag?_eq`: what is read off one attribute;
* `takeNode_eq_ok_iff`: one node;
* `takeNodes_eq_ok_iff`: the nodes of an element;
* `ofElement_eq_ok_iff_wellDeclared`: the whole tree.
-/

namespace UiMarkup.Items

open Observer (Arena Storage)

variable {S ω : Type} [Storage S ω]

/-! ## what is read off an attribute -/

@[simp] theorem isOption_attr (a : Attribute) :
    isOption (.attr a) = decide (a.name = "*") := rfl

@[simp] theorem isOption_elem (name : String) (nodes : List Node) :
    isOption (.elem name nodes) = false := rfl

/-- The title is the one that the second value gives. -/
theorem titleOf_eq (a : Attribute) : titleOf a = declaredTitle a := by
  rw [titleOf, declaredTitle]
  rcases a.values with _ | ⟨first, _ | ⟨_ | title, rest⟩⟩
  · rfl
  · rfl
  · rfl
  · rfl

/-- The tags are the texts that declare a kind. -/
theorem ofTag?_eq (tag : String) : Kind.ofTag? tag = kindDeclared? tag := by
  unfold kindDeclared?
  split
  · rfl
  · rfl
  · rfl
  · rfl
  · rfl
  · next hitem hcommand hstring hbool henum =>
    simp [Kind.ofTag?, Kind.all, Kind.tag, Ne.symm hitem, Ne.symm hcommand, Ne.symm hstring,
      Ne.symm hbool, Ne.symm henum]

theorem kindDeclared?_tag (kind : Kind) : kindDeclared? kind.tag = some kind := by
  rw [← ofTag?_eq, Kind.ofTag?_tag]

/-- The first value declares a kind exactly if it is the tag of one. -/
theorem hasFirst_tag_iff {a : Attribute} :
    (∃ tag, a.HasFirst tag ∧ (kindDeclared? tag).isSome) ↔ ∃ kind, a.HasFirst (Kind.tag kind) := by
  constructor
  · intro h
    obtain ⟨tag, hfirst, hkind⟩ := h
    obtain ⟨kind, hkind⟩ := Option.isSome_iff_exists.1 hkind
    rw [← ofTag?_eq] at hkind
    exact ⟨kind, Kind.ofTag?_eq_some hkind ▸ hfirst⟩
  · intro h
    obtain ⟨kind, hfirst⟩ := h
    exact ⟨kind.tag, hfirst, by rw [kindDeclared?_tag]; rfl⟩

theorem validName_iff {s : String} : ValidName s ↔ isName s = true := by
  simp [ValidName, isName]

/-! ## splitting nodes -/

theorem optionsAhead_append {x : Node} (hx : isOption x = false) (nodes more : List Node) :
    optionsAhead (nodes ++ x :: more) = optionsAhead nodes := by
  induction nodes with
  | nil =>
      rw [List.nil_append, optionsAhead, List.takeWhile_cons_of_neg (by simp [hx])]
      rfl
  | cons y nodes ih =>
      rw [optionsAhead, optionsAhead] at *
      rw [List.cons_append]
      by_cases hy : isOption y = true
      · rw [List.takeWhile_cons_of_pos hy, List.takeWhile_cons_of_pos hy, List.filterMap_cons,
          List.filterMap_cons, ih]
      · rw [List.takeWhile_cons_of_neg hy, List.takeWhile_cons_of_neg hy]

theorem declared?_append {separator : String} {x : Node} (hx : isOption x = false)
    (nodes more : List Node) (y : Node) :
    (declared? separator (nodes ++ x :: more) y : Option (Entry S ω)) =
      declared? separator nodes y := by
  cases y with
  | attr a => rw [declared?, declared?, optionsAhead_append hx]
  | elem name inner => rw [declared?, declared?]

/-- What stands from a node on that adds no option changes nothing before. -/
theorem declaredEntries_append {separator : String} {x : Node} (hx : isOption x = false)
    (nodes more : List Node) :
    (declaredEntries separator (nodes ++ x :: more) : List (Entry S ω)) =
      declaredEntries separator nodes ++ declaredEntries separator (x :: more) := by
  induction nodes with
  | nil => rfl
  | cons y nodes ih =>
      rw [List.cons_append, declaredEntries, declaredEntries, ih, declared?_append hx,
        List.append_assoc]

/-- Nodes that add options declare nothing on their own. -/
theorem declaredEntries_options {separator : String} {stars : List Node}
    (hstars : ∀ x ∈ stars, isOption x = true) :
    (declaredEntries separator stars : List (Entry S ω)) = [] := by
  induction stars with
  | nil => rw [declaredEntries]
  | cons x stars ih =>
      have hx := hstars x List.mem_cons_self
      have hmore := ih fun y hy => hstars y (List.mem_cons_of_mem _ hy)
      cases x with
      | attr a =>
          rw [declaredEntries, declared?, if_pos (by simpa using hx), hmore]
          rfl
      | elem name inner => cases hx

/-- An attribute that adds no option declares one item, with the options right
behind it. -/
theorem declaredEntries_attr {separator : String} {a : Attribute} {stars : List Node}
    (ha : a.name ≠ "*") (hstars : ∀ x ∈ stars, isOption x = true) :
    (declaredEntries separator (.attr a :: stars) : List (Entry S ω)) =
      [.item (declaredItem separator a (stars.filterMap Node.attribute?))] := by
  rw [declaredEntries, declared?, if_neg ha, declaredEntries_options hstars, optionsAhead,
    List.takeWhile_eq_self_iff.2 hstars]
  rfl

theorem map_key_declared? (separator : String) (behind : List Node) (x : Node) :
    (declared? separator behind x : Option (Entry S ω)).toList.map Entry.key =
      if isOption x then [] else [key x.name] := by
  cases x with
  | attr a =>
      rw [declared?]
      by_cases ha : a.name = "*"
      · rw [if_pos ha, if_pos (by simp [ha])]
        rfl
      · rw [if_neg ha, if_neg (by simp [ha])]
        rfl
  | elem name inner =>
      rw [declared?]
      rfl

/-- The entries have the keys of the names that are declared. -/
theorem map_key_declaredEntries (separator : String) (nodes : List Node) :
    (declaredEntries separator nodes : List (Entry S ω)).map Entry.key = declaredKeys nodes := by
  induction nodes with
  | nil => rfl
  | cons x nodes ih =>
      rw [declaredEntries, List.map_append, map_key_declared?, ih, declaredKeys,
        declaredKeys, List.filter_cons]
      cases hx : isOption x with
      | true => simp
      | false => simp

/-! ## one more node -/

theorem followsChoice_concat (before : List Node) (x : Node) :
    followsChoice (before ++ [x]) = if isOption x then followsChoice before else opensChoice x := by
  rw [followsChoice, List.reverse_append, List.reverse_singleton, List.singleton_append,
    List.dropWhile_cons]
  split
  · rfl
  · rfl

/-- What follows a choice are options alone. -/
theorem exists_of_followsChoice {before : List Node} (h : followsChoice before = true) :
    ∃ front a stars, before = front ++ .attr a :: stars ∧
      (∀ x ∈ stars, isOption x = true) ∧ opensChoice (.attr a) = true := by
  induction before using List.reverseRecOn with
  | nil => cases h
  | append_singleton before x ih =>
      rw [followsChoice_concat] at h
      by_cases hx : isOption x = true
      · rw [if_pos hx] at h
        obtain ⟨front, a, stars, rfl, hstars, ha⟩ := ih h
        have hmore : ∀ y ∈ stars ++ [x], isOption y = true :=
          List.forall_mem_append.2 ⟨hstars, by simpa using hx⟩
        exact ⟨front, a, stars ++ [x], by rw [List.append_assoc]; rfl, hmore, ha⟩
      · rw [if_neg hx] at h
        cases x with
        | attr a => exact ⟨before, a, [], rfl, nofun, h⟩
        | elem name inner => cases h

theorem declaredKeys_concat (before : List Node) (x : Node) :
    declaredKeys (before ++ [x]) =
      declaredKeys before ++ if isOption x then [] else [key x.name] := by
  rw [declaredKeys, List.filter_append, List.map_append]
  cases hx : isOption x with
  | true => simp [hx, declaredKeys]
  | false => simp [hx, declaredKeys]

/-- The splits of nodes with one more behind them: those before, and the one
at that node. -/
theorem concat_eq_append_cons_iff {nodes before after : List Node} {x y : Node} :
    nodes ++ [x] = before ++ y :: after ↔
      (∃ after', nodes = before ++ y :: after' ∧ after = after' ++ [x]) ∨
        (nodes = before ∧ x = y ∧ after = []) := by
  constructor
  · intro h
    rcases List.eq_nil_or_concat' after with rfl | ⟨after', z, rfl⟩
    · obtain ⟨hnodes, hx⟩ := List.append_inj' h rfl
      exact .inr ⟨hnodes, (List.cons.inj hx).1, rfl⟩
    · rw [← List.cons_append, ← List.append_assoc] at h
      obtain ⟨hnodes, hx⟩ := List.append_inj' h rfl
      exact .inl ⟨after', hnodes, by rw [(List.cons.inj hx).1]⟩
  · intro h
    rcases h with ⟨after', rfl, rfl⟩ | ⟨rfl, rfl, rfl⟩
    · rw [List.append_assoc, List.cons_append]
    · rfl

/-- What one more node must satisfy, behind the nodes before. -/
def Fits (nestedGroups : Bool) (before : List Node) : Node → Prop
  | .attr a =>
    if a.name = "*" then (∃ id, a.HasFirst id) ∧ followsChoice before = true
    else (∃ kind, a.HasFirst (Kind.tag kind)) ∧ isName a.name = true ∧
      key a.name ∉ declaredKeys before
  | .elem name _ => isName name = true ∧ nestedGroups = true ∧ key name ∉ declaredKeys before

theorem nodup_declaredKeys_concat {before : List Node} {x : Node} :
    (declaredKeys (before ++ [x])).Nodup ↔
      (declaredKeys before).Nodup ∧ (isOption x = false → key x.name ∉ declaredKeys before) := by
  rw [declaredKeys_concat]
  cases hx : isOption x with
  | true => simp
  | false =>
      rw [if_neg (by simp), List.nodup_append_comm, List.singleton_append, List.nodup_cons]
      simp [and_comm]

/-- Nodes stay well-declared without the last one. -/
theorem WellDeclared.of_concat {nestedGroups : Bool} {before : List Node} {x : Node}
    (h : WellDeclared nestedGroups (before ++ [x])) : WellDeclared nestedGroups before where
  items a hmem := h.items a (List.mem_append_left _ hmem)
  options front a after heq :=
    h.options front a (after ++ [x]) (concat_eq_append_cons_iff.2 (.inl ⟨after, heq, rfl⟩))
  groups name inner hmem := h.groups name inner (List.mem_append_left _ hmem)
  names := (nodup_declaredKeys_concat.1 h.names).1

/-- The last one of well-declared nodes fits behind the others. -/
theorem WellDeclared.fits {nestedGroups : Bool} {before : List Node} {x : Node}
    (h : WellDeclared nestedGroups (before ++ [x])) : Fits nestedGroups before x := by
  have hlast : x ∈ before ++ [x] := List.mem_append_right _ List.mem_cons_self
  have hkey := (nodup_declaredKeys_concat.1 h.names).2
  cases x with
  | attr a =>
      rw [Fits]
      by_cases ha : a.name = "*"
      · rw [if_pos ha]
        exact h.options before a [] rfl ha
      · rw [if_neg ha]
        obtain ⟨hfirst, hname⟩ := h.items a hlast ha
        exact ⟨hasFirst_tag_iff.1 hfirst, validName_iff.1 hname, hkey (by simp [ha])⟩
  | elem name inner =>
      obtain ⟨hname, hnested⟩ := h.groups name inner hlast
      exact ⟨validName_iff.1 hname, hnested, hkey rfl⟩

theorem Fits.key_not_mem {nestedGroups : Bool} {before : List Node} {x : Node}
    (hx : Fits nestedGroups before x) (hdeclares : isOption x = false) :
    key x.name ∉ declaredKeys before := by
  cases x with
  | attr a =>
      have ha : a.name ≠ "*" := by simpa using hdeclares
      rw [Fits, if_neg ha] at hx
      exact hx.2.2
  | elem name inner => exact hx.2.2

/-- Nodes stay well-declared with one more behind them that fits. -/
theorem WellDeclared.concat {nestedGroups : Bool} {before : List Node} {x : Node}
    (h : WellDeclared nestedGroups before) (hx : Fits nestedGroups before x) :
    WellDeclared nestedGroups (before ++ [x]) := by
  refine ⟨?_, ?_, ?_, nodup_declaredKeys_concat.2 ⟨h.names, hx.key_not_mem⟩⟩
  · intro a hmem ha
    rcases List.mem_append.1 hmem with hmem | hmem
    · exact h.items a hmem ha
    · rw [← List.mem_singleton.1 hmem, Fits, if_neg ha] at hx
      exact ⟨hasFirst_tag_iff.2 hx.1, validName_iff.2 hx.2.1⟩
  · intro front a after heq ha
    rcases concat_eq_append_cons_iff.1 heq with ⟨after', heq, -⟩ | ⟨rfl, rfl, -⟩
    · exact h.options front a after' heq ha
    · rw [Fits, if_pos ha] at hx
      exact hx
  · intro name inner hmem
    rcases List.mem_append.1 hmem with hmem | hmem
    · exact h.groups name inner hmem
    · rw [← List.mem_singleton.1 hmem, Fits] at hx
      exact ⟨validName_iff.2 hx.1, hx.2.1⟩

/-- One more node keeps nodes well-declared exactly if it fits. -/
theorem wellDeclared_concat {nestedGroups : Bool} {before : List Node} {x : Node} :
    WellDeclared nestedGroups (before ++ [x]) ↔
      WellDeclared nestedGroups before ∧ Fits nestedGroups before x :=
  ⟨fun h => ⟨h.of_concat, h.fits⟩, fun h => h.1.concat h.2⟩

/-! ## taking in an attribute -/

variable {name separator : String} {entries : List (Entry S ω)} {d : Declared S ω}

theorem declaredKind_eq {a : Attribute} {kind : Kind}
    (h : a.values[0]? = some (some kind.tag)) : declaredKind a = kind := by
  rw [declaredKind, firstText, h, Option.join_some, Option.getD_some, kindDeclared?_tag,
    Option.getD_some]

theorem declaredItem_nil (separator : String) {a : Attribute} {kind : Kind}
    (h : a.values[0]? = some (some kind.tag)) :
    (declaredItem separator a [] : Item S ω) = (Item.ofKind kind a.name).setTitle (titleOf a) := by
  rw [declaredItem, declaredKind_eq h, titleOf_eq]
  cases kind with
  | _ => rfl

/-- A declared item has the kind that it is declared as, whatever options it
has. -/
theorem kind_declaredItem (separator : String) (a : Attribute) (options : List Attribute) :
    (declaredItem separator a options : Item S ω).kind = declaredKind a := by
  rw [declaredItem, Item.kind]
  cases declaredKind a with
  | _ => rfl

theorem opensChoice_attr {a : Attribute} {kind : Kind} (ha : a.name ≠ "*")
    (h : a.values[0]? = some (some kind.tag)) :
    opensChoice (.attr a) = decide (kind = .choice) := by
  rw [opensChoice, h]
  cases kind with
  | _ => simp [ha, Kind.tag]

/-- An attribute is taken in as an item exactly if it declares one that the
group takes. -/
theorem takeItem_eq_ok_iff_insert (separator : String) {g : Group S ω} {a : Attribute}
    (ha : a.name ≠ "*") :
    takeItem g a = .ok d ↔
      (∃ kind, a.HasFirst (Kind.tag kind)) ∧
        ∃ h, g.insert (.item (declaredItem separator a [])) = .ok h ∧
          d = ⟨h, opensChoice (.attr a)⟩ := by
  simp only [takeItem, liftDocument, bind_eq_ok, exists_unit, mapError_eq_ok,
    Attribute.requireCountBetween_eq_ok, Attribute.textAt_eq_ok_iff]
  constructor
  · intro h
    obtain ⟨⟨hleast, hmost⟩, tag, htag, h⟩ := h
    cases hkind : Kind.ofTag? tag with
    | none =>
        rw [hkind] at h
        cases h
    | some kind =>
        obtain rfl := Kind.ofTag?_eq_some hkind
        simp only [hkind, Group.addItem_eq, bind_eq_ok, map_eq_ok] at h
        obtain ⟨-, ⟨g', hg, rfl⟩, h⟩ := h
        rw [← declaredItem_nil separator htag] at hg
        refine ⟨⟨kind, hleast, hmost, htag⟩, g', hg, ?_⟩
        rw [opensChoice_attr ha htag]
        exact (Except.ok.inj h).symm
  · intro h
    obtain ⟨⟨kind, hleast, hmost, htag⟩, g', hg, rfl⟩ := h
    rw [declaredItem_nil separator htag] at hg
    refine ⟨⟨hleast, hmost⟩, kind.tag, htag, ?_⟩
    rw [Kind.ofTag?_tag, opensChoice_attr ha htag]
    exact bind_eq_ok.2 ⟨_, Group.addItem_eq g _ ▸ map_eq_ok.2 ⟨g', hg, rfl⟩, rfl⟩

/-- An attribute is taken in as an item exactly if it declares one under a new
name. -/
theorem takeItem_eq_ok_iff {a : Attribute} (ha : a.name ≠ "*") :
    takeItem (Group.ofEntries name entries) a = .ok d ↔
      ((∃ kind, a.HasFirst (Kind.tag kind)) ∧ isName a.name = true ∧
        key a.name ∉ entries.map Entry.key) ∧
      d = ⟨Group.ofEntries name (entries ++ [.item (declaredItem separator a [])]),
        opensChoice (.attr a)⟩ := by
  rw [takeItem_eq_ok_iff_insert separator ha]
  simp only [Group.insert_ofEntries_eq_ok_iff]
  constructor
  · intro h
    obtain ⟨hfirst, h, ⟨hname, hkey, rfl⟩, rfl⟩ := h
    exact ⟨⟨hfirst, hname, hkey⟩, rfl⟩
  · intro h
    obtain ⟨⟨hfirst, hname, hkey⟩, rfl⟩ := h
    exact ⟨hfirst, _, ⟨hname, hkey, rfl⟩, rfl⟩

/-- One more option is one more attribute behind the choice. -/
theorem addOption?_declaredItem {choice a : Attribute} {options : List Attribute} {id : String}
    (hchoice : declaredKind choice = .choice) (hid : a.values[0]? = some (some id)) :
    (declaredItem separator choice options : Item S ω).addOption?
        ⟨choice.name ++ separator ++ id, titleOf a, none⟩ =
      some (declaredItem separator choice (options ++ [a])) := by
  have hoption : declaredOption separator choice.name a =
      ⟨choice.name ++ separator ++ id, titleOf a, none⟩ := by
    rw [declaredOption, firstText, hid, titleOf_eq]
    rfl
  rw [declaredItem, declaredItem, hchoice, List.map_append, List.map_singleton, hoption]
  rfl

/-- Behind a choice that is the last entry, an attribute becomes one more option
of it, unless its values are at fault. -/
theorem takeOption_of_last {dialect : Dialect} {g : Group S ω} {choice a : Attribute}
    {options : List Attribute} (hchoice : declaredKind choice = .choice)
    (hlast : g.last? = some (.item (declaredItem dialect.separator choice options))) :
    takeOption dialect g a =
      liftDocument (a.requireCountBetween 1 2) >>= fun _ =>
        liftDocument (a.textAt 0) >>= fun _ =>
          .ok ⟨g.replaceLast (.item (declaredItem dialect.separator choice (options ++ [a]))),
            true⟩ := by
  have hkind : (declaredItem dialect.separator choice options : Item S ω).kind = .choice :=
    (kind_declaredItem _ _ _).trans hchoice
  have hname : (declaredItem dialect.separator choice options : Item S ω).name = choice.name := rfl
  rw [takeOption, hlast]
  refine bind_congr fun _ => ?_
  simp only [hkind, hname, ne_eq, not_true_eq_false, if_false]
  cases hid : a.textAt 0 with
  | error e => rfl
  | ok id =>
      rw [Attribute.textAt_eq_ok_iff] at hid
      simp only [liftDocument, Except.mapError, ok_bind, addOption?_declaredItem hchoice hid]

/-- Behind a choice, an attribute is taken in as an option exactly if it
declares one. -/
theorem takeOption_eq_ok_iff_of_last {dialect : Dialect} {g : Group S ω} {choice a : Attribute}
    {options : List Attribute} (hchoice : declaredKind choice = .choice)
    (hlast : g.last? = some (.item (declaredItem dialect.separator choice options))) :
    takeOption dialect g a = .ok d ↔
      (∃ id, a.HasFirst id) ∧
        d = ⟨g.replaceLast (.item (declaredItem dialect.separator choice (options ++ [a]))),
          true⟩ := by
  rw [takeOption_of_last hchoice hlast, demand_bind_eq_ok, bind_eq_ok]
  simp only [liftDocument, mapError_eq_ok, Attribute.requireCountBetween_eq_ok,
    Attribute.textAt_eq_ok_iff]
  constructor
  · intro h
    obtain ⟨⟨hleast, hmost⟩, id, hid, h⟩ := h
    exact ⟨⟨id, hleast, hmost, hid⟩, (Except.ok.inj h).symm⟩
  · intro h
    obtain ⟨⟨id, hleast, hmost, hid⟩, rfl⟩ := h
    exact ⟨⟨hleast, hmost⟩, id, hid, rfl⟩

/-- Behind a choice, the options that are taken in stand in the choice. -/
theorem takeOption_eq_ok_iff {dialect : Dialect} {choice a : Attribute}
    {options : List Attribute} (hchoice : declaredKind choice = .choice) :
    takeOption dialect (Group.ofEntries name
        (entries ++ [.item (declaredItem dialect.separator choice options)])) a = .ok d ↔
      (∃ id, a.HasFirst id) ∧
        d = ⟨Group.ofEntries name
          (entries ++ [.item (declaredItem dialect.separator choice (options ++ [a]))]), true⟩ := by
  have hreplace : (Group.ofEntries name
      (entries ++ [.item (declaredItem dialect.separator choice options)])).replaceLast
        (.item (declaredItem dialect.separator choice (options ++ [a]))) =
      Group.ofEntries name
        (entries ++ [.item (declaredItem dialect.separator choice (options ++ [a]))]) :=
    Group.replaceLast_ofEntries_concat rfl
  rw [takeOption_eq_ok_iff_of_last hchoice (Group.last?_ofEntries_concat _ _ _), hreplace]

/-! ## taking in nodes -/

/-- What the reader keeps after these nodes. -/
def stateOf (separator name : String) (before : List Node) : Declared S ω :=
  ⟨Group.ofEntries name (declaredEntries separator before), followsChoice before⟩

theorem declaredKind_of_opensChoice {a : Attribute} (h : opensChoice (.attr a) = true) :
    a.name ≠ "*" ∧ declaredKind a = .choice := by
  rw [opensChoice, decide_eq_true_eq] at h
  exact ⟨h.1, declaredKind_eq h.2⟩

/-- Behind a choice, one more node that adds an option changes the last
entry. -/
theorem exists_declaredEntries_of_followsChoice {before : List Node}
    (h : followsChoice before = true) :
    ∃ (front : List (Entry S ω)) (choice : Attribute) (options : List Attribute),
      declaredKind choice = .choice ∧
      declaredEntries separator before =
        front ++ [.item (declaredItem separator choice options)] ∧
      ∀ a : Attribute, a.name = "*" → declaredEntries separator (before ++ [.attr a]) =
        front ++ [.item (declaredItem separator choice (options ++ [a]))] := by
  obtain ⟨front, choice, stars, rfl, hstars, hchoice⟩ := exists_of_followsChoice h
  obtain ⟨hname, hkind⟩ := declaredKind_of_opensChoice hchoice
  have hdeclares : isOption (.attr choice) = false := by simp [hname]
  refine ⟨declaredEntries separator front, choice, stars.filterMap Node.attribute?, hkind, ?_, ?_⟩
  · rw [declaredEntries_append hdeclares, declaredEntries_attr hname hstars]
  · intro a ha
    have hmore : ∀ x ∈ stars ++ [.attr a], isOption x = true :=
      List.forall_mem_append.2 ⟨hstars, by simpa using ha⟩
    rw [List.append_assoc, List.cons_append, declaredEntries_append hdeclares,
      declaredEntries_attr hname hmore, List.filterMap_append]
    rfl

/-- What the reader does with the nodes of an element on their own. -/
abbrev takeAll (dialect : Dialect) (parent name : String) (nodes : List Node) :
    Except Error (Declared S ω) :=
  takeNodes dialect parent ⟨.empty name, false⟩ nodes

/-- An attribute is taken in exactly if it fits behind the nodes before. -/
theorem takeNode_attr_eq_ok_iff {dialect : Dialect} {parent : String} {before : List Node}
    {a : Attribute} :
    takeNode dialect parent (stateOf dialect.separator name before) (.attr a) = .ok d ↔
      Fits dialect.nestedGroups before (.attr a) ∧
        d = stateOf dialect.separator name (before ++ [.attr a]) := by
  rw [takeNode, optionName, Fits, stateOf, stateOf, followsChoice_concat]
  by_cases ha : a.name = "*"
  · -- an option, which goes to the choice that the nodes before end with
    have hoption : isOption (.attr a) = true := by simp [ha]
    rw [if_pos ha, if_pos ha, if_pos hoption]
    cases hopen : followsChoice before with
    | false => simp
    | true =>
        obtain ⟨front, choice, options, hchoice, hbefore, hafter⟩ :=
          exists_declaredEntries_of_followsChoice (S := S) hopen
        rw [if_pos rfl, hbefore, hafter a ha, takeOption_eq_ok_iff hchoice, and_iff_left rfl]
  · -- an item, which is one more entry
    have hdeclares : isOption (.attr a) = false := by simp [ha]
    have hentries : (declaredEntries dialect.separator (before ++ [.attr a]) : List (Entry S ω)) =
        declaredEntries dialect.separator before ++
          [.item (declaredItem dialect.separator a [])] := by
      rw [declaredEntries_append hdeclares, declaredEntries_attr ha (by simp),
        List.filterMap_nil]
    rw [if_neg ha, if_neg ha, if_neg (by simp [ha]), hentries, takeItem_eq_ok_iff ha,
      map_key_declaredEntries]

omit [Storage S ω] in
/-- A group is admitted exactly if there may be groups and its name is a new
one. -/
theorem admitGroup_eq_ok_iff {dialect : Dialect} {parent n : String} {g : Group S ω}
    {p : Group S ω × Group S ω} :
    admitGroup dialect parent g n = .ok p ↔
      dialect.nestedGroups = true ∧
        ∃ h, g.insert (Group.empty n).toEntry = .ok h ∧ p = (h, .empty n) := by
  rw [admitGroup, Group.addGroup_eq]
  cases dialect.nestedGroups with
  | false => simp
  | true =>
      rw [if_pos rfl, map_eq_ok, and_iff_right rfl]
      simp only [eq_comm]

/-- A child element is taken in exactly if its group is admitted and its nodes
are taken in on their own. -/
theorem takeNode_elem_eq_ok_iff_insert {dialect : Dialect} {parent n : String}
    {d d' : Declared S ω} {inner : List Node} :
    takeNode dialect parent d (.elem n inner) = .ok d' ↔
      dialect.nestedGroups = true ∧ ∃ g, d.group.insert (Group.empty n).toEntry = .ok g ∧
        ∃ e, takeAll dialect n n inner = .ok e ∧
          d' = ⟨g.replaceLast e.group.toEntry, false⟩ := by
  rw [takeNode, bind_eq_ok]
  simp only [admitGroup_eq_ok_iff, bind_eq_ok]
  constructor
  · intro h
    obtain ⟨-, ⟨hnested, g, hg, rfl⟩, e, he, h⟩ := h
    exact ⟨hnested, g, hg, e, he, (Except.ok.inj h).symm⟩
  · intro h
    obtain ⟨hnested, g, hg, e, he, rfl⟩ := h
    exact ⟨_, ⟨hnested, g, hg, rfl⟩, e, he, rfl⟩

/-- A child element is taken in exactly if it fits behind the nodes before and
what is inside it is taken in on its own. -/
theorem takeNode_elem_eq_ok_iff {dialect : Dialect} {parent : String} {before : List Node}
    {n : String} {inner : List Node} {inside : Prop}
    (hinside : ∀ d : Declared S ω, takeAll dialect n n inner = .ok d ↔
      inside ∧ d = stateOf dialect.separator n inner) :
    takeNode dialect parent (stateOf dialect.separator name before) (.elem n inner) = .ok d ↔
      (Fits dialect.nestedGroups before (.elem n inner) ∧ inside) ∧
        d = stateOf dialect.separator name (before ++ [.elem n inner]) := by
  have hdeclares : isOption (.elem n inner) = false := rfl
  -- the group is put in without entries and replaced when they are known
  have hreplace : (Group.ofEntries name (declaredEntries dialect.separator before ++
      [(Group.empty n : Group S ω).toEntry])).replaceLast
        (Group.ofEntries n (declaredEntries dialect.separator inner)).toEntry =
      Group.ofEntries name (declaredEntries dialect.separator (before ++ [.elem n inner])) := by
    rw [declaredEntries_append hdeclares, declaredEntries, declared?]
    exact Group.replaceLast_ofEntries_concat rfl
  have hclosed : followsChoice (before ++ [.elem n inner]) = false := by
    rw [followsChoice_concat, hdeclares]
    rfl
  have hkeys := map_key_declaredEntries (S := S) dialect.separator before
  rw [takeNode_elem_eq_ok_iff_insert, Fits, stateOf, stateOf, hclosed, ← hkeys]
  constructor
  · intro h
    obtain ⟨hnested, g, hg, d', hd', rfl⟩ := h
    obtain ⟨hname, hkey, rfl⟩ := Group.insert_ofEntries_eq_ok_iff.1 hg
    obtain ⟨hinner, rfl⟩ := (hinside d').1 hd'
    refine ⟨⟨⟨hname, hnested, hkey⟩, hinner⟩, ?_⟩
    rw [← hreplace]
    rfl
  · intro h
    obtain ⟨⟨⟨hname, hnested, hkey⟩, hinner⟩, rfl⟩ := h
    have hinsert : (Group.ofEntries name (declaredEntries dialect.separator before)).insert
        (Group.empty n : Group S ω).toEntry = .ok _ :=
      Group.insert_ofEntries_eq_ok_iff.2 ⟨hname, hkey, rfl⟩
    have hinner := (hinside _).2 ⟨hinner, rfl⟩
    rw [← hreplace]
    exact ⟨hnested, _, hinsert, _, hinner, rfl⟩

/-- A node is taken in exactly if it fits behind the nodes before and, for an
element, what is inside is taken in on its own. -/
theorem takeNode_eq_ok_iff {dialect : Dialect} {parent : String} {before : List Node} {x : Node}
    {inside : List Node → Prop}
    (hinside : ∀ n inner, x = .elem n inner → ∀ d : Declared S ω,
      takeAll dialect n n inner = .ok d ↔ inside inner ∧ d = stateOf dialect.separator n inner) :
    takeNode dialect parent (stateOf dialect.separator name before) x = .ok d ↔
      (Fits dialect.nestedGroups before x ∧ ∀ n inner, x = .elem n inner → inside inner) ∧
        d = stateOf dialect.separator name (before ++ [x]) := by
  cases x with
  | attr a =>
      have hnothing : ∀ n inner, Node.attr a = .elem n inner → inside inner := nofun
      rw [and_iff_left hnothing, takeNode_attr_eq_ok_iff]
  | elem n inner =>
      have hinner : (∀ n' inner', Node.elem n inner = .elem n' inner' → inside inner') ↔
          inside inner :=
        ⟨fun h => h n inner rfl, fun h n' inner' heq => (Node.elem.inj heq).2 ▸ h⟩
      rw [hinner, takeNode_elem_eq_ok_iff (hinside n inner rfl)]

theorem takeNodes_concat (dialect : Dialect) (parent : String) (d : Declared S ω)
    (nodes : List Node) (x : Node) :
    takeNodes dialect parent d (nodes ++ [x]) =
      takeNodes dialect parent d nodes >>= fun d => takeNode dialect parent d x := by
  induction nodes generalizing d with
  | nil =>
      rw [List.nil_append, takeNodes, takeNodes, ok_bind]
      cases takeNode dialect parent d x with
      | error e => rfl
      | ok d => rw [ok_bind, takeNodes]
  | cons y nodes ih =>
      rw [List.cons_append, takeNodes, takeNodes, bind_assoc]
      congr 1
      funext d
      exact ih d

theorem wellDeclared_nil (nestedGroups : Bool) : WellDeclared nestedGroups [] :=
  ⟨by simp, by simp, by simp, List.nodup_nil⟩

/-- The nodes of an element are taken in exactly if they are well-declared and
what is inside them is taken in as well. -/
theorem takeAll_eq_ok_iff_of_inside {dialect : Dialect} {parent : String} {nodes : List Node}
    {inside : List Node → Prop}
    (hinside : ∀ n inner, .elem n inner ∈ nodes → ∀ d : Declared S ω,
      takeAll dialect n n inner = .ok d ↔ inside inner ∧ d = stateOf dialect.separator n inner) :
    takeAll dialect parent name nodes = .ok d ↔
      (WellDeclared dialect.nestedGroups nodes ∧
        ∀ n inner, .elem n inner ∈ nodes → inside inner) ∧
      d = stateOf dialect.separator name nodes := by
  -- the state after the nodes before says all that the last node is judged by
  induction nodes using List.reverseRecOn generalizing d with
  | nil =>
      rw [and_iff_right ⟨wellDeclared_nil _, by simp⟩, takeAll, takeNodes]
      exact ⟨fun h => (Except.ok.inj h).symm, fun h => h ▸ rfl⟩
  | append_singleton before x ih =>
      have hbefore := fun d => @ih d fun n inner hmem =>
        hinside n inner (List.mem_append_left _ hmem)
      have hx : ∀ d,
          takeNode dialect parent (stateOf dialect.separator name before) x = .ok d ↔ _ :=
        fun d => takeNode_eq_ok_iff fun n inner heq =>
          hinside n inner (heq ▸ List.mem_append_right _ List.mem_cons_self)
      rw [takeAll, takeNodes_concat, bind_eq_ok, wellDeclared_concat]
      simp only [hbefore]
      constructor
      · intro h
        obtain ⟨d', ⟨⟨hwell, hinner⟩, rfl⟩, h⟩ := h
        obtain ⟨⟨hfits, hlast⟩, rfl⟩ := (hx d).1 h
        refine ⟨⟨⟨hwell, hfits⟩, ?_⟩, rfl⟩
        intro n inner hmem
        rcases List.mem_append.1 hmem with hmem | hmem
        · exact hinner n inner hmem
        · exact hlast n inner (List.mem_singleton.1 hmem).symm
      · intro h
        obtain ⟨⟨⟨hwell, hfits⟩, hinner⟩, rfl⟩ := h
        refine ⟨_, ⟨⟨hwell, fun n inner hmem => hinner n inner (List.mem_append_left _ hmem)⟩,
          rfl⟩, (hx _).2 ⟨⟨hfits, ?_⟩, rfl⟩⟩
        intro n inner heq
        exact hinner n inner (heq ▸ List.mem_append_right _ List.mem_cons_self)

/-- The nodes of an element are taken in exactly if they are well-declared at
every depth. -/
theorem takeAll_eq_ok_iff {dialect : Dialect} {parent : String} {nodes : List Node} :
    takeAll dialect parent name nodes = .ok d ↔
      (∀ found, Within nodes found → WellDeclared dialect.nestedGroups found) ∧
        d = stateOf dialect.separator name nodes := by
  induction h : sizeOf nodes using Nat.strongRecOn generalizing parent name nodes d with
  | _ size ih =>
      have hinside : ∀ n inner, .elem n inner ∈ nodes → ∀ d : Declared S ω,
          takeAll dialect n n inner = .ok d ↔ _ := fun n inner hmem d =>
        ih (sizeOf inner) (h ▸ Node.sizeOf_lt_of_mem hmem) rfl
      rw [takeAll_eq_ok_iff_of_inside hinside, forall_within_iff]

/-- **The items are those that the document declares**: an element is read as
a store exactly if its name is `Items`, its nodes and those of every element
inside it are well-declared, and the store holds what they declare. -/
theorem ofElement_eq_ok_iff_wellDeclared (dialect : Dialect) (root : Element) (items : Items S ω) :
    ofElement dialect root = .ok items ↔
      root.name = "Items" ∧
        (∀ nodes, Within root.nodes nodes → WellDeclared dialect.nestedGroups nodes) ∧
        items = ⟨Group.ofEntries "Items" (declaredEntries dialect.separator root.nodes)⟩ := by
  rw [ofElement, demand_bind_eq_ok, liftDocument, mapError_eq_ok, Element.requireName_eq_ok,
    bind_eq_ok]
  refine and_congr_right fun _ => ?_
  constructor
  · intro h
    obtain ⟨d, hd, h⟩ := h
    obtain ⟨hwell, rfl⟩ := takeAll_eq_ok_iff.1 hd
    exact ⟨hwell, (Except.ok.inj h).symm⟩
  · intro h
    obtain ⟨hwell, rfl⟩ := h
    exact ⟨_, takeAll_eq_ok_iff.2 ⟨hwell, rfl⟩, rfl⟩

/-- A text with a title, a choice whose title is null and that has two options,
one of them with a title, and a group. -/
def titledRoot : Element :=
  ⟨"Items", [.attr ⟨"Name", [some "String", some "Your name"]⟩,
    .attr ⟨"Mode", [some "Enum", none]⟩, .attr ⟨"*", [some "List", some "As a list"]⟩,
    .attr ⟨"*", [some "Grid"]⟩, .elem "File" [.attr ⟨"Open", [some "Command"]⟩]]⟩

/-- The second values are the titles, and a null one is none. -/
theorem ofElement_eq_ok_iff_wellDeclared_titled :
    ∃ items : Items (Arena Unit) Unit, ofElement .standard titledRoot = .ok items ∧
      (∀ nodes, Within titledRoot.nodes nodes → WellDeclared true nodes) ∧
      items = ⟨Group.ofEntries "Items" [
        .item ⟨⟨"Name", some "Your name", none⟩, .text (.ofValue "")⟩,
        .item ⟨⟨"Mode", none, none⟩, .choice (.ofValue 0)
          [⟨"Mode:List", some "As a list", none⟩, ⟨"Mode:Grid", none, none⟩]⟩,
        (Group.ofEntries "File" [.item ⟨⟨"Open", none, none⟩, .command none⟩]).toEntry]⟩ := by
  obtain ⟨items, hread⟩ : ∃ items : Items (Arena Unit) Unit,
      ofElement .standard titledRoot = .ok items := ⟨_, rfl⟩
  obtain ⟨-, hwell, hitems⟩ := (ofElement_eq_ok_iff_wellDeclared .standard titledRoot items).1 hread
  exact ⟨items, hread, hwell, hitems.trans rfl⟩

end UiMarkup.Items
