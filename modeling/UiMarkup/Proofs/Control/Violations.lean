import UiMarkup.Proofs.Control.Acceptance
import UiMarkup.Proofs.Control.Roles
import UiMarkup.Proofs.Document.Refusals

/-!
# UiMarkup.Proofs.Control.Violations

Every error of the reader of controls is really in the document: it names a
fault that an element of the document shows in its role.  The reader is
followed from the values through the parts of a control to the controls
inside, and every step fails only by faults of what it looks at:

* `failsOnlyBy_onlyText`, `failsOnlyBy_readSpan` and the like: the faults of an
  attribute;
* `failsOnlyBy_attributeNames`, `failsOnlyBy_readOptional` and the like: the
  faults of an element;
* `failsOnlyBy_readKind`: the faults of a control, if those of the controls
  inside are known;
* `violates_of_ofElement`: the whole tree.
-/

namespace UiMarkup.Control

open Document (Expected)

variable {α : Type}

/-! ## attributes -/

section Values

variable {a : Attribute} {form : Form}

/-- Null is never what was expected, so it is at fault as a text. -/
theorem misses_null {index : Nat} (htext : .text ∈ form.expected index)
    (hvalue : a.values[index]? = some none) :
    Misses form a (.invalidValue a.name index .text none) := by
  refine .invalidValue htext hvalue fun hfits => ?_
  obtain ⟨s, hs⟩ := hfits
  rw [hvalue] at hs
  cases hs

/-- A value is read from an attribute of a form with the faults of that form, if
the reader takes every text that was expected. -/
theorem failsOnlyBy_readAt {index : UInt64} {expected : Expected} {read? : String → Option α}
    (hindex : index.toNat < a.values.length) (htext : .text ∈ form.expected index.toNat)
    (hexpected : expected ∈ form.expected index.toNat)
    (hread : ∀ s, a.values[index.toNat]? = some (some s) → a.FitsAt index.toNat expected →
      ∃ x, read? s = some x) :
    FailsOnlyBy (Misses form a) (a.readAt index expected read?) := by
  refine Attribute.failsOnlyBy_readAt hindex (misses_null htext) fun s hvalue hunread => ?_
  refine .invalidValue hexpected hvalue fun hfits => ?_
  obtain ⟨x, hx⟩ := hread s hvalue hfits
  rw [hunread] at hx
  cases hx

/-- The only value is read with the faults of a form that has one value. -/
theorem failsOnlyBy_only {read : Except Document.Error α} (hmost : form.most = 1)
    (hread : a.values.length = 1 → FailsOnlyBy (Misses form a) read) :
    FailsOnlyBy (Misses form a) (do a.requireCount 1; read) := by
  have hcount : FailsOnlyBy (Misses form a) (a.requireCount 1) := by
    refine Attribute.failsOnlyBy_requireCount fun hcount => ?_
    have hfault : Misses form a (.valueCount a.name 1 form.most a.values.length) :=
      .valueCount (by omega)
    rwa [hmost] at hfault
  exact hcount.bind fun _ h => hread ((Attribute.requireCount_eq_ok a 1).1 h)

theorem failsOnlyBy_onlyText : FailsOnlyBy (Misses .text a) a.onlyText :=
  failsOnlyBy_only rfl fun hone =>
    Attribute.failsOnlyBy_textAt (by simp [hone]) (misses_null (by decide))

theorem failsOnlyBy_onlyFloat : FailsOnlyBy (Misses .float a) a.onlyFloat :=
  failsOnlyBy_only rfl fun hone => failsOnlyBy_readAt (by simp [hone]) (by decide) (by decide)
    fun _ hvalue hfits => (Attribute.textAt_iff hvalue).1 hfits

theorem failsOnlyBy_onlyFlag : FailsOnlyBy (Misses .flag a) a.onlyFlag :=
  failsOnlyBy_only rfl fun hone => failsOnlyBy_readAt (by simp [hone]) (by decide) (by decide)
    fun _ hvalue hfits => (Attribute.textAt_iff hvalue).1 hfits

theorem failsOnlyBy_onlyOrientation :
    FailsOnlyBy (Misses .orientation a) (a.onlyChoice Orientation.names) := by
  refine failsOnlyBy_only rfl fun hone => failsOnlyBy_readAt (by simp [hone]) (by decide)
    (by decide) fun s hvalue hfits => ?_
  obtain ⟨o, ho⟩ := (Attribute.textAt_iff hvalue).1 hfits
  cases o with
  | horizontal => exact ⟨0, findIdx?_names_eq_some_iff.2 ⟨.horizontal, rfl, ho⟩⟩
  | vertical => exact ⟨1, findIdx?_names_eq_some_iff.2 ⟨.vertical, rfl, ho⟩⟩

/-- A number of cells is read with the faults of cells, if what was expected is
such a number. -/
theorem failsOnlyBy_readCells {index : UInt64} {least : Nat} {expected : Expected}
    (hindex : index.toNat < a.values.length) (htext : .text ∈ form.expected index.toNat)
    (hinteger : .integer ∈ form.expected index.toNat)
    (hexpected : expected ∈ form.expected index.toNat)
    (hcells : a.FitsAt index.toNat expected → a.TextAt index.toNat fun s (n : UInt32) =>
      Number.readInteger? s = some (n.toNat : Int) ∧ least ≤ n.toNat) :
    FailsOnlyBy (Misses form a) (readCells a index least expected) := by
  have hfail : FailsOnlyBy (Misses form a) (a.integerAt index) :=
    failsOnlyBy_readAt hindex htext hinteger fun _ hvalue hfits =>
      (Attribute.textAt_iff hvalue).1 hfits
  refine hfail.bind fun n hn => ?_
  obtain ⟨s, hvalue, hs⟩ := Attribute.integerAt_eq_ok_iff.1 hn
  split
  next hrange =>
    rw [Attribute.invalid, hvalue, Option.join_some]
    refine failsOnlyBy_error (.invalidValue hexpected hvalue fun hfits => ?_)
    obtain ⟨m, hm, hleast⟩ := (Attribute.textAt_iff hvalue).1 (hcells hfits)
    have hnm : n = m.toNat := Option.some.inj (hs.symm.trans hm)
    have hlt := m.toNat_lt
    simp only [UInt32.size] at hrange
    omega
  next => exact failsOnlyBy_ok _

/-- The first cell was read from a text that spells it. -/
theorem exists_of_readCells_zero {index : UInt32}
    (h : readCells a 0 0 .nonNegative = .ok index) :
    ∃ s, a.values[0]? = some (some s) ∧ Number.readInteger? s = some (index.toNat : Int) := by
  have hfirst : ∃ s, a.values[0]? = some (some s) ∧
      Number.readInteger? s = some (index.toNat : Int) ∧ 0 ≤ index.toNat :=
    readCells_eq_ok_iff.1 h
  obtain ⟨s, hs, hread, -⟩ := hfirst
  exact ⟨s, hs, hread⟩

/-- One number that was read spells one cell. -/
theorem spellsSpan_of_one {index : UInt32} (hone : a.values.length = 1)
    (hindex : readCells a 0 0 .nonNegative = .ok index) : a.SpellsSpan ⟨index, 1⟩ := by
  obtain ⟨s, hs, hread⟩ := exists_of_readCells_zero hindex
  obtain ⟨v, hvalues⟩ := List.length_eq_one_iff.1 hone
  rw [hvalues] at hs
  obtain rfl := Option.some.inj hs
  exact .inl ⟨s, hvalues, hread, rfl⟩

/-- Two numbers that were read spell that many cells. -/
theorem spellsSpan_of_two {index span : UInt32} (htwo : a.values.length = 2)
    (hindex : readCells a 0 0 .nonNegative = .ok index)
    (hspan : readCells a 1 1 .positive = .ok span) : a.SpellsSpan ⟨index, span⟩ := by
  obtain ⟨s, hs, hreads⟩ := exists_of_readCells_zero hindex
  have hsecond : ∃ t, a.values[1]? = some (some t) ∧
      Number.readInteger? t = some (span.toNat : Int) ∧ 1 ≤ span.toNat :=
    readCells_eq_ok_iff.1 hspan
  obtain ⟨t, ht, hreadt, hleast⟩ := hsecond
  obtain ⟨v, w, hvalues⟩ := List.length_eq_two.1 htwo
  rw [hvalues] at hs ht
  obtain rfl := Option.some.inj hs
  obtain rfl := Option.some.inj ht
  exact .inr ⟨s, t, hvalues, hreads, hreadt, hleast⟩

/-- Cells are refused behind their spelling only if they reach beyond the
limit. -/
theorem failsOnlyBy_limit {s : Span} (hspells : a.SpellsSpan s) :
    FailsOnlyBy (Misses .cells a)
      (if s.stop?.isNone then .error (a.invalid 0 .indexBeforeSpan) else .ok s) := by
  have hfirst : ∃ index, a.values[0]? = some (some index) := by
    rcases hspells with ⟨index, hvalues, -⟩ | ⟨index, span, hvalues, -⟩
    · exact ⟨index, by rw [hvalues]; rfl⟩
    · exact ⟨index, by rw [hvalues]; rfl⟩
  obtain ⟨index, hvalue⟩ := hfirst
  split
  next hbeyond =>
    rw [Attribute.invalid, UInt64.toNat_zero, hvalue, Option.join_some]
    refine failsOnlyBy_error (.invalidValue (by decide) hvalue fun hfits => ?_)
    have hok := (ite_isNone_stop?_eq_ok_iff (e := a.invalid 0 .indexBeforeSpan)).2
      ⟨rfl, hfits s hspells⟩
    rw [if_pos hbeyond] at hok
    cases hok
  next => exact failsOnlyBy_ok s

theorem failsOnlyBy_readSpan : FailsOnlyBy (Misses .cells a) (readSpan a) := by
  have hbetween : FailsOnlyBy (Misses .cells a) (a.requireCountBetween 1 2) :=
    Attribute.failsOnlyBy_requireCountBetween fun hcount => .valueCount hcount
  refine hbetween.bind fun _ hcount => ?_
  obtain ⟨hleast, hmost⟩ := (Attribute.requireCountBetween_eq_ok a 1 2).1 hcount
  have hfirst : FailsOnlyBy (Misses .cells a) (readCells a 0 (0 : Nat) .nonNegative) :=
    failsOnlyBy_readCells hleast (by decide) (by decide) (by decide)
      fun hfits => by
        obtain ⟨s, n, hvalue, hn⟩ := hfits
        exact ⟨s, n, hvalue, hn, Nat.zero_le _⟩
  refine hfirst.bind fun index hindex => ?_
  by_cases htwo : a.values.length = 2
  · have hsecond : FailsOnlyBy (Misses .cells a) (readCells a 1 (1 : Nat) .positive) :=
      failsOnlyBy_readCells (by simp [htwo]) (by decide) (by decide) (by decide) id
    simp only [if_pos htwo]
    exact hsecond.bind fun span hspan => failsOnlyBy_limit (spellsSpan_of_two htwo hindex hspan)
  · simp only [if_neg htwo, ok_bind]
    exact failsOnlyBy_limit (spellsSpan_of_one (by omega) hindex)

end Values

/-! ## elements -/

section Elements

variable {role : Role} {e : Element} {allowed : List String}

theorem failsOnlyBy_attributeNames (hallowed : role.attributes.map (·.name) = allowed) :
    FailsOnlyBy (Shows role e) (e.requireAttributeNames allowed) := by
  refine Element.failsOnlyBy_requireAttributeNames fun a ha hname => ?_
  refine .unexpectedAttribute ha fun rule hrule heq => hname ?_
  rw [← hallowed, heq]
  exact List.mem_map_of_mem hrule

theorem failsOnlyBy_noAttributes (hrole : role.attributes = []) :
    FailsOnlyBy (Shows role e) e.requireNoAttributes :=
  Element.failsOnlyBy_requireNoAttributes (.attributesNotAllowed hrole)

theorem failsOnlyBy_elementNames {rules : List PartRule} (hcontents : role.contents = .parts rules)
    (hallowed : rules.map (·.name) = allowed) :
    FailsOnlyBy (Shows role e) (e.requireElementNames allowed) := by
  refine Element.failsOnlyBy_requireElementNames fun child hchild hname => ?_
  refine .unexpectedElement hcontents hchild fun rule hrule heq => hname ?_
  rw [← hallowed, heq]
  exact List.mem_map_of_mem hrule

theorem failsOnlyBy_noElements (hcontents : role.contents = .parts []) :
    FailsOnlyBy (Shows role e) e.requireNoElements :=
  Element.failsOnlyBy_requireNoElements (.elementsNotAllowed hcontents)

theorem failsOnlyBy_oneControl (hcontents : role.contents = .oneControl) :
    FailsOnlyBy (Shows role e) (e.requireElementCount 1) :=
  Element.failsOnlyBy_requireElementCount (.elementCount hcontents)

/-- The child element of a name that may stand once is looked up with the
faults of the role. -/
theorem failsOnlyBy_optionalElement {name : String} {rules : List PartRule} (part : Role)
    (hcontents : role.contents = .parts rules) (hrule : ⟨name, part, .atMostOnce⟩ ∈ rules) :
    FailsOnlyBy (Shows role e) (e.optionalElement name) :=
  Element.failsOnlyBy_atMostOne (.ambiguousElement hcontents hrule nofun)

/-- The attribute of a name that may stand once is read with the faults of the
role, if its reader has those of its form. -/
theorem failsOnlyBy_readOptional {name : String} {form : Form}
    {read : Attribute → Except Document.Error α}
    (hrule : ⟨name, form, .atMostOnce⟩ ∈ role.attributes)
    (hread : ∀ a, FailsOnlyBy (Misses form a) (read a)) :
    FailsOnlyBy (Shows role e) (readOptional e name read) := by
  have hfound : FailsOnlyBy (Shows role e) (e.optionalAttribute name) :=
    Element.failsOnlyBy_atMostOne (.ambiguousAttribute hrule nofun)
  refine hfound.bind fun found hfound => ?_
  cases found with
  | none => exact failsOnlyBy_ok none
  | some a =>
      have hnamed : e.attributes.filter (·.name = name) = [a] :=
        (Element.atMostOne_eq_some e name _ a).1 hfound
      have ha : a ∈ e.attributes.filter (·.name = name) := hnamed ▸ List.mem_cons_self
      have hvalue := (hread a).mono fun err herr => Shows.misses hrule ha herr
      exact hvalue.bind fun x _ => failsOnlyBy_ok (some x)

theorem failsOnlyBy_optionalText {name : String}
    (hrule : ⟨name, .text, .atMostOnce⟩ ∈ role.attributes) :
    FailsOnlyBy (Shows role e) (optionalText e name) :=
  failsOnlyBy_readOptional hrule fun _ => failsOnlyBy_onlyText

theorem failsOnlyBy_readSide {name : String}
    (hrule : ⟨name, .float, .atMostOnce⟩ ∈ role.attributes) :
    FailsOnlyBy (Shows role e) (readSide e name) :=
  .bind (failsOnlyBy_readOptional hrule fun _ => failsOnlyBy_onlyFloat) fun side _ =>
    failsOnlyBy_ok (side.getD .zero)

theorem failsOnlyBy_readOrientation
    (hrule : ⟨"Direction", .orientation, .atMostOnce⟩ ∈ role.attributes) :
    FailsOnlyBy (Shows role e) (readOrientation e) :=
  .bind (failsOnlyBy_readOptional hrule fun _ => failsOnlyBy_onlyOrientation) fun _ _ =>
    failsOnlyBy_ok _

/-- Cells that must be said are read with the faults of the role. -/
theorem failsOnlyBy_readRequired {name : String}
    (hrule : ⟨name, .cells, .once⟩ ∈ role.attributes) :
    FailsOnlyBy (Shows role e) (e.requiredAttribute name >>= readSpan) := by
  have hfound : FailsOnlyBy (Shows role e) (e.requiredAttribute name) :=
    Element.failsOnlyBy_requiredAttribute (.ambiguousAttribute hrule nofun)
      (.missingAttribute hrule rfl)
  refine hfound.bind fun a ha => ?_
  have hnamed := requiredAttribute_eq_ok_iff.1 ha
  have hmem : a ∈ e.attributes.filter (·.name = name) := hnamed ▸ List.mem_cons_self
  exact failsOnlyBy_readSpan.mono fun err herr => .misses hrule hmem herr

theorem failsOnlyBy_readPlacement (hcolumn : ⟨"Column", .cells, .once⟩ ∈ role.attributes)
    (hrow : ⟨"Row", .cells, .once⟩ ∈ role.attributes) :
    FailsOnlyBy (Shows role e) (readPlacement e) := by
  have hsteps : readPlacement e =
      (e.requiredAttribute "Column" >>= readSpan) >>= fun column =>
        (e.requiredAttribute "Row" >>= readSpan) >>= fun row => .ok (column, row) := by
    simp only [readPlacement, bind_assoc]
  rw [hsteps]
  exact .bind (failsOnlyBy_readRequired hcolumn) fun _ _ =>
    .bind (failsOnlyBy_readRequired hrow) fun _ _ => failsOnlyBy_ok _

end Elements

/-! ## parts without controls -/

section Parts

variable {root e : Element} {role : Role}

/-- What an element shows is shown in the document that it stands in. -/
theorem Stands.shownIn {x : Except Document.Error α} (hstands : Stands root role e)
    (hx : FailsOnlyBy (Shows role e) x) : FailsOnlyBy (ShownIn root) x :=
  hx.mono fun _ herr => ⟨role, e, hstands, herr⟩

theorem failsOnlyBy_readMargin {rules : List PartRule} (hstands : Stands root role e)
    (hcontents : role.contents = .parts rules) (hrule : ⟨"Margin", .margin, .atMostOnce⟩ ∈ rules) :
    FailsOnlyBy (ShownIn root) (readMargin e) := by
  refine .bind (hstands.shownIn (failsOnlyBy_optionalElement .margin hcontents hrule))
    fun found hfound => ?_
  cases found with
  | none => exact failsOnlyBy_ok none
  | some margin =>
      have hnamed : e.elements.filter (·.name = "Margin") = [margin] :=
        (Element.atMostOne_eq_some e "Margin" _ margin).1 hfound
      have hmem : margin ∈ e.elements.filter (·.name = "Margin") := hnamed ▸ List.mem_cons_self
      have hmargin : Stands root .margin margin := hstands.part hcontents hrule hmem
      refine hmargin.shownIn ?_
      refine .bind (failsOnlyBy_attributeNames rfl) fun _ _ => ?_
      refine .bind (failsOnlyBy_noElements rfl) fun _ _ => ?_
      refine .bind (failsOnlyBy_readSide (by decide)) fun _ _ => ?_
      refine .bind (failsOnlyBy_readSide (by decide)) fun _ _ => ?_
      refine .bind (failsOnlyBy_readSide (by decide)) fun _ _ => ?_
      refine .bind (failsOnlyBy_readSide (by decide)) fun _ _ => ?_
      exact failsOnlyBy_ok _

/-- The entries of a menu are read with the errors of the texts of those
attributes that declare one. -/
theorem failsOnlyBy_readEntries {p : Document.Error → Prop} {attrs : List Attribute}
    (h : ∀ a ∈ attrs, a.name ∈ ["Command", "CheckItem", "Enum"] → FailsOnlyBy p a.onlyText) :
    FailsOnlyBy p (readEntries attrs) := by
  induction attrs with
  | nil => exact failsOnlyBy_ok []
  | cons a more ih =>
      have hmore := ih fun b hb => h b (List.mem_cons_of_mem a hb)
      rw [readEntries]
      split
      next => exact hmore
      next entry hentry =>
        have hname : a.name ∈ ["Command", "CheckItem", "Enum"] := by
          by_contra hname
          simp only [List.mem_cons, List.not_mem_nil, or_false, not_or] at hname
          simp [hname] at hentry
        exact .bind (h a List.mem_cons_self hname) fun _ _ =>
          hmore.bind fun _ _ => failsOnlyBy_ok _

theorem failsOnlyBy_readMenu : FailsOnlyBy (Shows .menu e) (readMenu e) := by
  refine .bind (failsOnlyBy_attributeNames rfl) fun _ _ => ?_
  refine .bind (failsOnlyBy_noElements rfl) fun _ _ => ?_
  refine .bind (failsOnlyBy_optionalText (by decide)) fun _ _ => ?_
  have hentries : FailsOnlyBy (Shows .menu e) (readEntries e.attributes) := by
    refine failsOnlyBy_readEntries fun a ha hname => ?_
    have hrule : ⟨a.name, .text, .anyNumber⟩ ∈ Role.menu.attributes := by
      simp only [List.mem_cons, List.not_mem_nil, or_false] at hname
      rcases hname with hname | hname | hname <;> simp [hname, Role.attributes]
    have hnamed : a ∈ e.attributes.filter (·.name = a.name) := by simp [ha]
    exact failsOnlyBy_onlyText.mono fun err herr => .misses hrule hnamed herr
  exact hentries.bind fun _ _ => failsOnlyBy_ok _

end Parts

/-! ## controls -/

/-- The controls below an element, at any depth, are read with the errors that
say what is wrong with the document. -/
def ViolatesBelow (root e : Element) : Prop :=
  ∀ child, sizeOf child.nodes < sizeOf e.nodes → InControlPlace root child →
    FailsOnlyBy (Violates root) (ofElement child)

variable {root e : Element}

theorem ViolatesBelow.child {child : Element} (h : ViolatesBelow root e)
    (hchild : child ∈ e.elements) : ViolatesBelow root child := fun x hx =>
  h x (Nat.lt_trans hx (Element.sizeOf_nodes_lt hchild))

theorem failsOnlyBy_liftDocument {x : Except Document.Error α}
    (hx : FailsOnlyBy (ShownIn root) x) : FailsOnlyBy (Violates root) (liftDocument x) :=
  hx.mapError fun _ => .document

/-- What an element shows is wrong with the document that it stands in. -/
theorem Stands.violates {role : Role} {x : Except Document.Error α} (hstands : Stands root role e)
    (hx : FailsOnlyBy (Shows role e) x) : FailsOnlyBy (Violates root) (liftDocument x) :=
  failsOnlyBy_liftDocument (hstands.shownIn hx)

theorem failsOnlyBy_firstControl {role : Role} (hstands : Stands root role e)
    (hcontents : role.contents = .oneControl) (hbelow : ViolatesBelow root e) :
    FailsOnlyBy (Violates root) (firstControl e.name e.nodes) := by
  rw [firstControl_eq]
  cases helements : e.elements with
  | nil =>
      have hcount : e.elementCount = 0 := by rw [Element.elementCount, helements]; rfl
      have hshows : Shows role e (.elementCount e.name 1 e.elementCount) :=
        .elementCount hcontents (by omega)
      rw [hcount] at hshows
      exact failsOnlyBy_error (.document ⟨role, e, hstands, hshows⟩)
  | cons child more =>
      have hchild : child ∈ e.elements := helements ▸ List.mem_cons_self
      exact hbelow child (Element.sizeOf_nodes_lt hchild) (.inside hstands hcontents hchild)

theorem failsOnlyBy_readLinearChild (hstands : Stands root .linearSlot e)
    (hbelow : ViolatesBelow root e) : FailsOnlyBy (Violates root) (readLinearChild e) := by
  have hrequire : FailsOnlyBy (Shows .linearSlot e) (requireLinearChild e) :=
    .bind (failsOnlyBy_attributeNames rfl) fun _ _ => failsOnlyBy_oneControl rfl
  have hweight : FailsOnlyBy (Shows .linearSlot e) (readOptional e "Weight" Attribute.onlyFloat) :=
    failsOnlyBy_readOptional (by decide) fun _ => failsOnlyBy_onlyFloat
  refine .bind (hstands.violates hrequire) fun _ _ => ?_
  refine .bind (failsOnlyBy_firstControl hstands rfl hbelow) fun _ _ => ?_
  exact .bind (hstands.violates hweight) fun _ _ => failsOnlyBy_ok _

theorem failsOnlyBy_readGridChild (hstands : Stands root .gridSlot e)
    (hbelow : ViolatesBelow root e) : FailsOnlyBy (Violates root) (readGridChild e) := by
  have hrequire : FailsOnlyBy (Shows .gridSlot e) (requireGridChild e) :=
    .bind (failsOnlyBy_attributeNames rfl) fun _ _ => failsOnlyBy_oneControl rfl
  have hplacement : FailsOnlyBy (Shows .gridSlot e) (readPlacement e) :=
    failsOnlyBy_readPlacement (by decide) (by decide)
  refine .bind (hstands.violates hrequire) fun _ _ => ?_
  refine .bind (failsOnlyBy_firstControl hstands rfl hbelow) fun _ _ => ?_
  exact .bind (hstands.violates hplacement) fun _ _ => failsOnlyBy_ok _

theorem failsOnlyBy_readContent (hstands : Stands root .content e)
    (hbelow : ViolatesBelow root e) : FailsOnlyBy (Violates root) (readContent e) := by
  have hrequire : FailsOnlyBy (Shows .content e) (requireContent e) :=
    .bind (failsOnlyBy_noAttributes rfl) fun _ _ => failsOnlyBy_oneControl rfl
  exact .bind (hstands.violates hrequire) fun _ _ => failsOnlyBy_firstControl hstands rfl hbelow

theorem failsOnlyBy_contentOf (hstands : Stands root .tab e) (hbelow : ViolatesBelow root e) :
    FailsOnlyBy (Violates root) (contentOf e.nodes) := by
  rw [contentOf_eq]
  cases hslots : e.elements.filter (·.name = "Content") with
  | nil => exact failsOnlyBy_ok none
  | cons slot more =>
      have hslot : slot ∈ e.elements.filter (·.name = "Content") := hslots ▸ List.mem_cons_self
      have hcontent : Stands root .content slot :=
        hstands.part rfl (show ⟨"Content", .content, .atMostOnce⟩ ∈ _ by decide) hslot
      have hread := failsOnlyBy_readContent hcontent (hbelow.child (List.mem_of_mem_filter hslot))
      exact hread.bind fun c _ => failsOnlyBy_ok (some c)

theorem failsOnlyBy_discard {p : Document.Error → Prop} {x : Except Document.Error α}
    (hx : FailsOnlyBy p x) : FailsOnlyBy p (discard x : Except Document.Error Unit) := by
  cases x with
  | error err => exact failsOnlyBy_error (hx err rfl)
  | ok a => exact failsOnlyBy_ok ()

theorem failsOnlyBy_readTab (hstands : Stands root .tab e) (hbelow : ViolatesBelow root e) :
    FailsOnlyBy (Violates root) (readTab e) := by
  have hrequire : FailsOnlyBy (Shows .tab e) (requireTab e) := by
    refine .bind (failsOnlyBy_attributeNames rfl) fun _ _ => ?_
    refine .bind (failsOnlyBy_elementNames rfl rfl) fun _ _ => ?_
    exact failsOnlyBy_discard (failsOnlyBy_optionalElement .content rfl (by decide))
  refine .bind (hstands.violates hrequire) fun _ _ => ?_
  refine .bind (failsOnlyBy_contentOf hstands hbelow) fun _ _ => ?_
  exact .bind (hstands.violates (failsOnlyBy_optionalText (by decide))) fun _ _ => failsOnlyBy_ok _

/-! ## one layer -/

/-- The parts of a name are read with the errors that say what is wrong with
the document, if each of them is. -/
theorem failsOnlyBy_parts {name : String} {role part : Role} {rules : List PartRule}
    {read : Element → Except Error α} (hstands : Stands root role e)
    (hbelow : ViolatesBelow root e) (hcontents : role.contents = .parts rules)
    (hrule : ⟨name, part, .anyNumber⟩ ∈ rules)
    (hread : ∀ slot, Stands root part slot → ViolatesBelow root slot →
      FailsOnlyBy (Violates root) (read slot)) :
    FailsOnlyBy (Violates root) ((e.elements.filter (·.name = name)).mapM read) := by
  refine .mapM fun slot hslot => ?_
  exact hread slot (hstands.part hcontents hrule hslot)
    (hbelow.child (List.mem_of_mem_filter hslot))

theorem failsOnlyBy_readLinearLayout (hstands : Stands root (.control .linearLayout) e)
    (hbelow : ViolatesBelow root e) : FailsOnlyBy (Violates root) (readLinearLayout e) := by
  have hrequire : FailsOnlyBy (Shows (.control .linearLayout) e) (requireLinearLayout e) :=
    .bind (failsOnlyBy_attributeNames rfl) fun _ _ => failsOnlyBy_elementNames rfl rfl
  have hchildren : FailsOnlyBy (Violates root)
      ((e.elements.filter (·.name = "Child")).mapM readLinearChild) :=
    failsOnlyBy_parts hstands hbelow rfl (by decide) fun _ => failsOnlyBy_readLinearChild
  refine .bind (hstands.violates hrequire) fun _ _ => ?_
  refine .bind (hstands.violates (failsOnlyBy_readOrientation (by decide))) fun _ _ => ?_
  refine .bind hchildren fun _ _ => ?_
  refine .bind (failsOnlyBy_liftDocument (failsOnlyBy_readMargin hstands rfl (by decide)))
    fun _ _ => ?_
  exact failsOnlyBy_ok _

theorem failsOnlyBy_readGridLayout (hstands : Stands root (.control .gridLayout) e)
    (hbelow : ViolatesBelow root e) : FailsOnlyBy (Violates root) (readGridLayout e) := by
  have hrequire : FailsOnlyBy (Shows (.control .gridLayout) e) (requireGridLayout e) :=
    .bind (failsOnlyBy_noAttributes rfl) fun _ _ => failsOnlyBy_elementNames rfl rfl
  have hchildren : FailsOnlyBy (Violates root)
      ((e.elements.filter (·.name = "Child")).mapM readGridChild) :=
    failsOnlyBy_parts hstands hbelow rfl (by decide) fun _ => failsOnlyBy_readGridChild
  refine .bind (hstands.violates hrequire) fun _ _ => ?_
  exact .bind hchildren fun _ _ => failsOnlyBy_ok _

theorem failsOnlyBy_readTabControl (hstands : Stands root (.control .tabControl) e)
    (hbelow : ViolatesBelow root e) : FailsOnlyBy (Violates root) (readTabControl e) := by
  have hrequire : FailsOnlyBy (Shows (.control .tabControl) e) (requireTabControl e) :=
    .bind (failsOnlyBy_noAttributes rfl) fun _ _ => failsOnlyBy_elementNames rfl rfl
  have htabs : FailsOnlyBy (Violates root) ((e.elements.filter (·.name = "Tab")).mapM readTab) :=
    failsOnlyBy_parts hstands hbelow rfl (by decide) fun _ => failsOnlyBy_readTab
  refine .bind (hstands.violates hrequire) fun _ _ => ?_
  exact .bind htabs fun _ _ => failsOnlyBy_ok _

theorem failsOnlyBy_readMenuBar (hstands : Stands root (.control .menuBar) e) :
    FailsOnlyBy (ShownIn root) (readMenuBar e) := by
  have hmenus : FailsOnlyBy (ShownIn root)
      ((e.elements.filter (·.name = "DropDownMenu")).mapM readMenu) := by
    refine .mapM fun menu hmenu => ?_
    have hmenu : Stands root .menu menu :=
      hstands.part rfl (show ⟨"DropDownMenu", .menu, .anyNumber⟩ ∈ _ by decide) hmenu
    exact hmenu.shownIn failsOnlyBy_readMenu
  refine .bind (hstands.shownIn (failsOnlyBy_noAttributes rfl)) fun _ _ => ?_
  refine .bind (hstands.shownIn (failsOnlyBy_elementNames rfl rfl)) fun _ _ => ?_
  exact .bind hmenus fun _ _ => failsOnlyBy_ok _

theorem failsOnlyBy_readButton (hstands : Stands root (.control .button) e) :
    FailsOnlyBy (ShownIn root) (readButton e) := by
  refine .bind (hstands.shownIn (failsOnlyBy_attributeNames rfl)) fun _ _ => ?_
  refine .bind (hstands.shownIn (failsOnlyBy_elementNames rfl rfl)) fun _ _ => ?_
  refine .bind (hstands.shownIn (failsOnlyBy_optionalText (by decide))) fun _ _ => ?_
  exact .bind (failsOnlyBy_readMargin hstands rfl (by decide)) fun _ _ => failsOnlyBy_ok _

theorem failsOnlyBy_readCheckBox (hstands : Stands root (.control .checkBox) e) :
    FailsOnlyBy (ShownIn root) (readCheckBox e) := by
  refine .bind (hstands.shownIn (failsOnlyBy_noAttributes rfl)) fun _ _ => ?_
  refine .bind (hstands.shownIn (failsOnlyBy_elementNames rfl rfl)) fun _ _ => ?_
  exact .bind (failsOnlyBy_readMargin hstands rfl (by decide)) fun _ _ => failsOnlyBy_ok _

theorem failsOnlyBy_readTextBox : FailsOnlyBy (Shows (.control .textBox) e) (readTextBox e) := by
  have hmultiLine : FailsOnlyBy (Shows (.control .textBox) e)
      (readOptional e "MultiLine" Attribute.onlyFlag) :=
    failsOnlyBy_readOptional (by decide) fun _ => failsOnlyBy_onlyFlag
  refine .bind (failsOnlyBy_attributeNames rfl) fun _ _ => ?_
  refine .bind (failsOnlyBy_noElements rfl) fun _ _ => ?_
  refine .bind hmultiLine fun _ _ => ?_
  exact .bind (failsOnlyBy_optionalText (by decide)) fun _ _ => failsOnlyBy_ok _

theorem failsOnlyBy_readLabel : FailsOnlyBy (Shows (.control .label) e) (readLabel e) := by
  refine .bind (failsOnlyBy_noElements rfl) fun _ _ => ?_
  refine .bind (failsOnlyBy_attributeNames rfl) fun _ _ => ?_
  exact .bind (failsOnlyBy_optionalText (by decide)) fun _ _ => failsOnlyBy_ok _

theorem failsOnlyBy_readNothing : FailsOnlyBy (Shows (.control .nothing) e) (readNothing e) := by
  refine .bind (failsOnlyBy_noAttributes rfl) fun _ _ => ?_
  exact .bind (failsOnlyBy_noElements rfl) fun _ _ => failsOnlyBy_ok _

/-- A control of a kind is read with the errors that say what is wrong with the
document, if the controls below it are. -/
theorem failsOnlyBy_readKind {kind : ControlKind} (hstands : Stands root (.control kind) e)
    (hbelow : ViolatesBelow root e) : FailsOnlyBy (Violates root) (readKind kind e) := by
  cases kind with
  | linearLayout => exact failsOnlyBy_readLinearLayout hstands hbelow
  | gridLayout => exact failsOnlyBy_readGridLayout hstands hbelow
  | tabControl => exact failsOnlyBy_readTabControl hstands hbelow
  | menuBar => exact failsOnlyBy_liftDocument (failsOnlyBy_readMenuBar hstands)
  | button => exact failsOnlyBy_liftDocument (failsOnlyBy_readButton hstands)
  | checkBox => exact failsOnlyBy_liftDocument (failsOnlyBy_readCheckBox hstands)
  | textBox => exact hstands.violates failsOnlyBy_readTextBox
  | label => exact hstands.violates failsOnlyBy_readLabel
  | nothing => exact hstands.violates failsOnlyBy_readNothing

/-! ## the whole tree -/

/-- An element in the place of a control is read with the errors that say what
is wrong with the document. -/
theorem failsOnlyBy_ofElement (hplace : InControlPlace root e) :
    FailsOnlyBy (Violates root) (ofElement e) := by
  -- the controls inside are smaller, so their errors are known
  induction h : sizeOf e.nodes using Nat.strongRecOn generalizing e with
  | _ size ih =>
      have hbelow : ViolatesBelow root e := fun child hchild hinside =>
        ih (sizeOf child.nodes) (h ▸ hchild) hinside rfl
      rw [ofElement_eq]
      cases hkind : ControlKind.ofName? e.name with
      | none =>
          refine failsOnlyBy_error (.unsupportedElement hplace fun kind hname => ?_)
          rw [hname, ControlKind.ofName?_name] at hkind
          cases hkind
      | some kind =>
          have hname := (ControlKind.name_of_ofName? hkind).symm
          exact failsOnlyBy_readKind (.control hplace hname) hbelow

/-- No element shows that a text is malformed. -/
theorem not_shows_malformed {role : Role} {line : Nat} {fault : Document.Fault} :
    ¬ Shows role e (.malformed line fault) := by
  intro h
  cases h with
  | misses _ _ hmisses => cases hmisses

/-- **Every error of the reader is really in the document**: it is the name of
an element in the place of a control that has the name of no kind, or a fault
that an element of the document shows in its role.  It is never an error of a
text, of a change of a control, or of a platform. -/
theorem violates_of_ofElement {x : Error} (h : ofElement root = .error x) :
    Violates root x ∧ (∀ line fault, x ≠ .document (.malformed line fault)) ∧
      (∀ kind refusal, x ≠ .unsupportedMutation kind refusal) ∧
      ∀ message, x ≠ .rendering message := by
  have hviolates := failsOnlyBy_ofElement .root x h
  refine ⟨hviolates, ?_⟩
  cases hviolates with
  | unsupportedElement => exact ⟨nofun, nofun, nofun⟩
  | document hshown =>
      obtain ⟨role, e, -, hshows⟩ := hshown
      refine ⟨fun line fault heq => ?_, nofun, nofun⟩
      rw [Error.document.inj heq] at hshows
      exact not_shows_malformed hshows

/-- The element of a layout with a tab control, in a tab of which a grid has a
child that reaches beyond the last column that can be counted. -/
def overhangingElement : Element :=
  ⟨"LinearLayout", [
    .elem "Child" [
      .attr ⟨"Weight", [some "1"]⟩,
      .elem "TabControl" [
        .elem "Tab" [
          .elem "Content" [
            .elem "GridLayout" [
              .elem "Child" [
                .elem "Nothing" [],
                .attr ⟨"Row", [some "0"]⟩,
                .attr ⟨"Column", [some "4294967294", some "2"]⟩]]]]]],
    .elem "Margin" [.elem "Nothing" []]]⟩

/-- The fault of that child is the one that is reported, and the child shows
it. -/
theorem violates_of_ofElement_overhanging :
    ofElement overhangingElement =
        .error (.document (.invalidValue "Column" 0 .indexBeforeSpan (some "4294967294"))) ∧
      ShownIn overhangingElement
        (.invalidValue "Column" 0 .indexBeforeSpan (some "4294967294")) := by
  have hread : ofElement overhangingElement =
      .error (.document (.invalidValue "Column" 0 .indexBeforeSpan (some "4294967294"))) := rfl
  obtain ⟨hviolates, -⟩ := violates_of_ofElement hread
  cases hviolates with
  | document hshown => exact ⟨hread, hshown⟩

end UiMarkup.Control
