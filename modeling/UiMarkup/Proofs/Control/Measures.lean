import UiMarkup.Proofs.Control.Acceptance

/-!
# UiMarkup.Proofs.Control.Measures

The measures in a control: weights, margins, and the cells of grids.  A grid
made by a program may hold any spans, and its extent is cut off at the limit.
What is read from an element is exact instead, in every grid at any depth, and
all its numbers are finite:

* `Span.toNat_extent`: the extent of any spans;
* `Inside`: the controls inside a control;
* `measured_of_ofElement`: the measures in a control that was read.
-/

namespace UiMarkup

/-! ## cells -/

namespace Span

/-- The cell behind the last one, however far. -/
def past (s : Span) : Nat :=
  s.index.toNat + s.span.toNat

/-- Whether the cells of a span are these, among others. -/
def Covers (s : Span) (n : Nat) : Prop :=
  s.index.toNat ≤ n ∧ n < s.past

/-- The furthest cell behind one of some spans; zero if there are none. -/
def furthest (spans : List Span) : Nat :=
  (spans.map past).max?.getD 0

/-- A span that a grid counts exactly: it takes up a cell, and the cell behind
the last one is within the limit, so that it is neither missing nor cut off. -/
structure Exact (s : Span) : Prop where
  positive : 1 ≤ s.span.toNat
  within : s.past ≤ limit.toNat
  stop : s.stop? = some s.stop
  uncut : s.stop.toNat = s.past

/-- A span within the limit is not cut off. -/
theorem exact_of_past_le {s : Span} (hpositive : 1 ≤ s.span.toNat)
    (hwithin : s.past ≤ limit.toNat) : s.Exact := by
  have hlimit : limit.toNat < UInt32.size := by decide
  refine ⟨hpositive, hwithin, ?_, ?_⟩
  · have hlt : s.index.toNat + s.span.toNat < UInt32.size := Nat.lt_of_le_of_lt hwithin hlimit
    rw [Span.stop, stop?, if_pos hlt, Option.getD_some]
  · rw [toNat_stop]
    exact Nat.min_eq_left hwithin

/-- Taking in more spans, the extent stays the greatest cell behind one, cut
off at the limit. -/
theorem toNat_foldl_stop (spans : List Span) {most : UInt32} {n : Nat}
    (h : most.toNat = min n limit.toNat) :
    (spans.foldl (fun most s => if most < s.stop then s.stop else most) most).toNat =
      min ((spans.map past).foldl max n) limit.toNat := by
  induction spans generalizing most n with
  | nil => exact h
  | cons s spans ih =>
      refine ih ?_
      dsimp only
      have hstop : s.stop.toNat = min s.past limit.toNat := toNat_stop s
      split
      · next hlt =>
        have := UInt32.lt_iff_toNat_lt.1 hlt
        omega
      · next hlt =>
        have := mt UInt32.lt_iff_toNat_lt.2 hlt
        omega

/-- The extent of spans is the furthest cell behind one, cut off at the
limit. -/
theorem toNat_extent (spans : List Span) :
    (extent spans).toNat = min (furthest spans) limit.toNat := by
  have h := @toNat_foldl_stop spans 0 0 rfl
  rwa [List.foldl_max, Nat.zero_max] at h

/-- No span reaches further than the furthest. -/
theorem past_le_furthest {s : Span} {spans : List Span} (h : s ∈ spans) :
    s.past ≤ furthest spans :=
  List.le_max?_getD_of_mem (List.mem_map_of_mem h)

/-- Spans that are all within a bound do not reach further. -/
theorem furthest_le {spans : List Span} {n : Nat} (h : ∀ s ∈ spans, s.past ≤ n) :
    furthest spans ≤ n := by
  rw [furthest]
  cases hmax : (spans.map past).max? with
  | none => exact Nat.zero_le n
  | some most => exact (List.max?_le_iff hmax).2 (List.forall_mem_map.2 h)

/-- The extent of exact spans is not cut off. -/
theorem toNat_extent_of_exact {spans : List Span} (h : ∀ s ∈ spans, s.Exact) :
    (extent spans).toNat = furthest spans := by
  rw [toNat_extent, Nat.min_eq_left (furthest_le fun s hs => (h s hs).within)]

/-- The cells of exact spans are counted by their extent. -/
theorem lt_extent_of_covers {spans : List Span} (h : ∀ s ∈ spans, s.Exact) {s : Span}
    (hs : s ∈ spans) {n : Nat} (hn : s.Covers n) : n < (extent spans).toNat := by
  rw [toNat_extent_of_exact h]
  exact Nat.lt_of_lt_of_le hn.2 (past_le_furthest hs)

end Span

namespace Control

/-! ## grids and numbers -/

/-- A grid that is counted exactly: all spans are, the numbers of columns and
rows are the furthest cells behind one, and every cell of a child is a cell of
the grid. -/
structure ExactGrid (children : List (GridChild Control)) : Prop where
  spans : ∀ g ∈ children, g.column.Exact ∧ g.row.Exact
  columns : (columnCount children).toNat = Span.furthest (children.map (·.column))
  rows : (rowCount children).toNat = Span.furthest (children.map (·.row))
  cells : ∀ g ∈ children, ∀ x y, g.column.Covers x → g.row.Covers y →
    x < (columnCount children).toNat ∧ y < (rowCount children).toNat

/-- A grid of exact spans is counted exactly. -/
theorem exactGrid_of_spans {children : List (GridChild Control)}
    (h : ∀ g ∈ children, g.column.Exact ∧ g.row.Exact) : ExactGrid children := by
  have hcolumns : ∀ s ∈ children.map (·.column), s.Exact :=
    List.forall_mem_map.2 fun g hg => (h g hg).1
  have hrows : ∀ s ∈ children.map (·.row), s.Exact :=
    List.forall_mem_map.2 fun g hg => (h g hg).2
  refine ⟨h, Span.toNat_extent_of_exact hcolumns, Span.toNat_extent_of_exact hrows, ?_⟩
  intro g hg x y hx hy
  exact ⟨Span.lt_extent_of_covers hcolumns (List.mem_map_of_mem hg) hx,
    Span.lt_extent_of_covers hrows (List.mem_map_of_mem hg) hy⟩

/-- The measures of a control itself: a grid is counted exactly, and weights
and margins are finite. -/
structure Measured (c : Control) : Prop where
  grid : ∀ children, c = .gridLayout children → ExactGrid children
  weights : ∀ orientation children margin, c = .linearLayout orientation children margin →
    ∀ child ∈ children, ∀ w, child.weight = some w → w.isFinite = true
  margin : ∀ t, c.margin = some t → t.isFinite = true

/-! ## one layer of the schema -/

variable {inner : Element → Control → Prop} {e : Element} {c : Control}

/-- A side of a margin is finite. -/
theorem isFinite_of_orDefault {found : List Attribute} {x : Number.Binary64}
    (h : OrDefault Attribute.HasFloat .zero found x) : x.isFinite = true := by
  obtain ⟨side, hside, rfl⟩ := h
  cases hside with
  | none => exact Number.Binary64.isFinite_zero
  | one h =>
      obtain ⟨_, _, _, _, _, hfinite⟩ := h
      exact hfinite

/-- A margin that an element gives is finite. -/
theorem isFinite_of_describesMargin {slots : List Element} {t : Margin}
    (h : AtMostOne DescribesMargin slots (some t)) : t.isFinite = true := by
  obtain ⟨slot, -, h⟩ := exists_of_atMostOne h
  simp [Margin.isFinite, isFinite_of_orDefault h.left, isFinite_of_orDefault h.top,
    isFinite_of_orDefault h.right, isFinite_of_orDefault h.bottom]

/-- Cells that an attribute gives are exact. -/
theorem exact_of_hasSpan {found : List Attribute} {s : Span}
    (h : ExactlyOne Attribute.HasSpan found s) : s.Exact := by
  obtain ⟨a, -, hsaid, hwithin⟩ := exists_of_exactlyOne h
  refine Span.exact_of_past_le ?_ hwithin
  obtain ⟨_, _, _, hone⟩ | ⟨_, _, _, _, _, hpositive⟩ := hsaid
  · rw [hone]
    decide
  · exact hpositive

/-- Whatever the elements inside mean, the measures of a control itself are as
they should be. -/
theorem Layer.measured (h : Layer inner e c) : Measured c := by
  refine ⟨?_, ?_, ?_⟩
  · rintro children rfl
    cases h with
    | gridLayout _ _ _ hslots =>
        refine exactGrid_of_spans fun g hg => ?_
        obtain ⟨slot, -, ⟨_, hcolumn, hrow, _⟩⟩ := exists_of_forall₂ hslots hg
        exact ⟨exact_of_hasSpan hcolumn, exact_of_hasSpan hrow⟩
  · rintro orientation children margin rfl child hchild w hw
    cases h with
    | linearLayout _ _ _ _ hslots _ =>
        obtain ⟨slot, -, ⟨_, hweight, _⟩⟩ := exists_of_forall₂ hslots hchild
        rw [hw] at hweight
        obtain ⟨_, _, _, _, _, _, _, hfinite⟩ := exists_of_atMostOne hweight
        exact hfinite
  · intro t ht
    cases h with
    | linearLayout _ _ _ _ _ hmargin =>
        cases ht
        exact isFinite_of_describesMargin hmargin
    | button _ _ _ _ hmargin =>
        cases ht
        exact isFinite_of_describesMargin hmargin
    | checkBox _ _ _ hmargin =>
        cases ht
        exact isFinite_of_describesMargin hmargin
    | _ => cases ht

/-- The first control stands right inside the second one: in a slot of a linear
layout, in a cell of a grid, or as the content of a tab. -/
inductive ChildOf (x : Control) : Control → Prop
  | slot {orientation : Orientation} {children : List (LinearChild Control)}
      {margin : Option Margin} {child : LinearChild Control} (hchild : child ∈ children)
      (hx : child.control = x) : ChildOf x (.linearLayout orientation children margin)
  | cell {children : List (GridChild Control)} {child : GridChild Control}
      (hchild : child ∈ children) (hx : child.control = x) : ChildOf x (.gridLayout children)
  | content {tabs : List (Tab Control)} {tab : Tab Control} (htab : tab ∈ tabs)
      (hx : tab.content = some x) : ChildOf x (.tabControl tabs)

/-- Every control right inside is what some element inside means. -/
theorem Layer.exists_of_childOf (h : Layer inner e c) {x : Control} (hx : ChildOf x c) :
    ∃ child, inner child x := by
  cases hx with
  | slot hchild hx =>
      cases h with
      | linearLayout _ _ _ _ hslots _ =>
          obtain ⟨slot, -, ⟨_, _, hcontrol⟩⟩ := exists_of_forall₂ hslots hchild
          obtain ⟨inside, -, h⟩ := exists_of_exactlyOne hcontrol
          exact ⟨inside, hx ▸ h⟩
  | cell hchild hx =>
      cases h with
      | gridLayout _ _ _ hslots =>
          obtain ⟨slot, -, ⟨_, _, _, hcontrol⟩⟩ := exists_of_forall₂ hslots hchild
          obtain ⟨inside, -, h⟩ := exists_of_exactlyOne hcontrol
          exact ⟨inside, hx ▸ h⟩
  | content htab hx =>
      cases h with
      | tabControl _ _ _ hslots =>
          obtain ⟨slot, -, ⟨_, _, _, hshown⟩⟩ := exists_of_forall₂ hslots htab
          rw [hx] at hshown
          obtain ⟨content, -, ⟨_, hcontrol⟩⟩ := exists_of_atMostOne hshown
          obtain ⟨inside, -, h⟩ := exists_of_exactlyOne hcontrol
          exact ⟨inside, h⟩

/-! ## the whole tree -/

/-- The first control is the second one, or inside it at some depth. -/
inductive Inside (d : Control) : Control → Prop
  | self : Inside d d
  | child {c x : Control} (hx : ChildOf x c) (h : Inside d x) : Inside d c

/-- One layer of the reader, where the elements inside mean what is read from
them. -/
theorem layer_of_ofElement (h : ofElement e = .ok c) :
    Layer (fun child x => ofElement child = .ok x) e c :=
  (ofElement_eq_ok_iff_layer fun _ _ _ => Iff.rfl).1 h

/-- Every control inside one that was read was read from some element. -/
theorem exists_ofElement_of_inside {d : Control} (hd : Inside d c) (h : ofElement e = .ok c) :
    ∃ child, ofElement child = .ok d := by
  induction hd generalizing e with
  | self => exact ⟨e, h⟩
  | child hx _ ih =>
      obtain ⟨child, hchild⟩ := (layer_of_ofElement h).exists_of_childOf hx
      exact ih hchild

/-- **Measures are exact where they were read, and cut off elsewhere**: in a
control that was read from an element, every control at any depth has exact
spans, counts and finite numbers; in any other grid the numbers of columns and
rows are the furthest cells, or the limit if these are beyond it. -/
theorem measured_of_ofElement (h : ofElement e = .ok c) :
    (∀ d, Inside d c → Measured d) ∧
      ∀ children, (columnCount children).toNat =
          min (Span.furthest (children.map (·.column))) Span.limit.toNat ∧
        (rowCount children).toNat =
          min (Span.furthest (children.map (·.row))) Span.limit.toNat := by
  refine ⟨fun d hd => ?_, fun children => ⟨Span.toNat_extent _, Span.toNat_extent _⟩⟩
  obtain ⟨child, hchild⟩ := exists_ofElement_of_inside hd h
  exact (layer_of_ofElement hchild).measured

/-- The element of a layout in which a grid takes up all columns that can be
counted, and three rows. -/
def widestElement : Element :=
  ⟨"LinearLayout", [
    .elem "Child" [
      .attr ⟨"Weight", [some "2.5"]⟩,
      .elem "GridLayout" [
        .elem "Child" [
          .attr ⟨"Column", [some "4294967294"]⟩,
          .attr ⟨"Row", [some "0"]⟩,
          .elem "Nothing" []],
        .elem "Child" [
          .attr ⟨"Column", [some "7"]⟩,
          .attr ⟨"Row", [some "1", some "2"]⟩,
          .elem "Nothing" []]]],
    .elem "Margin" [.attr ⟨"Left", [some "-.5"]⟩]]⟩

/-- The children of that grid. -/
def widestGrid : List (GridChild Control) :=
  [⟨.nothing, ⟨4294967294, 1⟩, ⟨0, 1⟩⟩, ⟨.nothing, ⟨7, 1⟩, ⟨1, 2⟩⟩]

/-- The layout around it. -/
def widestLayout : Control :=
  .linearLayout .horizontal [⟨.gridLayout widestGrid, some ⟨0x4004000000000000⟩⟩]
    (some ⟨⟨0xBFE0000000000000⟩, .zero, .zero, .zero⟩)

set_option maxRecDepth 4000 in
/-- The layout is read from its element, and the measures in it are exact. -/
theorem measured_of_ofElement_widest :
    ofElement widestElement = .ok widestLayout ∧ Measured (.gridLayout widestGrid) ∧
      (columnCount widestGrid).toNat = Span.limit.toNat ∧ (rowCount widestGrid).toNat = 3 := by
  have hread : ofElement widestElement = .ok widestLayout := rfl
  have h := measured_of_ofElement hread
  exact ⟨hread, h.1 _ (.child (.slot List.mem_cons_self rfl) .self), (h.2 widestGrid).1,
    (h.2 widestGrid).2⟩

end Control

end UiMarkup
