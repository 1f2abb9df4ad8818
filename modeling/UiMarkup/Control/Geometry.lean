import UiMarkup.Number.Binary64

/-!
# UiMarkup.Control.Geometry

The measures of a layout: margins, orientations, and the cells that a child of
a grid takes up.  Cells are counted in 32-bit words.
-/

namespace UiMarkup

open Number (Binary64)

/-! ## margins -/

/-- The space around a control, side by side. -/
structure Margin where
  left : Binary64
  top : Binary64
  right : Binary64
  bottom : Binary64
  deriving DecidableEq

namespace Margin

/-- The same space on all sides. -/
def uniform (x : Binary64) : Margin := ⟨x, x, x, x⟩

/-- The space to the left and to the right together. -/
def horizontal (t : Margin) : Binary64 :=
  t.left.add t.right

/-- The space above and below together. -/
def vertical (t : Margin) : Binary64 :=
  t.top.add t.bottom

/-- Equality side by side, as numbers. -/
def same (t u : Margin) : Bool :=
  t.left.sameNumber u.left && t.top.sameNumber u.top && t.right.sameNumber u.right &&
    t.bottom.sameNumber u.bottom

/-- Whether all sides are finite. -/
def isFinite (t : Margin) : Bool :=
  t.left.isFinite && t.top.isFinite && t.right.isFinite && t.bottom.isFinite

end Margin

/-! ## orientations -/

/-- The direction in which a linear layout arranges its children. -/
inductive Orientation where
  | horizontal
  | vertical
  deriving DecidableEq, Inhabited

namespace Orientation

/-- The name of an orientation. -/
def name : Orientation → String
  | .horizontal => "Horizontal"
  | .vertical => "Vertical"

/-- The names of the orientations, in order. -/
def names : List String := [name .horizontal, name .vertical]

/-- The orientation in a place of that order. -/
def ofIndex? : Nat → Option Orientation
  | 0 => some .horizontal
  | 1 => some .vertical
  | _ => none

end Orientation

/-! ## cells -/

/-- Some columns or rows in a row: the first of them, and their number. -/
structure Span where
  index : UInt32
  span : UInt32
  deriving DecidableEq, Inhabited

namespace Span

/-- One cell. -/
def cell (index : UInt32) : Span := ⟨index, 1⟩

/-- The largest number of cells. -/
def limit : UInt32 := 0xFFFFFFFF

/-- The cell behind the last one, if that is not beyond the limit. -/
def stop? (s : Span) : Option UInt32 :=
  if s.index.toNat + s.span.toNat < UInt32.size then some (s.index + s.span) else none

/-- The cell behind the last one, or the limit if that is beyond it. -/
def stop (s : Span) : UInt32 :=
  s.stop?.getD limit

/-- The cell behind the last one is the sum, cut off at the limit. -/
theorem toNat_stop (s : Span) : s.stop.toNat = min (s.index.toNat + s.span.toNat) limit.toNat := by
  have hlimit : limit.toNat = UInt32.size - 1 := rfl
  unfold stop stop?
  split
  next h =>
    rw [Option.getD_some, UInt32.toNat_add, Nat.mod_eq_of_lt h, hlimit]
    omega
  next h =>
    rw [Option.getD_none, hlimit]
    omega

/-- The number of cells needed for some spans: the greatest cell behind one. -/
def extent (spans : List Span) : UInt32 :=
  spans.foldl (fun most s => if most < s.stop then s.stop else most) 0

end Span

end UiMarkup
