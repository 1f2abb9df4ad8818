/-!
# UiMarkup.Number.Binary64

Floating point numbers in the 64-bit binary format, by their bits.  A finite
number is a whole multiple of the least positive one (2^-1074), so rounding
and addition are exact arithmetic on such multiples:

* `ofRatio` rounds a quotient to the nearest number, a tie to the even one;
* `add` is the rounded exact sum;
* `isFinite_zero`: the number zero is finite.
-/

namespace UiMarkup.Number

/-- A number in the 64-bit binary format: sign, eleven bits of exponent and
fifty-two bits of fraction, from the top. -/
structure Binary64 where
  bits : UInt64
  deriving DecidableEq, Inhabited

namespace Binary64

/-! ## the parts of a number -/

/-- The bits without the sign. -/
def magnitude (x : Binary64) : Nat :=
  x.bits.toNat % (1 <<< 63)

/-- Whether the sign bit is set; zero has a sign too. -/
def isNegative (x : Binary64) : Bool :=
  1 <<< 63 ≤ x.bits.toNat

/-- The magnitude of infinity; those above it belong to no number. -/
def infinityMagnitude : Nat :=
  0x7FF <<< 52

/-- Neither infinite nor "not a number". -/
def isFinite (x : Binary64) : Bool :=
  x.magnitude < infinityMagnitude

/-- "Not a number". -/
def isNaN (x : Binary64) : Bool :=
  infinityMagnitude < x.magnitude

/-- A number from its sign and its magnitude. -/
def ofMagnitude (negative : Bool) (magnitude : Nat) : Binary64 :=
  ⟨UInt64.ofNat (magnitude + if negative then 1 <<< 63 else 0)⟩

/-- Positive zero. -/
def zero : Binary64 := ⟨0⟩

/-- The number zero is finite. -/
theorem isFinite_zero : zero.isFinite = true := by
  decide

/-- Equality of numbers: the two zeros are equal, and "not a number" differs
from everything. -/
def sameNumber (x y : Binary64) : Bool :=
  !x.isNaN && !y.isNaN && (x.bits == y.bits || (x.magnitude == 0 && y.magnitude == 0))

/-- A finite number equals itself. -/
theorem sameNumber_self {x : Binary64} (h : x.isFinite = true) : sameNumber x x = true := by
  simp only [isFinite, decide_eq_true_eq] at h
  simp [sameNumber, isNaN, Nat.not_lt.2 (Nat.le_of_lt h)]

/-- Equality of numbers is symmetric. -/
theorem sameNumber_comm (x y : Binary64) : sameNumber x y = sameNumber y x := by
  simp only [sameNumber, Bool.and_comm (!x.isNaN), Bool.and_comm (x.magnitude == 0),
    BEq.comm (a := x.bits)]

/-! ## finite numbers as multiples of the least positive number -/

/-- The multiple of 2^-1074 that a magnitude stands for: a magnitude with
exponent bits zero is the multiple itself, every other has one more bit in
front of its fraction and doubles with each exponent.  At the magnitude of
infinity this is the first number beyond the finite ones. -/
def unitsOf (magnitude : Nat) : Nat :=
  if magnitude < 1 <<< 52 then magnitude
  else (1 <<< 52 + magnitude % (1 <<< 52)) <<< (magnitude >>> 52 - 1)

/-- The multiple of 2^-1074 that a finite number is. -/
def units (x : Binary64) : Int :=
  if x.isNegative then -(unitsOf x.magnitude : Int) else unitsOf x.magnitude

/-- The whole number nearest to `a / b`, the even one of two. -/
def divideToEven (a b : Nat) : Nat :=
  if 2 * (a % b) < b ∨ (2 * (a % b) = b ∧ a / b % 2 = 0) then a / b else a / b + 1

/-- The magnitude nearest to `num / den` multiples of 2^-1074, with a tie to
the even one and what is too large to infinity. -/
def magnitudeOfRatio (num den : Nat) : Nat :=
  let shift := Nat.log2 (num / den) - 52
  min (shift <<< 52 + divideToEven num (den <<< shift)) infinityMagnitude

/-- The number nearest to `num / den`, negated if `negative`. -/
def ofRatio (negative : Bool) (num den : Nat) : Binary64 :=
  ofMagnitude negative (magnitudeOfRatio (num <<< 1074) den)

/-! ## addition -/

/-- "Not a number" as arithmetic hands it on: with the quiet bit set. -/
def quiet (x : Binary64) : Binary64 :=
  ⟨x.bits ||| 0x8000000000000⟩

/-- What the difference of two infinities gives. -/
def invalid : Binary64 := ⟨0xFFF8000000000000⟩

/-- The sum, exact and then rounded.  "Not a number" is handed on from the
first operand that is one; the sum of two finite numbers that cancel is the
positive zero, unless both are the negative zero. -/
def add (x y : Binary64) : Binary64 :=
  if x.isNaN then x.quiet
  else if y.isNaN then y.quiet
  else if !x.isFinite then
    if !y.isFinite && x.isNegative != y.isNegative then invalid else x
  else if !y.isFinite then y
  else
    let sum := x.units + y.units
    let negative := if sum = 0 then x.isNegative && y.isNegative else decide (sum < 0)
    ofMagnitude negative (magnitudeOfRatio sum.natAbs 1)

end Binary64

end UiMarkup.Number
