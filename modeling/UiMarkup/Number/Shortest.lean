import UiMarkup.Number.Binary64

/-!
# UiMarkup.Number.Shortest

The text of a floating point number: the fewest decimal digits that read back
as the number, and of those the nearest.  A number is written in positional
notation with at least one digit behind the point from 1e-4 up to 1e16, and
with an exponent outside of that.
-/

namespace UiMarkup.Number.Binary64

/-! ## digits -/

/-- The digits of a positive number and the power of ten of the last one. -/
structure Digits where
  digits : Nat
  exponent : Int

/-- The numbers that round to a magnitude, in halves of 2^-1074: from halfway
to the number below up to halfway to the number above. -/
def halfwayBelow (magnitude : Nat) : Nat :=
  unitsOf (magnitude - 1) + unitsOf magnitude

/-- The upper end of the numbers that round to a magnitude. -/
def halfwayAbove (magnitude : Nat) : Nat :=
  unitsOf magnitude + unitsOf (magnitude + 1)

/-- Whether `num / den` halves of 2^-1074 round to a magnitude; both ends do
if the magnitude is even. -/
def roundsTo (magnitude num den : Nat) : Bool :=
  if magnitude % 2 = 0 then
    halfwayBelow magnitude * den ≤ num ∧ num ≤ halfwayAbove magnitude * den
  else
    halfwayBelow magnitude * den < num ∧ num < halfwayAbove magnitude * den

/-- The nearest multiple of the power of ten `num / den` (in halves of
2^-1074) that rounds to the magnitude, if one does; of two that are equally
near, the greater. -/
def multipleRoundingTo? (magnitude num den : Nat) : Option Nat :=
  let value := 2 * unitsOf magnitude * den
  let below := value / num
  let fitsBelow := roundsTo magnitude (below * num) den
  let fitsAbove := roundsTo magnitude ((below + 1) * num) den
  if fitsBelow && fitsAbove then
    some (if value - below * num < (below + 1) * num - value then below else below + 1)
  else if fitsBelow then some below
  else if fitsAbove then some (below + 1)
  else none

/-- Tries the powers of ten from `10 ^ (n - 324)` downwards.  The coarsest
grid that meets the numbers rounding to the magnitude needs the fewest
digits. -/
def digitsFrom (magnitude : Nat) : Nat → Digits
  | 0 => ⟨0, 0⟩
  | n + 1 =>
    let exponent : Int := n - 324
    match multipleRoundingTo? magnitude (Nat.pow 10 exponent.toNat <<< 1075)
        (Nat.pow 10 (-exponent).toNat) with
    | some digits => ⟨digits, exponent⟩
    | none => digitsFrom magnitude n

/-- The shortest digits of a positive finite number.  The coarsest grid tried
is that of 1e309, beyond every number, and the finest that of 1e-324, finer
than the spacing of the numbers. -/
def shortest (magnitude : Nat) : Digits :=
  digitsFrom magnitude 634

/-! ## text -/

/-- The digits in positional notation. -/
def Digits.positional (d : Digits) : String :=
  let text := Nat.toDigits 10 d.digits
  let places := (-d.exponent).toNat
  String.ofList <|
    if places = 0 then text ++ List.replicate d.exponent.toNat '0' ++ ['.', '0']
    else if places < text.length then
      text.take (text.length - places) ++ '.' :: text.drop (text.length - places)
    else '0' :: '.' :: List.replicate (places - text.length) '0' ++ text

/-- The power of ten of the first digit. -/
def Digits.leading (d : Digits) : Int :=
  d.exponent + (Nat.toDigits 10 d.digits).length - 1

/-- The digits with an exponent. -/
def Digits.scientific (d : Digits) : String :=
  let exponent := "e" ++ toString d.leading
  match Nat.toDigits 10 d.digits with
  | [] => exponent
  | [c] => String.singleton c ++ exponent
  | c :: rest => String.ofList (c :: '.' :: rest) ++ exponent

/-- The text of a number. -/
def text (x : Binary64) : String :=
  if x.isNaN then "NaN"
  else
    let sign := if x.isNegative then "-" else ""
    if !x.isFinite then sign ++ "inf"
    else if x.magnitude = 0 then sign ++ "0.0"
    else
      let d := shortest x.magnitude
      sign ++ if -4 ≤ d.leading ∧ d.leading < 16 then d.positional else d.scientific

end UiMarkup.Number.Binary64
