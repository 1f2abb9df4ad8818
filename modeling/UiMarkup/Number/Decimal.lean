import UiMarkup.Number.Binary64
import UiMarkup.Number.Integer

/-!
# UiMarkup.Number.Decimal

Decimal numbers as attribute values spell them, and the 64-bit number nearest
to one.  A spelling is an optional sign, digits with at most one point
anywhere among them (at least one digit in all), and an optional exponent.
-/

namespace UiMarkup.Number

/-- A decimal number: `mantissa * 10 ^ exponent`, negated if `negative`. -/
structure Decimal where
  negative : Bool
  mantissa : Nat
  exponent : Int
  deriving DecidableEq

namespace Decimal

/-! ## reading -/

/-- From this size on an exponent takes no further digits: no number is that
large or that small. -/
def exponentLimit : Nat := 0x10000

/-- The number that the digits of an exponent spell. -/
def exponentOfDigits (cs : List Char) : Nat :=
  cs.foldl (fun n c => if n < exponentLimit then 10 * n + (c.toNat - '0'.toNat) else n) 0

/-- Reads what follows the digits: nothing, or the mark of an exponent, an
optional sign and at least one digit. -/
def readExponent? : List Char → Option Int
  | [] => some 0
  | c :: rest =>
    if c = 'e' ∨ c = 'E' then
      let (negative, digits) := readSign rest
      if digits ≠ [] ∧ digits.all Char.isDigit then
        some (if negative then -exponentOfDigits digits else exponentOfDigits digits)
      else none
    else none

/-- The digits behind a point, if a point follows, and the rest. -/
def splitFraction : List Char → List Char × List Char
  | '.' :: rest => (rest.takeWhile Char.isDigit, rest.dropWhile Char.isDigit)
  | rest => ([], rest)

/-- Reads the spelling of a decimal number. -/
def read? (s : String) : Option Decimal := do
  let (negative, body) := readSign s.toList
  let whole := body.takeWhile Char.isDigit
  let (fraction, rest) := splitFraction (body.dropWhile Char.isDigit)
  if whole = [] ∧ fraction = [] then none
  let exponent ← readExponent? rest
  some ⟨negative, natOfDigits (whole ++ fraction), exponent - fraction.length⟩

/-! ## rounding to binary -/

/-- The 64-bit number nearest to a decimal number.  The first rows settle the
numbers far beyond the range of the format without raising ten to their
exponent: `mantissa < 2 ^ (log2 mantissa + 1) ≤ 10 ^ (log2 mantissa + 1)`. -/
def toBinary64 (d : Decimal) : Binary64 :=
  if d.mantissa = 0 then .ofMagnitude d.negative 0
  else if 400 < d.exponent then .ofMagnitude d.negative Binary64.infinityMagnitude
  else if d.exponent + Nat.log2 d.mantissa < -400 then .ofMagnitude d.negative 0
  else .ofRatio d.negative (d.mantissa * Nat.pow 10 d.exponent.toNat)
    (Nat.pow 10 (-d.exponent).toNat)

end Decimal

/-- Reads a finite floating point number: the spelling of a decimal number
that does not round to infinity. -/
def readFloat? (s : String) : Option Binary64 := do
  let d ← Decimal.read? s
  if d.toBinary64.isFinite then some d.toBinary64 else none

/-- A floating point number that is read is finite. -/
theorem readFloat?_isFinite {s : String} {x : Binary64} (h : readFloat? s = some x) :
    x.isFinite = true := by
  cases hd : Decimal.read? s with
  | none => simp [readFloat?, hd] at h
  | some d =>
    simp only [readFloat?, hd, Option.bind_eq_bind, Option.bind_some] at h
    split at h
    next hf => simpa [← Option.some.inj h] using hf
    next => simp at h

end UiMarkup.Number
