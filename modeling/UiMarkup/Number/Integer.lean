/-!
# UiMarkup.Number.Integer

Whole numbers as attribute values spell them: an optional sign and at least
one decimal digit, within the range of a signed 64-bit word.
-/

namespace UiMarkup.Number

/-- The number that decimal digits spell, most significant digit first. -/
def natOfDigits (cs : List Char) : Nat :=
  cs.foldl (fun n c => 10 * n + (c.toNat - '0'.toNat)) 0

/-- Reads a non-empty run of decimal digits and nothing else. -/
def readNat? (cs : List Char) : Option Nat :=
  if cs ≠ [] ∧ cs.all Char.isDigit then some (natOfDigits cs) else none

/-- Reads an optional sign: whether it is a minus, and what follows it. -/
def readSign : List Char → Bool × List Char
  | '-' :: rest => (true, rest)
  | '+' :: rest => (false, rest)
  | rest => (false, rest)

/-- The range of a signed 64-bit word. -/
def inWordRange (n : Int) : Bool :=
  Int64.minValue.toInt ≤ n ∧ n ≤ Int64.maxValue.toInt

/-- Reads a signed whole number within the range of a signed 64-bit word.
Leading zeros are allowed in any number. -/
def readInteger? (s : String) : Option Int := do
  let (negative, digits) := readSign s.toList
  let n ← readNat? digits
  let value : Int := if negative then -n else n
  if inWordRange value then some value else none

/-- A number that is read lies in the range of a signed 64-bit word. -/
theorem readInteger?_range {s : String} {n : Int} (h : readInteger? s = some n) :
    Int64.minValue.toInt ≤ n ∧ n ≤ Int64.maxValue.toInt := by
  simp only [readInteger?, Option.bind_eq_bind, Option.bind_eq_some_iff] at h
  obtain ⟨m, -, h⟩ := h
  generalize (if (readSign s.toList).1 = true then -(m : Int) else m) = value at h
  by_cases hr : inWordRange value
  · rw [if_pos hr, Option.some.injEq] at h
    simpa [inWordRange, h] using hr
  · simp [hr] at h

end UiMarkup.Number
