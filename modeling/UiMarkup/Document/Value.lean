import UiMarkup.Document.Demand
import UiMarkup.Number.Decimal
import UiMarkup.Text.AsciiCase

/-!
# UiMarkup.Document.Value

The values of an attribute, read as texts, numbers, booleans and choices.
Values are counted and indexed by 64-bit words.  Reading a value that does not
exist fails on the number of values, reading one of the wrong kind on the
value itself.  The number of values that would be enough is the successor of
the index: where that is no word the program stops.

* `Attribute.readAt` reads the value at an index by a reader of texts;
* `Attribute.onlyText` and the like read an attribute with one value.
-/

namespace UiMarkup.Attribute

open Document (Error Expected)

/-! ## the value at an index -/

/-- The largest number of values that can be asked for. -/
def maxCount : Nat := UInt64.size - 1

/-- The fault of the value at an index. -/
def invalid (a : Attribute) (index : UInt64) (expected : Expected) : Error :=
  .invalidValue a.name index.toNat expected (a.values[index.toNat]?.join)

/-- The fault of an index behind the last value. -/
def pastEnd (a : Attribute) (index : UInt64) : Error :=
  if index.toNat = maxCount then .stopped
  else .valueCount a.name (index.toNat + 1) maxCount a.values.length

/-- The value at an index, which may be null. -/
def valueAt (a : Attribute) (index : UInt64) : Except Error Value :=
  match a.values[index.toNat]? with
  | some value => .ok value
  | none => .error (a.pastEnd index)

/-- Reads the value at an index, which must not be null. -/
def textAt (a : Attribute) (index : UInt64) : Except Error String := do
  match ← a.valueAt index with
  | some text => .ok text
  | none => .error (a.invalid index .text)

/-- Reads the text at an index by `read?`. -/
def readAt (a : Attribute) (index : UInt64) (expected : Expected) (read? : String → Option α) :
    Except Error α := do
  let text ← a.textAt index
  match read? text with
  | some x => .ok x
  | none => .error (a.invalid index expected)

/-- Reads `true` or `false`, in any case of the letters. -/
def readFlag? (s : String) : Option Bool :=
  if Text.sameKeyword s "true" then some true
  else if Text.sameKeyword s "false" then some false
  else none

/-- The value at an index as a whole number. -/
def integerAt (a : Attribute) (index : UInt64) : Except Error Int :=
  a.readAt index .integer Number.readInteger?

/-- The value at an index as a finite floating point number. -/
def floatAt (a : Attribute) (index : UInt64) : Except Error Number.Binary64 :=
  a.readAt index .float Number.readFloat?

/-- The value at an index as a boolean. -/
def flagAt (a : Attribute) (index : UInt64) : Except Error Bool :=
  a.readAt index .boolean readFlag?

/-- The place of the value at an index among the choices, the first if it
stands there more than once. -/
def choiceAt (a : Attribute) (choices : List String) (index : UInt64) : Except Error Nat :=
  a.readAt index .choice fun s => choices.findIdx? (· == s)

/-! ## the only value -/

/-- The only value, which must not be null. -/
def onlyText (a : Attribute) : Except Error String := do
  a.requireCount 1
  a.textAt 0

/-- The only value as a whole number. -/
def onlyInteger (a : Attribute) : Except Error Int := do
  a.requireCount 1
  a.integerAt 0

/-- The only value as a finite floating point number. -/
def onlyFloat (a : Attribute) : Except Error Number.Binary64 := do
  a.requireCount 1
  a.floatAt 0

/-- The only value as a boolean. -/
def onlyFlag (a : Attribute) : Except Error Bool := do
  a.requireCount 1
  a.flagAt 0

/-- The only value as a place among choices. -/
def onlyChoice (a : Attribute) (choices : List String) : Except Error Nat := do
  a.requireCount 1
  a.choiceAt choices 0

end UiMarkup.Attribute
