import UiMarkup.Number.Decimal
import UiMarkup.Toml.Text

/-!
# UiMarkup.Toml.Scalar

Numbers, dates and times of TOML.  They are checked in full, range included,
but their values are not kept: no option is a number or a date.
-/

namespace UiMarkup.Toml

/-! ## numbers -/

/-- More digits, with single underscores between digits. -/
def readMoreDigits (isDigit : Char → Bool) : Reader (List Char)
  | [] => some ([], [])
  | ['_'] => none
  | '_' :: c :: rest =>
    if isDigit c then consRead c (readMoreDigits isDigit rest) else none
  | c :: rest =>
    if isDigit c then consRead c (readMoreDigits isDigit rest) else some ([], c :: rest)

/-- Digits, with single underscores between digits. -/
def readDigits (isDigit : Char → Bool) : Reader (List Char)
  | [] => none
  | c :: rest => if isDigit c then consRead c (readMoreDigits isDigit rest) else none

/-- The digits of a whole number: no zero in front of others. -/
def readWhole : Reader (List Char)
  | '0' :: rest => some (['0'], rest)
  | cs => readDigits Char.isDigit cs

/-- The digits behind a point, if a point follows. -/
def readFraction : Reader (Option (List Char))
  | '.' :: rest => (readDigits Char.isDigit rest).map fun (ds, rest) => (some ds, rest)
  | rest => some (none, rest)

/-- The text of an exponent, if one follows. -/
def readExponent (cs : List Char) : Option (Option (List Char) × List Char) :=
  match cs with
  | c :: rest =>
    if c = 'e' ∨ c = 'E' then
      match rest with
      | '-' :: rest => (readDigits Char.isDigit rest).map fun (ds, r) => (some ('-' :: ds), r)
      | '+' :: rest => (readDigits Char.isDigit rest).map fun (ds, r) => (some ds, r)
      | rest => (readDigits Char.isDigit rest).map fun (ds, r) => (some ds, r)
    else some (none, cs)
  | [] => some (none, [])

/-- The number that digits of a base spell. -/
def natOfHex (digits : List Char) (base : Nat) : Nat :=
  digits.foldl (fun n c => base * n + (hexValue? c).getD 0) 0

/-- What follows a whole number in a base other than ten, in range. -/
def readInBase (base : Nat) (cs : List Char) : Option (List Char) := do
  let (digits, rest) ← readDigits (fun c => (hexValue? c).any (· < base)) cs
  if Number.inWordRange (natOfHex digits base) then some rest else none

/-- What follows a decimal number behind its sign: a whole number in range, or
a floating point number that does not round to positive infinity. -/
def readDecimal (negative : Bool) (cs : List Char) : Option (List Char) := do
  let (whole, rest) ← readWhole cs
  let (fraction, rest) ← readFraction rest
  let (exponent, rest) ← readExponent rest
  if fraction.isNone ∧ exponent.isNone then
    let n : Int := Number.natOfDigits whole
    if Number.inWordRange (if negative then -n else n) then some rest else none
  else
    let places := fraction.getD []
    let (down, digits) := Number.readSign (exponent.getD ['0'])
    let power : Int := Number.Decimal.exponentOfDigits digits
    let d : Number.Decimal :=
      ⟨negative, Number.natOfDigits (whole ++ places),
        (if down then -power else power) - places.length⟩
    if negative ∨ d.toBinary64.isFinite then some rest else none

/-- What follows a number. -/
def readNumber (cs : List Char) : Option (List Char) :=
  match cs with
  | '0' :: 'x' :: rest => readInBase 16 rest
  | '0' :: 'o' :: rest => readInBase 8 rest
  | '0' :: 'b' :: rest => readInBase 2 rest
  | cs =>
    let (negative, body) := Number.readSign cs
    match body with
    | 'i' :: 'n' :: 'f' :: rest => some rest
    | 'n' :: 'a' :: 'n' :: rest => some rest
    | body => readDecimal negative body

/-! ## dates and times -/

/-- A number of exactly `count` digits. -/
def readFixed (count : Nat) (cs : List Char) : Option (Nat × List Char) :=
  let digits := cs.take count
  if digits.length = count ∧ digits.all Char.isDigit then
    some (Number.natOfDigits digits, cs.drop count)
  else none

/-- A number of exactly two digits between bounds. -/
def readTwo (least most : Nat) (cs : List Char) : Option (Nat × List Char) := do
  let (n, rest) ← readFixed 2 cs
  if least ≤ n ∧ n ≤ most then some (n, rest) else none

/-- The number of days of a month. -/
def daysOfMonth (year month : Nat) : Nat :=
  if month = 2 then
    if year % 4 = 0 ∧ (year % 100 ≠ 0 ∨ year % 400 = 0) then 29 else 28
  else if month = 4 ∨ month = 6 ∨ month = 9 ∨ month = 11 then 30
  else 31

/-- What follows the given character. -/
def after (c : Char) : List Char → Option (List Char)
  | [] => none
  | d :: rest => if d = c then some rest else none

/-- What follows a date. -/
def readDate (cs : List Char) : Option (List Char) := do
  let (year, rest) ← readFixed 4 cs
  let rest ← after '-' rest
  let (month, rest) ← readTwo 1 12 rest
  let rest ← after '-' rest
  let (day, rest) ← readTwo 1 31 rest
  if day ≤ daysOfMonth year month then some rest else none

/-- What follows the fraction of a second, if a point follows. -/
def readSecondFraction : List Char → Option (List Char)
  | '.' :: c :: rest => if c.isDigit then some (rest.dropWhile Char.isDigit) else none
  | ['.'] => none
  | rest => some rest

/-- What follows a time of day. -/
def readTime (cs : List Char) : Option (List Char) := do
  let (_, rest) ← readTwo 0 23 cs
  let rest ← after ':' rest
  let (_, rest) ← readTwo 0 59 rest
  let rest ← after ':' rest
  let (_, rest) ← readTwo 0 60 rest
  readSecondFraction rest

/-- What follows the offset of a time, if there is one. -/
def readOffset : List Char → Option (List Char)
  | [] => some []
  | c :: rest =>
    if c = 'Z' ∨ c = 'z' then some rest
    else if c = '+' ∨ c = '-' then do
      let (_, rest) ← readTwo 0 23 rest
      let rest ← after ':' rest
      let (_, rest) ← readTwo 0 59 rest
      some rest
    else some (c :: rest)

/-- What follows a date, a time of day, or a date with a time behind a letter
or a blank.  A blank that no time follows is left unread. -/
def readDateTime (cs : List Char) : Option (List Char) :=
  match readDate cs with
  | none => readTime cs
  | some [] => some []
  | some (c :: rest) =>
    if c = 'T' ∨ c = 't' then (readTime rest).bind readOffset
    else if c = ' ' then
      match readTime rest with
      | none => some (c :: rest)
      | some rest => readOffset rest
    else some (c :: rest)

end UiMarkup.Toml
