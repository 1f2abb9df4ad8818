/-!
# UiMarkup.Toml.Text

The character level of TOML: blanks, line ends and comments, the four kinds
of strings, and keys.  A reader takes the text that is left and gives what it
read and what is left then, or nothing if the text is not of its form.
-/

namespace UiMarkup.Toml

/-- A reader of values of a type. -/
abbrev Reader (α : Type) := List Char → Option (α × List Char)

/-! ## layout -/

/-- A blank within a line. -/
def isSpace (c : Char) : Bool :=
  c = ' ' || c = '\t'

/-- Whether a character may stand as itself in comments and strings: all but
the control characters, of which only the tab is allowed. -/
def isPrintable (c : Char) : Bool :=
  c = '\t' || (0x20 ≤ c.toNat && c.toNat ≠ 0x7F)

/-- What follows the blanks. -/
def skipSpace (cs : List Char) : List Char :=
  cs.dropWhile isSpace

/-- What follows the line end, if there is one here; the end of the text is a
line end. -/
def lineEnd? : List Char → Option (List Char)
  | [] => some []
  | '\n' :: rest => some rest
  | '\r' :: '\n' :: rest => some rest
  | _ => none

/-- What follows the comment, if there is one here. -/
def skipComment : List Char → List Char
  | '#' :: rest => rest.dropWhile isPrintable
  | rest => rest

/-- What follows the rest of a line that holds nothing more: blanks, perhaps a
comment, and the line end. -/
def lineTrailing? (cs : List Char) : Option (List Char) :=
  lineEnd? (skipComment (skipSpace cs))

/-- What follows the blanks, line ends and comments, within which a comment is
closed by a line end. -/
def skipLayout : List Char → Bool → List Char
  | [], _ => []
  | '\n' :: rest, _ => skipLayout rest false
  | '\r' :: '\n' :: rest, _ => skipLayout rest false
  | c :: rest, true => if isPrintable c then skipLayout rest true else c :: rest
  | c :: rest, false =>
    if isSpace c then skipLayout rest false
    else if c = '#' then skipLayout rest true
    else c :: rest

/-! ## strings -/

/-- The value of a hexadecimal digit. -/
def hexValue? (c : Char) : Option Nat :=
  if '0' ≤ c ∧ c ≤ '9' then some (c.toNat - '0'.toNat)
  else if 'a' ≤ c ∧ c ≤ 'f' then some (c.toNat - 'a'.toNat + 10)
  else if 'A' ≤ c ∧ c ≤ 'F' then some (c.toNat - 'A'.toNat + 10)
  else none

/-- The character whose code point the hexadecimal digits spell. -/
def charOfHex? (digits : List Char) : Option Char := do
  let values ← digits.mapM hexValue?
  let n := values.foldl (fun n d => 16 * n + d) 0
  if n.isValidChar then some (Char.ofNat n) else none

/-- The character that a letter behind a backslash stands for. -/
def escape? : Char → Option Char
  | 'b' => some '\x08'
  | 't' => some '\t'
  | 'n' => some '\n'
  | 'f' => some '\x0c'
  | 'r' => some '\r'
  | '"' => some '"'
  | '\\' => some '\\'
  | _ => none

/-- One more character in front of what a reader of characters read. -/
def consRead (c : Char) : Option (List Char × List Char) → Option (List Char × List Char)
  | some (cs, rest) => some (c :: cs, rest)
  | none => none

/-- The rest of a string between quotes on one line. -/
def readBasic : Reader (List Char)
  | [] => none
  | '"' :: rest => some ([], rest)
  | '\\' :: 'u' :: a :: b :: c :: d :: rest =>
    (charOfHex? [a, b, c, d]).bind fun x => consRead x (readBasic rest)
  | '\\' :: 'U' :: a :: b :: c :: d :: e :: f :: g :: h :: rest =>
    (charOfHex? [a, b, c, d, e, f, g, h]).bind fun x => consRead x (readBasic rest)
  | '\\' :: c :: rest => (escape? c).bind fun x => consRead x (readBasic rest)
  | c :: rest => if isPrintable c then consRead c (readBasic rest) else none

/-- The rest of a string between apostrophes on one line. -/
def readLiteral : Reader (List Char)
  | [] => none
  | '\'' :: rest => some ([], rest)
  | c :: rest => if isPrintable c then consRead c (readLiteral rest) else none

/-- Where a reader of a string over several lines stands with respect to a
backslash that joins lines. -/
inductive Joining where
  /-- No such backslash is in effect. -/
  | no
  /-- Between the backslash and the end of its line. -/
  | line
  /-- Behind the end of that line, where blanks and line ends are passed over. -/
  | next

/-- The rest of a string between triple quotes.  Up to two quotes right before
the closing ones belong to the string. -/
def readLongBasic : Joining → Reader (List Char)
  | _, [] => none
  | .line, '\n' :: rest => readLongBasic .next rest
  | .line, '\r' :: '\n' :: rest => readLongBasic .next rest
  | .line, c :: rest => if isSpace c then readLongBasic .line rest else none
  | .next, ' ' :: rest => readLongBasic .next rest
  | .next, '\t' :: rest => readLongBasic .next rest
  | .next, '\n' :: rest => readLongBasic .next rest
  | .next, '\r' :: '\n' :: rest => readLongBasic .next rest
  | _, '"' :: '"' :: '"' :: '"' :: '"' :: rest => some (['"', '"'], rest)
  | _, '"' :: '"' :: '"' :: '"' :: rest => some (['"'], rest)
  | _, '"' :: '"' :: '"' :: rest => some ([], rest)
  | _, '\\' :: 'u' :: a :: b :: c :: d :: rest =>
    (charOfHex? [a, b, c, d]).bind fun x => consRead x (readLongBasic .no rest)
  | _, '\\' :: 'U' :: a :: b :: c :: d :: e :: f :: g :: h :: rest =>
    (charOfHex? [a, b, c, d, e, f, g, h]).bind fun x => consRead x (readLongBasic .no rest)
  | _, '\\' :: '\n' :: rest => readLongBasic .next rest
  | _, '\\' :: '\r' :: '\n' :: rest => readLongBasic .next rest
  | _, '\\' :: c :: rest =>
    if isSpace c then readLongBasic .line rest
    else (escape? c).bind fun x => consRead x (readLongBasic .no rest)
  | _, '\n' :: rest => consRead '\n' (readLongBasic .no rest)
  | _, '\r' :: '\n' :: rest => consRead '\n' (readLongBasic .no rest)
  | _, c :: rest => if isPrintable c then consRead c (readLongBasic .no rest) else none

/-- The rest of a string between triple apostrophes.  Up to two apostrophes
right before the closing ones belong to the string. -/
def readLongLiteral : Reader (List Char)
  | [] => none
  | '\'' :: '\'' :: '\'' :: '\'' :: '\'' :: rest => some (['\'', '\''], rest)
  | '\'' :: '\'' :: '\'' :: '\'' :: rest => some (['\''], rest)
  | '\'' :: '\'' :: '\'' :: rest => some ([], rest)
  | '\n' :: rest => consRead '\n' (readLongLiteral rest)
  | '\r' :: '\n' :: rest => consRead '\n' (readLongLiteral rest)
  | c :: rest => if isPrintable c then consRead c (readLongLiteral rest) else none

/-- A long string without the line end that may follow its opening quotes. -/
def skipFirstLineEnd : List Char → List Char
  | '\n' :: rest => rest
  | '\r' :: '\n' :: rest => rest
  | rest => rest

/-- A string of any kind, as a text. -/
def readString (cs : List Char) : Option (String × List Char) :=
  let read : Option (List Char × List Char) :=
    match cs with
    | '"' :: '"' :: '"' :: rest => readLongBasic .no (skipFirstLineEnd rest)
    | '"' :: rest => readBasic rest
    | '\'' :: '\'' :: '\'' :: rest => readLongLiteral (skipFirstLineEnd rest)
    | '\'' :: rest => readLiteral rest
    | _ => none
  read.map fun (text, rest) => (String.ofList text, rest)

/-! ## keys -/

/-- A character of a key without quotes. -/
def isBareKeyChar (c : Char) : Bool :=
  c.isAlphanum || c = '_' || c = '-'

/-- One part of a key. -/
def readKeyPart (cs : List Char) : Option (String × List Char) :=
  match cs with
  | '"' :: rest => (readBasic rest).map fun (text, rest) => (String.ofList text, rest)
  | '\'' :: rest => (readLiteral rest).map fun (text, rest) => (String.ofList text, rest)
  | cs =>
    let name := cs.takeWhile isBareKeyChar
    if name = [] then none else some (String.ofList name, cs.dropWhile isBareKeyChar)

/-- The parts of a dotted key with blanks around each; `fuel` bounds their
number. -/
def readKeyParts : Nat → Reader (List String)
  | 0, _ => none
  | fuel + 1, cs => do
    let (part, rest) ← readKeyPart (skipSpace cs)
    match skipSpace rest with
    | '.' :: more => do
      let (parts, rest) ← readKeyParts fuel more
      some (part :: parts, rest)
    | rest => some ([part], rest)

/-- The number of levels that keys and values may be nested: one less than
eighty. -/
def maxNesting : Nat := 79

/-- A dotted key. -/
def readKey (cs : List Char) : Option (List String × List Char) := do
  let (parts, rest) ← readKeyParts cs.length cs
  if parts.length ≤ maxNesting then some (parts, rest) else none

end UiMarkup.Toml
