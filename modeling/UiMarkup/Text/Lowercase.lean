import UiMarkup.Text.Lowercase.Table

/-!
# UiMarkup.Text.Lowercase

The lowercase of a text, by which names of items and groups are compared.
Every character is mapped on its own with one exception: a capital sigma
becomes a final sigma at the end of a word, so its mapping looks at both
neighbours.  The capital I with a dot becomes two characters; every other
mapping gives one.
-/

namespace UiMarkup.Text

/-! ## one character -/

/-- The lowercase of a code point by the runs that follow; a code point
outside all runs is its own lowercase. -/
def lowerCodePoint (n : Nat) : List CaseRun → Nat
  | [] => n
  | run :: rest =>
    if n < run.first then n
    else if n ≤ run.last ∧ (n - run.first) % run.step = 0 then run.target + (n - run.first)
    else lowerCodePoint n rest

/-- The lowercase of a character that stands alone. -/
def lowerChar (c : Char) : List Char :=
  if c = 'İ' then ['i', '\u0307'] else [Char.ofNat (lowerCodePoint c.toNat caseRuns)]

/-- Whether a character has case: it is upper, lower or title case. -/
def isCased (c : Char) : Bool :=
  inRanges c.toNat casedRanges

/-- Whether a character is passed over when looking for a cased neighbour. -/
def isCaseIgnorable (c : Char) : Bool :=
  inRanges c.toNat caseIgnorableRanges

/-! ## a whole text -/

/-- Whether the first character that is not passed over has case. -/
def meetsCased (cs : List Char) : Bool :=
  (cs.dropWhile isCaseIgnorable).head?.any isCased

/-- Whether a sigma is the last letter of a word: a letter comes before it
(`before` runs backwards from the sigma) and none after it. -/
def isFinalSigma (before after : List Char) : Bool :=
  meetsCased before && !meetsCased after

/-- The lowercase of the characters that follow `before`, the text already
passed, last character first. -/
def lowerChars (before : List Char) : List Char → List Char
  | [] => []
  | c :: after =>
    (if c = 'Σ' then [if isFinalSigma before after then 'ς' else 'σ'] else lowerChar c) ++
      lowerChars (c :: before) after

/-- The lowercase of a text. -/
def lowercase (s : String) : String :=
  String.ofList (lowerChars [] s.toList)

end UiMarkup.Text
