import UiMarkup.Text.Ranges

/-!
# UiMarkup.Text.Blank

The characters that separate values on a line: the Unicode property
`White_Space`, twenty-five characters in ten ranges.  The line feed is one of
them, but never stands inside a line.
-/

namespace UiMarkup.Text

/-- The ranges of the Unicode property `White_Space`. -/
def blankRanges : List Range :=
  [(0x9, 0xD), (0x20, 0x20), (0x85, 0x85), (0xA0, 0xA0), (0x1680, 0x1680), (0x2000, 0x200A),
   (0x2028, 0x2029), (0x202F, 0x202F), (0x205F, 0x205F), (0x3000, 0x3000)]

/-- Whether a character is white space. -/
def isBlank (c : Char) : Bool :=
  inRanges c.toNat blankRanges

/-- The quote, the comment mark and the null mark are no white space. -/
theorem isBlank_marks : isBlank '"' = false ∧ isBlank '#' = false ∧ isBlank '-' = false := by
  decide

/-- Both line end characters are white space. -/
theorem isBlank_lineEnds : isBlank '\n' = true ∧ isBlank '\r' = true := by
  decide

end UiMarkup.Text
