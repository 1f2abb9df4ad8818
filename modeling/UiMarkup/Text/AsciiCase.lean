/-!
# UiMarkup.Text.AsciiCase

Comparison of keywords that ignores the case of the letters `A` to `Z` and
of no other letter.
-/

namespace UiMarkup.Text

/-- Whether two texts are equal but for the case of the letters `A` to `Z`. -/
def sameKeyword (s t : String) : Bool :=
  s.toList.map Char.toLower == t.toList.map Char.toLower

/-- Two texts are the same keyword exactly when their foldings agree. -/
theorem sameKeyword_iff {s t : String} :
    sameKeyword s t = true ↔ s.toList.map Char.toLower = t.toList.map Char.toLower := by
  simp [sameKeyword]

/-- Every text is the same keyword as itself. -/
@[simp] theorem sameKeyword_self (s : String) : sameKeyword s s = true := by
  simp [sameKeyword]

/-- The comparison is symmetric. -/
theorem sameKeyword_comm (s t : String) : sameKeyword s t = sameKeyword t s := by
  rw [Bool.eq_iff_iff, sameKeyword_iff, sameKeyword_iff, eq_comm]

end UiMarkup.Text
