import UiMarkup.Text.WordChar
import UiMarkup.Text.Lowercase

/-!
# UiMarkup.Items.Name

Names of items and groups: at least one character, and word characters only.
The point that separates the names of a path and the usual separator of option
names are no word characters.  Names that have the same lowercase are the same
name within a group.
-/

namespace UiMarkup.Items

/-- Whether a text is a name. -/
def isName (s : String) : Bool :=
  s.toList ≠ [] && s.toList.all Text.isWordChar

/-- What names are compared by. -/
abbrev key (name : String) : String :=
  Text.lowercase name

/-- The empty text is no name. -/
theorem isName_empty : isName "" = false := by
  simp [isName]

end UiMarkup.Items
