import UiMarkup.Text.Quoted

/-!
# UiMarkup.Text.Shown

The one-line form in which values are shown for inspection: a record by its
name and fields, an alternative by its name and content, a list between
brackets.
-/

namespace UiMarkup.Text

/-- A record: `Name { field: value, … }`. -/
def record (name : String) (fields : List (String × String)) : String :=
  let shown := fields.map fun (field, value) => field ++ ": " ++ value
  name ++ " \x7b " ++ ", ".intercalate shown ++ " \x7d"

/-- An alternative with its content: `Name(content)`. -/
def variant (name : String) (content : String) : String :=
  name ++ "(" ++ content ++ ")"

/-- A list: `[first, second, …]`. -/
def listing (values : List String) : String :=
  "[" ++ ", ".intercalate values ++ "]"

/-- A value that may be absent. -/
def optional (shown : α → String) : Option α → String
  | none => "None"
  | some x => variant "Some" (shown x)

/-- A truth value. -/
def truth (b : Bool) : String :=
  if b then "true" else "false"

end UiMarkup.Text
