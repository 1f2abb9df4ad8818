import UiMarkup.Items.Error
import UiMarkup.Toml.Reader

/-!
# UiMarkup.Items.Dialect

The dialects in which documents declare items.  A dialect says what joins the
name of a choice to those of its options, and whether groups may be declared.
It is made in code or read from a TOML text, in which every key but two is
ignored.
-/

namespace UiMarkup.Items

/-- A dialect: what joins the name of a choice to the value of an option, and
whether groups may be declared. -/
structure Dialect where
  separator : String
  nestedGroups : Bool
  deriving DecidableEq, Inhabited

namespace Dialect

/-- The dialect if nothing is said. -/
def standard : Dialect := ⟨":", true⟩

/-- The dialect, provided that its separator is not empty and cannot be taken
for a separator of paths. -/
def validate (d : Dialect) : Except Error Dialect :=
  if d.separator = "" then .error (.dialect .emptySeparator)
  else if '.' ∈ d.separator.toList then .error (.dialect .separatorHoldsPoint)
  else .ok d

/-- The separator that a table gives. -/
def separatorOf (t : Toml.Table) : Except Error String :=
  match t.get? "sub_item_separator" with
  | none => .ok standard.separator
  | some (.string text) => .ok text
  | some _ => .error (.dialect .unreadable)

/-- Whether a table admits groups. -/
def nestedGroupsOf (t : Toml.Table) : Except Error Bool :=
  match t.get? "nested_groups" with
  | none => .ok standard.nestedGroups
  | some (.boolean b) => .ok b
  | some _ => .error (.dialect .unreadable)

/-- Reads a dialect from a TOML text. -/
def ofToml (text : String) : Except Error Dialect :=
  match Toml.parse? text with
  | none => .error (.dialect .unreadable)
  | some t => do
    let separator ← separatorOf t
    let nestedGroups ← nestedGroupsOf t
    validate ⟨separator, nestedGroups⟩

end Dialect

end UiMarkup.Items
