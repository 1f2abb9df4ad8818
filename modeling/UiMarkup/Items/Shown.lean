import UiMarkup.Items.Item

/-!
# UiMarkup.Items.Shown

Items in the form in which they are shown for inspection.
-/

namespace UiMarkup

open Text (record variant listing optional quote truth)

namespace Items

/-- The info of an item, shown. -/
def Info.shown (i : Info) : String :=
  record "ItemInfo"
    [("name", quote i.name), ("title", optional quote i.title), ("hint", optional quote i.hint)]

end Items

/-- An item, shown.  Observers are shown by their number, and an action by
whether there is one. -/
def Item.shown [Observer.Storage S ω] (i : Item S ω) : String :=
  let info := ("info", i.info.shown)
  match i.content with
  | .plain => variant "Plain" (record "PlainItem" [info])
  | .command action =>
    variant "Command" (record "CommandItem" [info, ("bound", truth action.isSome)])
  | .text state =>
    variant "String" (record "StringItem"
      [info, ("value", state.property.shown quote), ("changed", state.changed.shown)])
  | .flag state =>
    variant "Bool" (record "BoolItem"
      [info, ("value", state.property.shown truth), ("changed", state.changed.shown)])
  | .choice state options =>
    variant "Enum" (record "EnumItem"
      [info, ("value", state.property.shown fun n => toString n.toNat),
        ("options", listing (options.map fun o => record "PlainItem" [("info", o.shown)])),
        ("changed", state.changed.shown)])

end UiMarkup
