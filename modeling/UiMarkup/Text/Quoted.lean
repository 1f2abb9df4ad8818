import UiMarkup.Text.Quoted.Table

/-!
# UiMarkup.Text.Quoted

The quoted form in which messages show a text: between double quotes, on one
line, with every character either visible or escaped.
-/

namespace UiMarkup.Text

/-- Whether a character may stand as itself in a quoted text. -/
def isVisible (c : Char) : Bool :=
  c = ' ' || !(inRanges c.toNat invisibleRanges || inRanges c.toNat attachingRanges)

/-- The escape by code point: lowercase hexadecimal digits in braces, no
padding. -/
def escapeCodePoint (c : Char) : List Char :=
  ['\\', 'u', '\x7b'] ++ Nat.toDigits 16 c.toNat ++ ['\x7d']

/-- One character of a quoted text. -/
def quoteChar (c : Char) : List Char :=
  match c with
  | '\x00' => ['\\', '0']
  | '\t' => ['\\', 't']
  | '\r' => ['\\', 'r']
  | '\n' => ['\\', 'n']
  | '\\' => ['\\', '\\']
  | '"' => ['\\', '"']
  | c => if isVisible c then [c] else escapeCodePoint c

/-- The quoted form of a text. -/
def quote (s : String) : String :=
  String.ofList ('"' :: s.toList.flatMap quoteChar ++ ['"'])

end UiMarkup.Text
