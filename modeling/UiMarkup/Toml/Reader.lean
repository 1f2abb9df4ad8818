import UiMarkup.Toml.Scalar
import UiMarkup.Toml.Table

/-!
# UiMarkup.Toml.Reader

From a TOML text to its table.  Arrays and inline tables are nested to a
limited depth, on which the readers recurse; lists of elements are bounded by
the length of the text.
-/

namespace UiMarkup.Toml

/-! ## values -/

/-- The elements of an array up to its closing bracket, the last of them
perhaps followed by a comma. -/
def readElements (readValue : Reader Value) : Nat → Reader (List Value)
  | 0, _ => none
  | fuel + 1, cs =>
    match skipLayout cs false with
    | ']' :: rest => some ([], rest)
    | cs => do
      let (v, rest) ← readValue cs
      match skipLayout rest false with
      | ']' :: rest => some ([v], rest)
      | ',' :: rest => do
        let (vs, rest) ← readElements readValue fuel rest
        some (v :: vs, rest)
      | _ => none

/-- The keys before the last one of a dotted key, and the last one. -/
def splitKey (parts : List String) : List String × String :=
  (parts.dropLast, parts.getLast?.getD "")

/-- A key, the equals sign and a value. -/
def readPair (readValue : Reader Value) (cs : List Char) :
    Option ((List String × Value) × List Char) := do
  let (key, rest) ← readKey cs
  let rest ← after '=' rest
  let (v, rest) ← readValue (skipSpace rest)
  some ((key, v), rest)

/-- The pairs of an inline table up to its closing brace. -/
def readPairs (readValue : Reader Value) : Nat → Table → Reader Table
  | 0, _, _ => none
  | fuel + 1, t, cs => do
    let ((parts, v), rest) ← readPair readValue cs
    let (path, key) := splitKey parts
    let t ← t.insert path key v
    match skipSpace rest with
    | '\x7d' :: rest => some (t, rest)
    | ',' :: rest => readPairs readValue fuel t rest
    | _ => none

/-- A value that is nested at most `depth` levels deep. -/
def readValue : Nat → Reader Value
  | depth, cs =>
    match cs with
    | '"' :: _ => (readString cs).map fun (s, rest) => (.string s, rest)
    | '\'' :: _ => (readString cs).map fun (s, rest) => (.string s, rest)
    | 't' :: 'r' :: 'u' :: 'e' :: rest => some (.boolean true, rest)
    | 'f' :: 'a' :: 'l' :: 's' :: 'e' :: rest => some (.boolean false, rest)
    | '[' :: rest =>
      match depth with
      | 0 => none
      | depth + 1 =>
        (readElements (readValue depth) cs.length rest).map fun (vs, rest) => (.array vs, rest)
    | '\x7b' :: rest =>
      match depth with
      | 0 => none
      | depth + 1 =>
        match skipSpace rest with
        | '\x7d' :: rest => some (.table .inline [], rest)
        | rest => (readPairs (readValue depth) cs.length ⟨.inline, []⟩ rest).map
            fun (t, rest) => (t.toValue, rest)
    | cs =>
      match readDateTime cs with
      | some rest => some (.quantity, rest)
      | none => (readNumber cs).map fun rest => (.quantity, rest)

/-! ## the text -/

/-- The table of a text so far, and the path of the header in effect. -/
structure Progress where
  root : Table
  header : List String

/-- Enters the table of a header. -/
def Progress.enter (p : Progress) (parts : List String) (several : Bool) : Option Progress := do
  let (path, key) := splitKey parts
  let root ← if several then p.root.openMember path key else p.root.openTable path key
  some ⟨root, parts⟩

/-- Sets a dotted key in the table of the header in effect. -/
def Progress.assign (p : Progress) (parts : List String) (v : Value) : Option Progress := do
  let (path, key) := splitKey parts
  let root ← p.root.descend .implied (Table.insert path key v) p.header
  some { p with root }

/-- Reads one line that is not empty: a header or a pair. -/
def readLine (p : Progress) (cs : List Char) : Option (Progress × List Char) :=
  match cs with
  | '[' :: '[' :: rest => do
    let (parts, rest) ← readKey rest
    let rest ← after ']' rest
    let rest ← after ']' rest
    let rest ← lineTrailing? rest
    let p ← p.enter parts true
    some (p, rest)
  | '[' :: rest => do
    let (parts, rest) ← readKey rest
    let rest ← after ']' rest
    let rest ← lineTrailing? rest
    let p ← p.enter parts false
    some (p, rest)
  | cs => do
    let ((parts, v), rest) ← readPair (readValue maxNesting) cs
    let rest ← lineTrailing? rest
    let p ← p.assign parts v
    some (p, rest)

/-- Reads the lines of a text; `fuel` bounds their number. -/
def readLines : Nat → Progress → List Char → Option Table
  | 0, _, _ => none
  | fuel + 1, p, cs =>
    match skipSpace cs with
    | [] => some p.root
    | c :: rest =>
      if c = '#' ∨ c = '\n' ∨ c = '\r' then do
        let rest ← lineTrailing? (c :: rest)
        readLines fuel p rest
      else do
        let (p, rest) ← readLine p (c :: rest)
        readLines fuel p rest

/-- A text without the byte order mark that it may begin with. -/
def skipMark : List Char → List Char
  | '\ufeff' :: rest => rest
  | cs => cs

/-- The table of a TOML text. -/
def parse? (text : String) : Option Table :=
  let cs := skipMark text.toList
  readLines (cs.length + 1) ⟨⟨.header, []⟩, []⟩ cs

end UiMarkup.Toml
