import UiMarkup.Document.Tree
import UiMarkup.Text.Shown

/-!
# UiMarkup.Document.Error

What can be wrong with a document.  A malformed text is reported with the
line and the fault found there; every other error says how an element or an
attribute fails the demands of its reader.  The wording of all of them is
`Error.message`.  Apart from them stands `Error.stopped`: arithmetic that
leaves the words ends the program, which then returns nothing.
-/

namespace UiMarkup.Document

/-- The faults of a text that is no document.  The first four lie within one
line, the others in the order of the lines. -/
inductive Fault where
  /-- The line ends inside a quoted value. -/
  | stringNotClosed
  /-- A quote and a slash inside a quoted value without the second quote. -/
  | brokenLineBreak
  /-- A quoted value is followed by neither white space nor a comment. -/
  | textAfterString
  /-- A quote inside an unquoted value. -/
  | quoteInValue
  /-- No line holds a value. -/
  | noRootElement
  /-- The last line with values holds more than one. -/
  | endKeywordLine
  /-- A line with values behind the end of the root element. -/
  | afterRoot
  /-- An element is closed where none is open. -/
  | unexpectedEndKeyword
  /-- An element with the name null. -/
  | nullElementName
  /-- An attribute with the name null. -/
  | nullAttributeName
  /-- An attribute where no element is open. -/
  | attributeOutside
  /-- The text ends inside the element of this name. -/
  | elementNotClosed (name : String)
  deriving DecidableEq

/-- The wording of a fault. -/
def Fault.message : Fault → String
  | .stringNotClosed => "string not closed"
  | .brokenLineBreak => "invalid string line break"
  | .textAfterString => "invalid character after string"
  | .quoteInValue => "invalid double quote in value"
  | .noRootElement => "document has no root element"
  | .endKeywordLine => "invalid end keyword line"
  | .afterRoot => "only comments and empty lines may follow the root element"
  | .unexpectedEndKeyword => "unexpected end keyword"
  | .nullElementName => "element name must not be null"
  | .nullAttributeName => "attribute name must not be null"
  | .attributeOutside => "attribute outside of an element"
  | .elementNotClosed name => s!"element \"{name}\" is not closed"

/-- What the reader of a value expects there. -/
inductive Expected where
  | text
  | integer
  | float
  | boolean
  | choice
  | nonNegative
  | positive
  | indexBeforeSpan
  deriving DecidableEq

/-- The wording of an expectation. -/
def Expected.message : Expected → String
  | .text => "non-null string"
  | .integer => "integer"
  | .float => "float"
  | .boolean => "boolean"
  | .choice => "enumeration value"
  | .nonNegative => "non-negative integer"
  | .positive => "positive integer"
  | .indexBeforeSpan => "index that leaves room for its span"

/-- What is wrong with a document. -/
inductive Error where
  /-- The text is malformed at the line, which counts from one. -/
  | malformed (line : Nat) (fault : Fault)
  /-- The element has another name than the expected one. -/
  | unexpectedElementName (expected found : String)
  /-- The element has an attribute with a name outside the allowed ones. -/
  | unexpectedAttribute (element attr : String)
  /-- The element has a child with a name outside the allowed ones. -/
  | unexpectedElement (element child : String)
  /-- The element lacks an attribute. -/
  | missingAttribute (element attr : String)
  /-- The element lacks a child. -/
  | missingElement (element child : String)
  /-- The element has several nodes of a name that may occur once. -/
  | ambiguous (element name : String)
  /-- The element has another number of children than the expected one. -/
  | elementCount (element : String) (expected found : Nat)
  /-- The element has attributes and may not. -/
  | attributesNotAllowed (element : String)
  /-- The element has children and may not. -/
  | elementsNotAllowed (element : String)
  /-- The number of values of the attribute lies outside the range. -/
  | valueCount (attr : String) (least most found : Nat)
  /-- The value of the attribute at the index is not of the expected kind. -/
  | invalidValue (attr : String) (index : Nat) (expected : Expected) (value : Value)
  /-- A sum is no word.  This error is not returned: the program stops. -/
  | stopped
  deriving DecidableEq

namespace Error

/-- Whether the error was found in the text and not in the tree. -/
def isMalformed : Error → Bool
  | .malformed _ _ => true
  | _ => false

/-- The wording of an error.  Names stand between plain quotes as they are;
only a value is shown in its quoted form. -/
def message : Error → String
  | .malformed line fault =>
    let text := fault.message
    s!"SML syntax error at line {line}: {text}"
  | .unexpectedElementName expected found =>
    s!"Element \"{found}\" was expected to be \"{expected}\""
  | .unexpectedAttribute element attr =>
    s!"Element \"{element}\" has unexpected attribute \"{attr}\""
  | .unexpectedElement element child =>
    s!"Element \"{element}\" has unexpected child element \"{child}\""
  | .missingAttribute element attr =>
    s!"Element \"{element}\" is missing required attribute \"{attr}\""
  | .missingElement element child =>
    s!"Element \"{element}\" is missing required element \"{child}\""
  | .ambiguous element name =>
    s!"Element \"{element}\" has multiple nodes named \"{name}\""
  | .elementCount element expected found =>
    s!"Element \"{element}\" must have {expected} child element(s) but has {found}"
  | .attributesNotAllowed element =>
    s!"Element \"{element}\" must not have attributes"
  | .elementsNotAllowed element =>
    s!"Element \"{element}\" must not have child elements"
  | .valueCount attr least most found =>
    s!"Attribute \"{attr}\" must have between {least} and {most} value(s) but has {found}"
  | .invalidValue attr index expected value =>
    let kind := expected.message
    let shown := Text.optional Text.quote value
    s!"Attribute \"{attr}\" value {index} is not a valid {kind}: {shown}"
  | .stopped => "attempt to add with overflow"

end Error

end UiMarkup.Document
