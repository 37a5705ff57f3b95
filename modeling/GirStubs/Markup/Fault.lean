/-! # Why a document is refused

Each way in which a document can be wrong is a constructor; `Fault.message` is
the only place that words it. A `Refusal` adds the byte offset at which the
document was given up.
-/

namespace GirStubs.Markup

/-- A construct whose end is missing, or that cannot be told from its first characters. -/
inductive LexicalFault where
  /-- An exclamation mark with nothing known behind it. -/
  | unknownBang
  /-- A processing instruction or declaration without its end. -/
  | openInstruction
  /-- A comment without its end, or closed before it has begun. -/
  | openComment
  /-- A document type without its end, or with another word in its place. -/
  | openDoctype
  /-- A character-data section without its end, or with another word in its place. -/
  | openCData
  /-- A tag without its end. -/
  | openTag
  deriving DecidableEq, Repr

/-- A construct that is complete but must not stand there. -/
inductive FormFault where
  /-- A document type without a name. -/
  | namelessDoctype
  /-- An end tag with another name than the innermost open element. -/
  | mismatchedEnd (expected found : String)
  /-- An end tag with no open element. -/
  | unmatchedEnd (found : String)
  deriving DecidableEq, Repr

/-- What is wrong with the attributes of a tag. Offsets are bytes from the start of the tag's
content. -/
inductive AttributeFault where
  /-- A key with something else behind it than an equals sign. -/
  | missingEquals (position : Nat)
  /-- An equals sign with nothing behind it. -/
  | missingValue (position : Nat)
  /-- A value that does not start with a quote. -/
  | unquotedValue (position : Nat)
  /-- A value without its closing quote. -/
  | missingQuote (position : Nat) (quote : Char)
  /-- A key that came before in the same tag. -/
  | repeatedKey (position previous : Nat)
  deriving DecidableEq, Repr

/-- What is wrong with the number of a character reference. -/
inductive NumberFault where
  /-- The number starts with a sign. -/
  | sign
  /-- There is no digit. -/
  | empty
  /-- A character is no digit of the base. -/
  | invalidDigit
  /-- The number needs more than 32 bits. -/
  | tooLarge
  /-- No character has this number. -/
  | noCharacter (number : Nat)
  /-- The number is zero. -/
  | zero
  deriving DecidableEq, Repr

/-- What is wrong with a reference. Offsets are bytes from the start of the run or value that
holds it. -/
inductive ReferenceFault where
  /-- A name that stands for no character. -/
  | unknownName (first last : Nat) (name : String)
  /-- An ampersand without its semicolon. -/
  | unterminated (first last : Nat)
  /-- A numeric reference with a bad number. -/
  | number (fault : NumberFault)
  deriving DecidableEq, Repr

/-- What is wrong with the tree of elements. -/
inductive TreeFault where
  /-- The text ends inside an element. -/
  | unclosed (tag : String)
  /-- The text ends without an element. -/
  | noRoot
  /-- An element behind the root element. -/
  | secondRoot (tag : String)
  /-- Text before or behind the root element. -/
  | outsideText
  deriving DecidableEq, Repr

/-- Why a document is refused. -/
inductive Fault where
  | lexical (fault : LexicalFault)
  | form (fault : FormFault)
  | attribute (fault : AttributeFault)
  | reference (fault : ReferenceFault)
  | tree (fault : TreeFault)
  deriving DecidableEq, Repr

/-- A fault and the byte offset at which the document was given up. -/
structure Refusal where
  position : Nat
  fault : Fault
  deriving DecidableEq, Repr

/-- The wording of a lexical fault. -/
def LexicalFault.message : LexicalFault → String
  | .unknownBang => "unknown or missed symbol in markup"
  | .openInstruction =>
    "processing instruction or xml declaration not closed: `?>` not found before end of input"
  | .openComment => "comment not closed: `-->` not found before end of input"
  | .openDoctype => "DOCTYPE not closed: `>` not found before end of input"
  | .openCData => "CDATA not closed: `]]>` not found before end of input"
  | .openTag => "tag not closed: `>` not found before end of input"

/-- The wording of a fault of form. -/
def FormFault.message : FormFault → String
  | .namelessDoctype => "`<!DOCTYPE>` declaration does not contain a name of a document type"
  | .mismatchedEnd expected found =>
    "expected `</" ++ expected ++ ">`, but `</" ++ found ++ ">` was found"
  | .unmatchedEnd found => "close tag `</" ++ found ++ ">` does not match any open tag"

/-- The wording of an attribute fault behind its position. -/
def AttributeFault.message : AttributeFault → String
  | .missingEquals position =>
    "position " ++ toString position ++
      ": attribute key must be directly followed by `=` or space"
  | .missingValue position =>
    "position " ++ toString position ++ ": `=` must be followed by an attribute value"
  | .unquotedValue position =>
    "position " ++ toString position ++ ": attribute value must be enclosed in `\"` or `'`"
  | .missingQuote position quote =>
    "position " ++ toString position ++ ": missing closing quote `" ++ String.singleton quote ++
      "` in attribute value"
  | .repeatedKey position previous =>
    "position " ++ toString position ++ ": duplicated attribute, previous declaration at position " ++
      toString previous

/-- The wording of a number fault. -/
def NumberFault.message : NumberFault → String
  | .sign => "unexpected number sign"
  | .empty => "cannot parse integer from empty string"
  | .invalidDigit => "invalid digit found in string"
  | .tooLarge => "number too large to fit in target type"
  | .noCharacter number => "`" ++ toString number ++ "` is not a valid codepoint"
  | .zero => "0x0 character is not permitted in XML"

/-- The wording of a reference fault. -/
def ReferenceFault.message : ReferenceFault → String
  | .unknownName first last name =>
    "at " ++ toString first ++ ".." ++ toString last ++ ": unrecognized entity `" ++ name ++ "`"
  | .unterminated first last =>
    "Error while escaping character at range " ++ toString first ++ ".." ++ toString last ++
      ": Cannot find ';' after '&'"
  | .number fault => "invalid character reference: " ++ fault.message

/-- The wording of a fault of the tree. -/
def TreeFault.message : TreeFault → String
  | .unclosed tag => "unclosed element <" ++ tag ++ ">"
  | .noRoot => "document has no root element"
  | .secondRoot tag => "second root element <" ++ tag ++ ">"
  | .outsideText => "text outside the root element"

/-- The wording of a fault. -/
def Fault.message : Fault → String
  | .lexical fault => "syntax error: " ++ fault.message
  | .form fault => "ill-formed document: " ++ fault.message
  | .attribute fault => fault.message
  | .reference fault => fault.message
  | .tree fault => fault.message

end GirStubs.Markup
