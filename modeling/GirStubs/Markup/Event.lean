import GirStubs.Markup.Tag

/-! # The pieces of a document

A document is a sequence of pieces: tags, runs of text, sections of character
data, and what has no meaning for the tree. An `Event` is such a piece with its
characters; the functions below it make an event of the characters between two
angle brackets, or tell what is wrong with them.

A `Reading` is what a reader finds in a text: the pieces in order with their
offsets, and either the offset of the end or the fault that stopped the reader.
-/

namespace GirStubs.Markup

/-- A piece of a document, with its characters as written. -/
inductive Event where
  /-- A start tag with its content. -/
  | startTag (content : List Char)
  /-- A tag that is start and end in one, with its content before the slash. -/
  | emptyTag (content : List Char)
  /-- An end tag with its name. -/
  | endTag (name : List Char)
  /-- A run of text between two pieces, never empty, with its references. -/
  | text (raw : List Char)
  /-- A section of character data, which holds no references. -/
  | characterData (content : List Char)
  /-- A comment, instruction, declaration or document type. -/
  | ignored
  deriving DecidableEq, Repr

/-- An event and the byte offsets at which it starts and stops. -/
structure Located where
  event : Event
  start : Nat
  stop : Nat
  deriving DecidableEq, Repr

/-- The outcome of a reading: the pieces in order, and the offset of the end of the text or the
fault behind the last piece. -/
structure Reading where
  events : List Located
  ending : Except Refusal Nat

/-! ## Complete constructs -/

/-- The event of a complete start tag. -/
def startTagEvent (content : List Char) : Event :=
  if content.getLast? = some '/' then .emptyTag content.dropLast else .startTag content

/-- The name in an end tag: its content without the blanks at the end, unless there is nothing
else. -/
def endTagName (content : List Char) : List Char :=
  match (content.reverse.dropWhile isTagBlank).reverse with
  | [] => content
  | name => name

/-- The event of a complete comment. -/
def commentEvent (content : List Char) : Except Fault Event :=
  if "!--".toList.isPrefixOf content then .ok .ignored else .error (.lexical .openComment)

/-- The event of a complete section of character data, given up to its closing brackets. -/
def characterDataEvent (content : List Char) : Except Fault Event :=
  if "![CDATA[".toList.isPrefixOf content then
    .ok (.characterData ((content.drop "![CDATA[".length).dropLast.dropLast))
  else .error (.lexical .openCData)

/-- A document type starts with its word, in any case. -/
def isDoctype (content : List Char) : Bool :=
  "!doctype".toList.isPrefixOf (content.map Char.toLower)

/-- Nothing but blanks follow the word of a document type. -/
def isNamelessDoctype (content : List Char) : Bool :=
  (content.drop "!doctype".length).all isTagBlank

end GirStubs.Markup
