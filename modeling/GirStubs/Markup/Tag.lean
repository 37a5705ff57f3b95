import GirStubs.Markup.Attributes
import GirStubs.Markup.Reference

/-! # Tags

The content of a start tag is a name, up to the first blank, and a list of
attributes. The list is read one character at a time by a small machine:
`AttributeState` is where it stands, `AttributeReader.step` takes a character,
and `AttributeReader.finish` decides whether the tag may end there.

Namespace declarations are read like attributes but not kept, and their values
are not looked into.
-/

namespace GirStubs.Markup

open Text

/-- The characters that separate the parts of a tag. -/
def isTagBlank (c : Char) : Bool := c = ' ' || c = '\t' || c = '\n' || c = '\r'

/-- The name at the start of a tag's content; it may be empty. -/
def tagName (content : List Char) : List Char := content.takeWhile fun c => !isTagBlank c

/-- A key that declares a namespace. -/
def isNamespaceKey (key : List Char) : Bool :=
  key = "xmlns".toList || "xmlns:".toList.isPrefixOf key

/-- Where the reading of an attribute list stands. Characters already seen stand last first. -/
inductive AttributeState where
  /-- Between two attributes. -/
  | between
  /-- In a key that starts at an offset; its first character may be any. -/
  | key (start : Nat) (seen : List Char)
  /-- In the blanks between a key and its equals sign. -/
  | afterKey (start : Nat) (key : List Char)
  /-- Behind an equals sign. -/
  | beforeValue (key : List Char)
  /-- In a value, up to its closing quote. -/
  | value (key : List Char) (quote : Char) (seen : List Char)
  deriving Repr

/-- The reading of an attribute list: where it stands, the keys so far with their offsets, and the
attributes kept so far. -/
structure AttributeReader where
  state : AttributeState := .between
  keys : List (List Char × Nat) := []
  attributes : Attributes := .empty

namespace AttributeReader

/-- The equals sign behind a key has come: the key must be new. -/
def closeKey (r : AttributeReader) (start : Nat) (key : List Char) :
    Except Fault AttributeReader :=
  match r.keys.lookup key with
  | some previous => .error (.attribute (.repeatedKey start previous))
  | none => .ok { r with state := .beforeValue key, keys := (key, start) :: r.keys }

/-- The closing quote of a value has come: the attribute is kept unless it declares a namespace. -/
def closeValue (r : AttributeReader) (key value : List Char) : Except Fault AttributeReader :=
  if isNamespaceKey key then .ok { r with state := .between }
  else
    match unescape value with
    | .error fault => .error (.reference fault)
    | .ok text =>
      .ok { r with
        state := .between
        attributes := r.attributes.set (String.ofList key) (String.ofList text) }

/-- Reads the character at an offset. -/
def step (r : AttributeReader) (position : Nat) (c : Char) : Except Fault AttributeReader :=
  match r.state with
  | .between => .ok (if isTagBlank c then r else { r with state := .key position [c] })
  | .key start seen =>
    if c = '=' then r.closeKey start seen.reverse
    else if isTagBlank c then .ok { r with state := .afterKey start seen.reverse }
    else .ok { r with state := .key start (c :: seen) }
  | .afterKey start key =>
    if c = '=' then r.closeKey start key
    else if isTagBlank c then .ok r
    else .error (.attribute (.missingEquals position))
  | .beforeValue key =>
    if isTagBlank c then .ok r
    else if c = '"' ∨ c = '\'' then .ok { r with state := .value key c [] }
    else .error (.attribute (.unquotedValue position))
  | .value key quote seen =>
    if c = quote then r.closeValue key seen.reverse
    else .ok { r with state := .value key quote (c :: seen) }

/-- The content ends at an offset. -/
def finish (r : AttributeReader) (position : Nat) : Except Fault Attributes :=
  match r.state with
  | .between => .ok r.attributes
  | .key .. | .afterKey .. => .error (.attribute (.missingEquals position))
  | .beforeValue _ => .error (.attribute (.missingValue position))
  | .value _ quote _ => .error (.attribute (.missingQuote position quote))

/-- Reads the rest of the content, which starts at an offset. -/
def run (r : AttributeReader) (position : Nat) : List Char → Except Fault Attributes
  | [] => r.finish position
  | c :: rest =>
    match r.step position c with
    | .error fault => .error fault
    | .ok next => next.run (position + c.utf8Size) rest

end AttributeReader

/-- The attributes in a tag's content, or the first fault in it. -/
def tagAttributes (content : List Char) : Except Fault Attributes :=
  let name := tagName content
  AttributeReader.run {} (byteSize name) (content.drop name.length)

end GirStubs.Markup
