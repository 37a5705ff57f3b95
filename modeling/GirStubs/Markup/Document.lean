import GirStubs.Markup.Element
import GirStubs.Markup.Nesting
import GirStubs.Text.Blank
import GirStubs.Text.LineEnd

/-! # From events to a tree

`Builder` holds the elements that are open and the finished root. Each event
opens, closes or fills an element, and the end of the text must find one root
and nothing open. `Document.parse` is the whole way from a text to its tree.
-/

namespace GirStubs.Markup

open Text

/-- An element whose end tag has not come. -/
structure OpenElement where
  tag : String
  attributes : Attributes
  /-- The text before the first child. -/
  text : Option String := none
  /-- The children that are finished, last first. -/
  finished : List Element := []

namespace OpenElement

/-- The element that a tag opens. -/
def ofTag (content : List Char) : Except Fault OpenElement := do
  let attributes ← tagAttributes content
  return { tag := String.ofList (tagName content), attributes }

/-- The element as it stands when its end tag comes. -/
def close (e : OpenElement) : Element := ⟨e.tag, e.attributes, e.text, e.finished.reverse⟩

/-- The element with one more child. -/
def addChild (e : OpenElement) (child : Element) : OpenElement :=
  { e with finished := child :: e.finished }

/-- The element with more text, unless a child has come before. -/
def addText (e : OpenElement) (text : List Char) : OpenElement :=
  if e.finished.isEmpty then { e with text := some (e.text.getD "" ++ String.ofList text) } else e

end OpenElement

/-- A tree under construction. -/
structure Builder where
  /-- The open elements, innermost first. -/
  opened : List OpenElement := []
  /-- The root element, once it is finished. -/
  root : Option Element := none

namespace Builder

/-- The builder with a finished element below its innermost open one, or as its root. -/
def attach (b : Builder) (e : Element) : Except Fault Builder :=
  match b.opened with
  | parent :: outer => .ok { b with opened := parent.addChild e :: outer }
  | [] =>
    match b.root with
    | some _ => .error (.tree (.secondRoot e.tag))
    | none => .ok { b with root := some e }

/-- Adds text where the builder stands. Around the root only white space may stand. -/
def fill (b : Builder) (text : List Char) : Except Fault Builder :=
  match b.opened with
  | innermost :: outer => .ok { b with opened := innermost.addText text :: outer }
  | [] => if isBlank text then .ok b else .error (.tree .outsideText)

/-- Takes one event. -/
def step (b : Builder) (event : Event) : Except Fault Builder :=
  match event with
  | .startTag content => do
    let e ← OpenElement.ofTag content
    return { b with opened := e :: b.opened }
  | .emptyTag content => do
    let e ← OpenElement.ofTag content
    b.attach e.close
  | .endTag _ =>
    match b.opened with
    | innermost :: outer => { b with opened := outer }.attach innermost.close
    | [] => .ok b
  | .text raw =>
    match unescape raw with
    | .ok text => b.fill text
    | .error fault => .error (.reference fault)
  | .characterData content => b.fill content
  | .ignored => .ok b

/-- Takes the events of a reading. A fault is reported behind the event that shows it. -/
def run (b : Builder) : List Located → Except Refusal Builder
  | [] => .ok b
  | piece :: rest =>
    match b.step piece.event with
    | .error fault => .error ⟨piece.stop, fault⟩
    | .ok next => next.run rest

/-- The tree, when the text ends at an offset. -/
def finish (b : Builder) (position : Nat) : Except Refusal Element :=
  match b.opened with
  | innermost :: _ => .error ⟨position, .tree (.unclosed innermost.tag)⟩
  | [] =>
    match b.root with
    | some root => .ok root
    | none => .error ⟨position, .tree .noRoot⟩

end Builder

namespace Document

/-- The mark that may stand before a text and is no part of it. -/
def byteOrderMark : Char := '\uFEFF'

/-- The characters that are read: line ends are unified, and a byte order mark is dropped. -/
def characters (text : String) : List Char :=
  match unifyLineEnds text.toList with
  | [] => []
  | c :: rest => if c = byteOrderMark then rest else c :: rest

/-- The tree of a reading. -/
def ofReading (reading : Reading) : Except Refusal Element := do
  let builder ← Builder.run {} reading.events
  let position ← reading.ending
  builder.finish position

/-- The tree of a document, or why it is refused. -/
def parse (text : String) : Except Refusal Element := ofReading (events (characters text))

end Document

end GirStubs.Markup
