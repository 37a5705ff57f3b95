import GirStubs.Markup.Scanner

/-! # End tags and start tags

An end tag must name the innermost element that is open. `matchTags` keeps the
pieces up to the first end tag that does not; `events` reads a text and holds its
end tags against its start tags.
-/

namespace GirStubs.Markup

/-- The names of the open elements behind an event, innermost first, or what is wrong with the
event where `opened` are open before it. -/
def openedAfter (opened : List (List Char)) : Event → Except FormFault (List (List Char))
  | .startTag content => .ok (tagName content :: opened)
  | .endTag name =>
    match opened with
    | [] => .error (.unmatchedEnd (String.ofList name))
    | innermost :: outer =>
      if innermost = name then .ok outer
      else .error (.mismatchedEnd (String.ofList innermost) (String.ofList name))
  | _ => .ok opened

/-- The pieces up to the first end tag that must not stand where it does, given the names of the
elements that are open before them. -/
def matchTags (opened : List (List Char)) : List Located → Except Refusal Nat → Reading
  | [], ending => ⟨[], ending⟩
  | piece :: rest, ending =>
    match openedAfter opened piece.event with
    | .error fault => ⟨[], .error ⟨piece.start, .form fault⟩⟩
    | .ok next =>
      let reading := matchTags next rest ending
      ⟨piece :: reading.events, reading.ending⟩

/-- The events of a text, up to its end or its first fault of form. -/
def events (text : List Char) : Reading :=
  let reading := scan text
  matchTags [] reading.events reading.ending

end GirStubs.Markup
