import GirStubs.Markup.Event

/-! # Reading the pieces of a document

A machine takes a text one character at a time. `ScanState` is where it stands,
`Scanner.step` takes a character and may complete one piece, and `Scanner.finish`
decides what the end of the text means. A text can be read in parts
(`Scanner.feed_append`).

A construct ends at the first angle bracket that can close it: outside quotes in
a tag, behind two hyphens in a comment, behind two brackets in character data,
behind a question mark in an instruction, and at the bracket that balances the
first one in a document type.
-/

namespace GirStubs.Markup

open Text

/-- Where the reader stands between two characters. Characters of the construct already seen stand
last first. -/
inductive ScanState where
  /-- In a run of text, possibly an empty one. -/
  | text (seen : List Char)
  /-- Behind an opening angle bracket. -/
  | opened
  /-- Behind the exclamation mark of a comment, section or document type. -/
  | bang
  /-- In a comment. -/
  | comment (seen : List Char)
  /-- In a section of character data. -/
  | characterData (seen : List Char)
  /-- In a document type, inside so many further angle brackets. -/
  | doctype (depth : Nat) (seen : List Char)
  /-- In an instruction or declaration. -/
  | instruction (seen : List Char)
  /-- In a start tag, inside a quote or not. -/
  | startTag (quote : Option Char) (seen : List Char)
  /-- In an end tag, inside a quote or not. -/
  | endTag (quote : Option Char) (seen : List Char)
  deriving Repr

/-- The reader: where it stands, the offset at which its construct started, and the offset it has
reached. -/
structure Scanner where
  state : ScanState := .text []
  start : Nat := 0
  position : Nat := 0

/-- The quote that is open behind a character of a tag. -/
def quoteAfter (quote : Option Char) (c : Char) : Option Char :=
  match quote with
  | some q => if c = q then none else some q
  | none => if c = '"' ∨ c = '\'' then some c else none

namespace Scanner

/-- The reader one character further, in another state. -/
def advance (s : Scanner) (c : Char) (state : ScanState) : Scanner :=
  { s with state, position := s.position + c.utf8Size }

/-- The reader behind the last character of a piece, with that piece. -/
def complete (s : Scanner) (c : Char) (event : Event) : Option Located × Scanner :=
  let stop := s.position + c.utf8Size
  (some ⟨event, s.start, stop⟩, { state := .text [], start := stop, position := stop })

/-- The reader behind the last character of a piece that may be faulty. -/
def completeIf (s : Scanner) (c : Char) (event : Except Fault Event) :
    Except Refusal (Option Located × Scanner) :=
  match event with
  | .ok event => .ok (s.complete c event)
  | .error fault => .error ⟨s.start, fault⟩

/-- The run of text that ends where the reader stands, unless it is empty. -/
def textRun (s : Scanner) (seen : List Char) : Option Located :=
  if seen = [] then none else some ⟨.text seen.reverse, s.start, s.position⟩

/-- Reads the character behind an exclamation mark. -/
def stepBang (s : Scanner) (c : Char) : Except Refusal (Option Located × Scanner) :=
  if c = '[' then .ok (none, s.advance c (.characterData [c, '!']))
  else if c = '-' then .ok (none, s.advance c (.comment [c, '!']))
  else if c = 'D' ∨ c = 'd' then .ok (none, s.advance c (.doctype 0 [c, '!']))
  else .error ⟨s.start, .lexical .unknownBang⟩

/-- Reads the character behind an opening angle bracket. -/
def stepOpened (s : Scanner) (c : Char) : Except Refusal (Option Located × Scanner) :=
  if c = '!' then .ok (none, s.advance c .bang)
  else if c = '?' then .ok (none, s.advance c (.instruction [c]))
  else if c = '/' then .ok (none, s.advance c (.endTag none []))
  else if c = '>' then .ok (s.complete c (startTagEvent []))
  else .ok (none, s.advance c (.startTag (quoteAfter none c) [c]))

/-- Reads a character of a document type. -/
def stepDoctype (s : Scanner) (depth : Nat) (seen : List Char) (c : Char) :
    Except Refusal (Option Located × Scanner) :=
  if c = '>' then
    match depth with
    | inner + 1 => .ok (none, s.advance c (.doctype inner (c :: seen)))
    | 0 =>
      if !isDoctype seen.reverse then .error ⟨s.start, .lexical .openDoctype⟩
      else if isNamelessDoctype seen.reverse then .error ⟨s.position, .form .namelessDoctype⟩
      else .ok (s.complete c .ignored)
  else .ok (none, s.advance c (.doctype (if c = '<' then depth + 1 else depth) (c :: seen)))

/-- Reads one character. -/
def step (s : Scanner) (c : Char) : Except Refusal (Option Located × Scanner) :=
  match s.state with
  | .text seen =>
    if c = '<' then
      .ok (s.textRun seen,
        { state := .opened, start := s.position, position := s.position + c.utf8Size })
    else .ok (none, s.advance c (.text (c :: seen)))
  | .opened => s.stepOpened c
  | .bang => s.stepBang c
  | .comment seen =>
    if c = '>' ∧ ['-', '-'].isPrefixOf seen ∧ 4 < seen.length then
      s.completeIf c (commentEvent seen.reverse)
    else .ok (none, s.advance c (.comment (c :: seen)))
  | .characterData seen =>
    if c = '>' ∧ [']', ']'].isPrefixOf seen then s.completeIf c (characterDataEvent seen.reverse)
    else .ok (none, s.advance c (.characterData (c :: seen)))
  | .doctype depth seen => s.stepDoctype depth seen c
  | .instruction seen =>
    if c = '>' ∧ seen.head? = some '?' then
      if seen.length = 1 then .error ⟨s.start, .lexical .openInstruction⟩
      else .ok (s.complete c .ignored)
    else .ok (none, s.advance c (.instruction (c :: seen)))
  | .startTag quote seen =>
    if c = '>' ∧ quote = none then .ok (s.complete c (startTagEvent seen.reverse))
    else .ok (none, s.advance c (.startTag (quoteAfter quote c) (c :: seen)))
  | .endTag quote seen =>
    if c = '>' ∧ quote = none then .ok (s.complete c (.endTag (endTagName seen.reverse)))
    else .ok (none, s.advance c (.endTag (quoteAfter quote c) (c :: seen)))

/-- The text ends where the reader stands. -/
def finish (s : Scanner) : Reading :=
  match s.state with
  | .text seen => ⟨(s.textRun seen).toList, .ok s.position⟩
  | .opened => ⟨[], .error ⟨s.start, .lexical .openTag⟩⟩
  | .bang => ⟨[], .error ⟨s.start, .lexical .unknownBang⟩⟩
  | .comment _ => ⟨[], .error ⟨s.start, .lexical .openComment⟩⟩
  | .characterData _ => ⟨[], .error ⟨s.start, .lexical .openCData⟩⟩
  | .doctype .. => ⟨[], .error ⟨s.start, .lexical .openDoctype⟩⟩
  | .instruction _ => ⟨[], .error ⟨s.start, .lexical .openInstruction⟩⟩
  | .startTag .. | .endTag .. => ⟨[], .error ⟨s.start, .lexical .openTag⟩⟩

/-- Reads some characters: the pieces that they complete, and the reader behind them or the fault
that stopped it. -/
def feed (s : Scanner) : List Char → List Located × Except Refusal Scanner
  | [] => ([], .ok s)
  | c :: rest =>
    match s.step c with
    | .error refusal => ([], .error refusal)
    | .ok (piece, next) =>
      let (pieces, outcome) := next.feed rest
      (piece.toList ++ pieces, outcome)

/-- Reads the rest of a text, to its end. -/
def run (s : Scanner) (text : List Char) : Reading :=
  match s.feed text with
  | (pieces, .error refusal) => ⟨pieces, .error refusal⟩
  | (pieces, .ok last) => ⟨pieces ++ last.finish.events, last.finish.ending⟩

/-- A text can be read in two parts. -/
theorem feed_append (s : Scanner) (first second : List Char) :
    s.feed (first ++ second) =
      match s.feed first with
      | (pieces, .error refusal) => (pieces, .error refusal)
      | (pieces, .ok next) => (pieces ++ (next.feed second).1, (next.feed second).2) := by
  induction first generalizing s with
  | nil => simp [feed]
  | cons c rest ih =>
    rw [List.cons_append, feed, feed]
    cases s.step c with
    | error refusal => rfl
    | ok taken =>
      obtain ⟨piece, next⟩ := taken
      simp only [ih next]
      rcases next.feed rest with ⟨pieces, outcome⟩
      cases outcome <;> simp

end Scanner

/-- The pieces of a text, before end tags are held against start tags. -/
def scan (text : List Char) : Reading := Scanner.run {} text

end GirStubs.Markup
