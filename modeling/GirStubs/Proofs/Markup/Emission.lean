import GirStubs.Proofs.Markup.Nesting
import Mathlib.Data.List.Basic

/-!
# The scanner along a text

`Emits` follows the scanner through a part of a text, from where it stands to where it then
stands, and names the events on the way; `Reads` follows it to the end of the text. Neither speaks
of offsets. What the scanner does with a character depends on its state alone (`step_text`,
`step_bracket`, `movesBy_markup`), so that one successful run gives both (`emits_of_feed`,
`reads_of_run`).

Offsets come back in `Scanner.Placed`. In markup the scanner is behind the start of a piece that
it still has to complete (`spanning_of_feed`); in text it is behind as many bytes as it has seen.
-/

namespace GirStubs.Markup

open Text

/-! ## One character -/

def ScanState.InMarkup : ScanState → Prop
  | .text _ => False
  | _ => True

def Event.IsText : Event → Prop
  | .text _ => True
  | _ => False

theorem ScanState.inMarkup_or_text (state : ScanState) :
    state.InMarkup ∨ ∃ seen, state = .text seen := by
  cases state with
  | text seen => exact Or.inr ⟨seen, rfl⟩
  | _ => exact Or.inl trivial

/-- What a character does to a scanner in markup. -/
inductive MarkupMove where
  | advance (next : ScanState)
  | complete (event : Event)
  | unfinished (fault : LexicalFault)
  | nameless

/-- A piece of markup, and a document type without a name, end at a closing bracket. -/
def MarkupMove.Allowed (c : Char) : MarkupMove → Prop
  | .advance next => next.InMarkup
  | .complete event => ¬ event.IsText ∧ c = '>'
  | .unfinished _ => True
  | .nameless => c = '>'

/-- What comes of a move, wherever the scanner is. A construct is refused where it starts. -/
def MarkupMove.outcome (s : Scanner) (c : Char) :
    MarkupMove → Except Refusal (Option Located × Scanner)
  | .advance next => .ok (none, s.advance c next)
  | .complete event => .ok (s.complete c event)
  | .unfinished fault => .error ⟨s.start, .lexical fault⟩
  | .nameless => .error ⟨s.position, .form .namelessDoctype⟩

/-- Every scanner makes the same move. -/
def MovesBy (c : Char) (f : Scanner → Except Refusal (Option Located × Scanner)) : Prop :=
  ∃ move : MarkupMove, move.Allowed c ∧ ∀ s, f s = move.outcome s c

section

variable {c : Char} {f g : Scanner → Except Refusal (Option Located × Scanner)}

theorem MovesBy.advance {next : ScanState} (h : next.InMarkup) :
    MovesBy c fun s => .ok (none, s.advance c next) :=
  ⟨.advance next, h, fun _ => rfl⟩

theorem MovesBy.complete {event : Event} (h : ¬ event.IsText) (hc : c = '>') :
    MovesBy c fun s => .ok (s.complete c event) :=
  ⟨.complete event, ⟨h, hc⟩, fun _ => rfl⟩

theorem MovesBy.unfinished (fault : LexicalFault) :
    MovesBy c fun s => .error ⟨s.start, .lexical fault⟩ :=
  ⟨.unfinished fault, trivial, fun _ => rfl⟩

theorem MovesBy.nameless (hc : c = '>') :
    MovesBy c fun s => .error ⟨s.position, .form .namelessDoctype⟩ :=
  ⟨.nameless, hc, fun _ => rfl⟩

theorem MovesBy.ite {p : Prop} [Decidable p] (hf : p → MovesBy c f) (hg : MovesBy c g) :
    MovesBy c fun s => if p then f s else g s := by
  by_cases hp : p
  · simpa only [if_pos hp] using hf hp
  · simpa only [if_neg hp] using hg

theorem MovesBy.completeIf {result : Except Fault Event} {unfinished : LexicalFault} (hc : c = '>')
    (hevent : ∀ event, result = .ok event → ¬ event.IsText)
    (hfault : ∀ fault, result = .error fault → fault = .lexical unfinished) :
    MovesBy c fun s => s.completeIf c result := by
  cases result with
  | error fault =>
    cases hfault fault rfl
    exact .unfinished unfinished
  | ok event => exact .complete (hevent event rfl) hc

end

theorem not_isText_startTagEvent (content : List Char) : ¬ (startTagEvent content).IsText := by
  unfold startTagEvent
  split <;> exact id

theorem not_isText_of_commentEvent {content : List Char} {event : Event}
    (h : commentEvent content = .ok event) : ¬ event.IsText := by
  unfold commentEvent at h
  split at h <;> cases h
  exact id

theorem not_isText_of_characterDataEvent {content : List Char} {event : Event}
    (h : characterDataEvent content = .ok event) : ¬ event.IsText := by
  unfold characterDataEvent at h
  split at h <;> cases h
  exact id

theorem fault_of_commentEvent {content : List Char} {fault : Fault}
    (h : commentEvent content = .error fault) : fault = .lexical .openComment := by
  unfold commentEvent at h
  split at h <;> cases h
  rfl

theorem fault_of_characterDataEvent {content : List Char} {fault : Fault}
    (h : characterDataEvent content = .error fault) : fault = .lexical .openCData := by
  unfold characterDataEvent at h
  split at h <;> cases h
  rfl

theorem movesBy_markup {state : ScanState} (h : state.InMarkup) (c : Char) :
    MovesBy c fun s => ({ s with state } : Scanner).step c := by
  cases state with
  | text seen => exact h.elim
  | opened =>
    refine .ite (fun _ => .advance trivial) (.ite (fun _ => .advance trivial)
      (.ite (fun _ => .advance trivial) (.ite (fun hc => ?_) (.advance trivial))))
    exact .complete (not_isText_startTagEvent _) hc
  | bang =>
    exact .ite (fun _ => .advance trivial) (.ite (fun _ => .advance trivial)
      (.ite (fun _ => .advance trivial) (.unfinished .unknownBang)))
  | comment seen =>
    refine .ite (fun hc => ?_) (.advance trivial)
    exact .completeIf hc.1 (fun _ => not_isText_of_commentEvent) fun _ => fault_of_commentEvent
  | characterData seen =>
    refine .ite (fun hc => ?_) (.advance trivial)
    exact .completeIf hc.1 (fun _ => not_isText_of_characterDataEvent)
      fun _ => fault_of_characterDataEvent
  | doctype depth seen =>
    refine .ite (fun hc => ?_) (.advance trivial)
    cases depth with
    | succ inner => exact .advance trivial
    | zero =>
      refine .ite (fun _ => .unfinished .openDoctype) (.ite (fun _ => .nameless hc) ?_)
      exact .complete id hc
  | instruction seen =>
    refine .ite (fun hc => ?_) (.advance trivial)
    exact .ite (fun _ => .unfinished .openInstruction) (.complete id hc.1)
  | startTag quote seen =>
    exact .ite (fun hc => .complete (not_isText_startTagEvent _) hc.1) (.advance trivial)
  | endTag quote seen => exact .ite (fun hc => .complete id hc.1) (.advance trivial)

/-- What can happen to a scanner in markup on one character, wherever it is: it moves on in markup,
it completes a piece that is no text, or it stops. -/
def MarkupStep (c : Char) (f : Scanner → Except Refusal (Option Located × Scanner)) : Prop :=
  (∃ next : ScanState, next.InMarkup ∧ ∀ s, f s = .ok (none, s.advance c next)) ∨
  (∃ event : Event, ¬ event.IsText ∧ ∀ s, f s = .ok (s.complete c event)) ∨
  (∀ s, ∃ refusal, f s = .error refusal)

theorem step_markup {state : ScanState} (h : state.InMarkup) (c : Char) :
    MarkupStep c fun s => ({ s with state } : Scanner).step c := by
  obtain ⟨move, hallowed, hmove⟩ := movesBy_markup h c
  cases move with
  | advance next => exact Or.inl ⟨next, hallowed, hmove⟩
  | complete event => exact Or.inr (Or.inl ⟨event, hallowed.1, hmove⟩)
  | unfinished fault => exact Or.inr (Or.inr fun s => ⟨_, hmove s⟩)
  | nameless => exact Or.inr (Or.inr fun s => ⟨_, hmove s⟩)

section

variable {s next : Scanner} {c : Char} {seen : List Char} {piece : Option Located}

theorem step_text (h : s.state = .text seen) (hc : c ≠ '<') :
    s.step c = .ok (none, s.advance c (.text (c :: seen))) := by
  simp only [Scanner.step, h, if_neg hc]

theorem step_bracket (h : s.state = .text seen) :
    s.step '<' = .ok (s.textRun seen,
      { state := .opened, start := s.position, position := s.position + '<'.utf8Size }) := by
  simp only [Scanner.step, h, if_true]

/-- All that a scanner can do on a character. In markup, every scanner in the same state does
likewise. -/
theorem step_cases (h : s.step c = .ok (piece, next)) :
    (∃ seen, s.state = .text seen ∧ c ≠ '<' ∧ piece = none ∧
      next = s.advance c (.text (c :: seen))) ∨
    (∃ seen, s.state = .text seen ∧ c = '<' ∧ piece = s.textRun seen ∧
      next = { state := .opened, start := s.position, position := s.position + c.utf8Size }) ∨
    (∃ state, s.state.InMarkup ∧ state.InMarkup ∧ piece = none ∧ next = s.advance c state ∧
      ∀ other : Scanner, other.state = s.state →
        other.step c = .ok (none, other.advance c state)) ∨
    (∃ event, s.state.InMarkup ∧ ¬ event.IsText ∧ (piece, next) = s.complete c event ∧
      ∀ other : Scanner, other.state = s.state → other.step c = .ok (other.complete c event)) := by
  rcases s.state.inMarkup_or_text with hmarkup | ⟨seen, htext⟩
  · rcases step_markup hmarkup c with ⟨state, hstate, hstep⟩ | ⟨event, hevent, hstep⟩ | hstep
    · refine Or.inr (Or.inr (Or.inl ⟨state, hmarkup, hstate, ?_, ?_, fun other hother => ?_⟩))
      · cases h.symm.trans (hstep s)
        rfl
      · cases h.symm.trans (hstep s)
        rfl
      · rw [← hother] at hstep
        exact hstep other
    · refine Or.inr (Or.inr (Or.inr ⟨event, hmarkup, hevent, ?_, fun other hother => ?_⟩))
      · exact Except.ok.inj (h.symm.trans (hstep s))
      · rw [← hother] at hstep
        exact hstep other
    · obtain ⟨refusal, hrefusal⟩ := hstep s
      cases h.symm.trans hrefusal
  · by_cases hc : c = '<'
    · subst hc
      cases h.symm.trans (step_bracket htext)
      exact Or.inr (Or.inl ⟨seen, htext, rfl, rfl, rfl⟩)
    · cases h.symm.trans (step_text htext hc)
      exact Or.inl ⟨seen, htext, hc, rfl, rfl⟩

theorem feed_text {text : List Char} (hs : s.state = .text seen) (h : '<' ∉ text) :
    s.feed text = ([], .ok ⟨.text (text.reverse ++ seen), s.start, s.position + byteSize text⟩) := by
  induction text generalizing s seen with
  | nil =>
    rw [List.reverse_nil, List.nil_append, ← hs]
    rfl
  | cons c rest ih =>
    rw [List.mem_cons, not_or] at h
    have hrest : (s.advance c (.text (c :: seen))).feed rest = _ := ih rfl h.2
    rw [Scanner.feed, step_text hs (Ne.symm h.1)]
    simp only [hrest]
    simp [Scanner.advance, Nat.add_assoc]

theorem feed_bracket (h : s.state = .text seen) :
    s.feed ['<'] = ((s.textRun seen).toList,
      .ok { state := .opened, start := s.position, position := s.position + '<'.utf8Size }) := by
  rw [Scanner.feed, step_bracket h]
  simp only [Scanner.feed, List.append_nil]

theorem feed_cons_eq_ok {rest : List Char} {pieces : List Located} {last : Scanner}
    (h : s.feed (c :: rest) = (pieces, .ok last)) :
    ∃ piece next more, s.step c = .ok (piece, next) ∧ next.feed rest = (more, .ok last) ∧
      pieces = piece.toList ++ more := by
  rw [Scanner.feed] at h
  cases hstep : s.step c with
  | error refusal =>
    rw [hstep] at h
    cases h
  | ok taken =>
    obtain ⟨piece, next⟩ := taken
    rw [hstep] at h
    cases hfeed : next.feed rest with
    | mk more outcome =>
      simp only [hfeed, Prod.mk.injEq] at h
      obtain ⟨rfl, rfl⟩ := h
      exact ⟨piece, next, more, rfl, hfeed, rfl⟩

end

/-! ## Offsets -/

/-- The offsets of a scanner fit its state. -/
structure Scanner.Placed (s : Scanner) : Prop where
  text : ∀ seen, s.state = .text seen → s.start + byteSize seen = s.position
  markup : s.state.InMarkup → s.start < s.position

theorem placed_start : Scanner.Placed {} where
  text := by
    rintro _ ⟨⟩
    rfl
  markup := False.elim

section

variable {s next last : Scanner} {c : Char} {text : List Char} {pieces : List Located}

theorem placed_of_step {piece : Option Located} (hs : s.Placed)
    (h : s.step c = .ok (piece, next)) :
    next.Placed ∧ next.position = s.position + c.utf8Size := by
  have hsize := Char.utf8Size_pos c
  rcases step_cases h with ⟨seen, htext, -, -, rfl⟩ | ⟨seen, -, -, -, rfl⟩ |
    ⟨state, hmarkup, hstate, -, rfl, -⟩ | ⟨event, -, -, heq, -⟩
  · refine ⟨⟨fun more hmore => ?_, False.elim⟩, rfl⟩
    cases hmore
    have hplace := hs.text seen htext
    simp only [Scanner.advance, byteSize_cons]
    omega
  · refine ⟨⟨fun more hmore => (nomatch hmore), fun _ => ?_⟩, rfl⟩
    simp only
    omega
  · refine ⟨⟨fun more hmore => ?_, fun _ => ?_⟩, rfl⟩
    · subst hmore
      exact hstate.elim
    · have hplace := hs.markup hmarkup
      simp only [Scanner.advance]
      omega
  · cases heq
    refine ⟨⟨fun more hmore => ?_, False.elim⟩, rfl⟩
    cases hmore
    rfl

theorem placed_of_feed (hs : s.Placed) (h : s.feed text = (pieces, .ok last)) :
    last.Placed ∧ last.position = s.position + byteSize text := by
  induction text generalizing s pieces with
  | nil =>
    cases h
    exact ⟨hs, rfl⟩
  | cons c rest ih =>
    obtain ⟨piece, next, more, hstep, hrest, -⟩ := feed_cons_eq_ok h
    obtain ⟨hnext, hposition⟩ := placed_of_step hs hstep
    obtain ⟨hlast, hend⟩ := ih hnext hrest
    refine ⟨hlast, ?_⟩
    rw [hend, hposition, byteSize_cons, Nat.add_assoc]

/-- Markup that is left is a piece around the place where the scanner was in it. -/
theorem spanning_of_feed (hs : s.state.InMarkup) (h : s.feed text = (pieces, .ok last))
    (hlast : ¬ last.state.InMarkup) :
    ∃ piece ∈ pieces, piece.start = s.start ∧ s.position < piece.stop ∧ ¬ piece.event.IsText := by
  induction text generalizing s pieces with
  | nil =>
    cases h
    exact absurd hs hlast
  | cons c rest ih =>
    have hsize := Char.utf8Size_pos c
    obtain ⟨piece, next, more, hstep, hrest, rfl⟩ := feed_cons_eq_ok h
    rcases step_cases hstep with ⟨seen, htext, -⟩ | ⟨seen, htext, -⟩ |
      ⟨state, -, hstate, rfl, rfl, -⟩ | ⟨event, -, hevent, heq, -⟩
    · rw [htext] at hs
      exact hs.elim
    · rw [htext] at hs
      exact hs.elim
    · obtain ⟨found, hmem, hstart, hstop, htext⟩ := ih hstate hrest
      refine ⟨found, List.mem_append_right _ hmem, hstart, ?_, htext⟩
      simp only [Scanner.advance] at hstop
      omega
    · cases heq
      refine ⟨⟨event, s.start, s.position + c.utf8Size⟩, List.mem_append_left _ ?_, rfl, ?_, hevent⟩
      · exact List.mem_singleton.mpr rfl
      · simp only
        omega

end

/-! ## The scanner on a part of a text -/

/-- From one state the scanner comes through the text to another, and completes these events. -/
def Emits (state : ScanState) (text : List Char) (events : List Event) (next : ScanState) : Prop :=
  ∀ start position, ∃ pieces start' position',
    Scanner.feed ⟨state, start, position⟩ text = (pieces, .ok ⟨next, start', position'⟩) ∧
      pieces.map Located.event = events

/-- The event of a run of text that ends here, its characters last first. -/
def runEvents (seen : List Char) : List Event := if seen = [] then [] else [.text seen.reverse]

section

variable {state next last : ScanState} {text first second : List Char} {events more : List Event}

theorem Emits.append (h : Emits state first events next) (h' : Emits next second more last) :
    Emits state (first ++ second) (events ++ more) last := by
  intro start position
  obtain ⟨pieces, start', position', hfirst, rfl⟩ := h start position
  obtain ⟨pieces', start'', position'', hsecond, rfl⟩ := h' start' position'
  refine ⟨pieces ++ pieces', start'', position'', ?_, List.map_append⟩
  rw [Scanner.feed_append, hfirst]
  simp only [hsecond]

theorem emits_nil (state : ScanState) : Emits state [] [] state :=
  fun start position => ⟨[], start, position, rfl, rfl⟩

/-- One character on which the scanner only moves on. -/
theorem emits_advance {c : Char}
    (h : ∀ s : Scanner, s.state = state → s.step c = .ok (none, s.advance c next)) :
    Emits state [c] [] next := by
  intro start position
  refine ⟨[], start, position + c.utf8Size, ?_, rfl⟩
  rw [Scanner.feed, h _ rfl]
  rfl

/-- One character that completes an event. -/
theorem emits_complete {c : Char} {event : Event}
    (h : ∀ s : Scanner, s.state = state → s.step c = .ok (s.complete c event)) :
    Emits state [c] [event] (.text []) := by
  intro start position
  refine ⟨[⟨event, start, position + c.utf8Size⟩], position + c.utf8Size, position + c.utf8Size,
    ?_, rfl⟩
  rw [Scanner.feed, h _ rfl]
  rfl

/-- A text on whose characters the scanner stays in one family of states. -/
theorem emits_loop {g : List Char → ScanState}
    (h : ∀ c ∈ text, ∀ seen, Emits (g seen) [c] [] (g (c :: seen))) (seen : List Char) :
    Emits (g seen) text [] (g (text.reverse ++ seen)) := by
  induction text generalizing seen with
  | nil => exact emits_nil _
  | cons c rest ih =>
    rw [List.forall_mem_cons] at h
    have hrest := ih h.2 (c :: seen)
    rw [List.reverse_cons, List.append_assoc]
    exact (h.1 seen).append hrest

theorem emits_text (h : '<' ∉ text) (seen : List Char) :
    Emits (.text seen) text [] (.text (text.reverse ++ seen)) :=
  fun _ _ => ⟨[], _, _, feed_text rfl h, rfl⟩

theorem textRun_events (s : Scanner) (seen : List Char) :
    (s.textRun seen).toList.map Located.event = runEvents seen := by
  unfold Scanner.textRun runEvents
  split <;> rfl

theorem emits_open (seen : List Char) : Emits (.text seen) ['<'] (runEvents seen) .opened :=
  fun _ _ => ⟨_, _, _, feed_bracket rfl, textRun_events _ seen⟩

theorem emits_of_step {s t : Scanner} {c : Char} {piece : Option Located}
    (h : s.step c = .ok (piece, t)) :
    Emits s.state [c] (piece.toList.map Located.event) t.state := by
  rcases step_cases h with ⟨seen, htext, hc, rfl, rfl⟩ | ⟨seen, htext, rfl, rfl, rfl⟩ |
    ⟨state, -, -, rfl, rfl, hstep⟩ | ⟨event, -, -, heq, hstep⟩
  · rw [htext]
    exact emits_advance fun other hother => step_text hother hc
  · rw [htext, textRun_events]
    exact emits_open seen
  · exact emits_advance hstep
  · cases heq
    exact emits_complete hstep

/-- What one scanner has done, every scanner does from the same state. -/
theorem emits_of_feed {s t : Scanner} {pieces : List Located} (h : s.feed text = (pieces, .ok t)) :
    Emits s.state text (pieces.map Located.event) t.state := by
  induction text generalizing s pieces with
  | nil =>
    cases h
    exact emits_nil _
  | cons c rest ih =>
    obtain ⟨piece, u, more, hstep, hrest, rfl⟩ := feed_cons_eq_ok h
    rw [List.map_append]
    exact (emits_of_step hstep).append (ih hrest)

end

/-! ## The scanner to the end of a text -/

/-- From one state the scanner reads the text to its end, with these events. -/
def Reads (state : ScanState) (text : List Char) (events : List Event) : Prop :=
  ∀ start position, ∃ stop, (Scanner.run ⟨state, start, position⟩ text).ending = .ok stop ∧
    (Scanner.run ⟨state, start, position⟩ text).events.map Located.event = events

theorem run_append {s mid : Scanner} {first : List Char} {pieces : List Located}
    (h : s.feed first = (pieces, .ok mid)) (second : List Char) :
    s.run (first ++ second) = ⟨pieces ++ (mid.run second).events, (mid.run second).ending⟩ := by
  unfold Scanner.run
  rw [Scanner.feed_append, h]
  rcases hfeed : mid.feed second with ⟨more, outcome⟩
  cases outcome <;> simp [hfeed]

theorem exists_feed_of_ending {s : Scanner} {first second : List Char} {stop : Nat}
    (h : (s.run (first ++ second)).ending = .ok stop) :
    ∃ pieces mid, s.feed first = (pieces, .ok mid) := by
  rcases hfeed : s.feed first with ⟨pieces, refusal | mid⟩
  · unfold Scanner.run at h
    rw [Scanner.feed_append, hfeed] at h
    cases h
  · exact ⟨pieces, mid, rfl⟩

/-- A text can only end in text. -/
theorem feed_of_ending {s : Scanner} {text : List Char} {stop : Nat}
    (h : (s.run text).ending = .ok stop) :
    ∃ pieces last seen, s.feed text = (pieces, .ok last) ∧ last.state = .text seen := by
  unfold Scanner.run at h
  rcases hfeed : s.feed text with ⟨pieces, refusal | last⟩
  · rw [hfeed] at h
    cases h
  · simp only [hfeed] at h
    rcases last.state.inMarkup_or_text with hmarkup | ⟨seen, htext⟩
    · unfold Scanner.finish at h
      split at h
      · next hstate =>
        rw [hstate] at hmarkup
        exact hmarkup.elim
      all_goals cases h
    · exact ⟨pieces, last, seen, rfl, htext⟩

section

variable {state next : ScanState} {first second text seen : List Char} {before events : List Event}

/-- The piece of a run of text that the scanner stands in, up to markup or the end. -/
theorem mem_run_of_text {s : Scanner} (hs : s.state = .text seen) (hfirst : '<' ∉ first)
    (hsecond : second = [] ∨ ∃ rest, second = '<' :: rest) (hne : first.reverse ++ seen ≠ []) :
    ⟨.text (seen.reverse ++ first), s.start, s.position + byteSize first⟩ ∈
      (s.run (first ++ second)).events := by
  have htext : seen.reverse ++ first = (first.reverse ++ seen).reverse := by
    rw [List.reverse_append, List.reverse_reverse]
  rw [run_append (feed_text hs hfirst), htext]
  rcases hsecond with rfl | ⟨rest, rfl⟩
  · simp [Scanner.run, Scanner.feed, Scanner.finish, Scanner.textRun, hne]
  · have hopen := run_append (feed_bracket (s := ⟨.text (first.reverse ++ seen), s.start,
      s.position + byteSize first⟩) rfl) rest
    rw [List.singleton_append] at hopen
    rw [hopen, Scanner.textRun, if_neg hne]
    simp

theorem reads_nil (seen : List Char) : Reads (.text seen) [] (runEvents seen) := by
  intro start position
  refine ⟨position, rfl, ?_⟩
  exact textRun_events ⟨.text seen, start, position⟩ seen

theorem Emits.reads (h : Emits state first before next) (h' : Reads next second events) :
    Reads state (first ++ second) (before ++ events) := by
  intro start position
  obtain ⟨pieces, start', position', hfirst, rfl⟩ := h start position
  obtain ⟨stop, hstop, rfl⟩ := h' start' position'
  refine ⟨stop, ?_, ?_⟩
  · rw [run_append hfirst, hstop]
  · rw [run_append hfirst, List.map_append]

/-- What one scanner has read, every scanner reads from the same state. -/
theorem reads_of_run {s : Scanner} {stop : Nat} (h : (s.run text).ending = .ok stop) :
    Reads s.state text ((s.run text).events.map Located.event) := by
  obtain ⟨pieces, last, seen, hfeed, htext⟩ := feed_of_ending h
  have hrest := reads_nil seen
  rw [← htext] at hrest
  have hreads := (emits_of_feed hfeed).reads hrest
  have hrun : s.run text = ⟨pieces ++ (last.textRun seen).toList, .ok last.position⟩ := by
    unfold Scanner.run
    rw [hfeed]
    unfold Scanner.finish
    simp only [htext]
  rwa [hrun, List.map_append, textRun_events, ← List.append_nil text]

theorem Reads.unique {more : List Event} (h : Reads state text events) (h' : Reads state text more) :
    events = more := by
  obtain ⟨_, -, hevents⟩ := h 0 0
  obtain ⟨_, -, hmore⟩ := h' 0 0
  exact hevents.symm.trans hmore

/-- What is left to read behind a part that is read. -/
theorem Reads.cancel (h : Reads state (first ++ second) events)
    (hfirst : Emits state first before next) :
    ∃ more, Reads next second more ∧ events = before ++ more := by
  obtain ⟨stop, hstop, rfl⟩ := h 0 0
  obtain ⟨pieces, start, position, hfeed, rfl⟩ := hfirst 0 0
  rw [run_append hfeed] at hstop ⊢
  exact ⟨_, reads_of_run hstop, List.map_append⟩

/-- Text up to markup, or up to the end, goes into the run of text before it and into nothing
else. -/
theorem Reads.run (hfirst : '<' ∉ first) (hsecond : second = [] ∨ ∃ rest, second = '<' :: rest)
    (h : Reads (.text seen) (first ++ second) events) :
    ∃ more, events = runEvents (first.reverse ++ seen) ++ more ∧ ∀ other,
      Reads (.text other) (first ++ second) (runEvents (first.reverse ++ other) ++ more) := by
  rcases hsecond with rfl | ⟨rest, rfl⟩
  · have hall : ∀ other, Reads (.text other) (first ++ []) (runEvents (first.reverse ++ other)) :=
      fun other => (emits_text hfirst other).reads (reads_nil _)
    refine ⟨[], ?_, fun other => ?_⟩
    · rw [List.append_nil]
      exact h.unique (hall seen)
    · rw [List.append_nil (runEvents _)]
      exact hall other
  · have hopen : ∀ other, Emits (.text other) (first ++ ['<'])
        (runEvents (first.reverse ++ other)) .opened :=
      fun other => (emits_text hfirst other).append (emits_open _)
    rw [List.append_cons] at h ⊢
    obtain ⟨more, hmore, hevents⟩ := h.cancel (hopen seen)
    exact ⟨more, hevents, fun other => (hopen other).reads hmore⟩

end

/-! ## Whole texts -/

section

variable {text : List Char} {closed : List (List Char)} {found : List Event} {stop : Nat}

theorem events_of_reads (h : Reads (.text []) text found) (hnested : Nested [] found closed) :
    ∃ stop, (events text).ending = .ok stop ∧
      (events text).events.map Located.event = found := by
  obtain ⟨stop, hstop, rfl⟩ := h 0 0
  have hevents : events text = scan text := matchTags_of_nested hnested _
  rw [hevents]
  exact ⟨stop, hstop, rfl⟩

theorem events_eq_scan (h : (events text).ending = .ok stop) : events text = scan text :=
  matchTags_of_ending h

/-- Every text starts with a run that ends at markup, or at the end. -/
theorem exists_run (text : List Char) :
    ∃ first second, text = first ++ second ∧ '<' ∉ first ∧
      (second = [] ∨ ∃ rest, second = '<' :: rest) := by
  induction text with
  | nil => exact ⟨[], [], rfl, List.not_mem_nil, Or.inl rfl⟩
  | cons c text ih =>
    by_cases hc : c = '<'
    · exact ⟨[], c :: text, rfl, List.not_mem_nil, Or.inr ⟨text, by rw [hc]⟩⟩
    · obtain ⟨first, second, rfl, hfirst, hsecond⟩ := ih
      refine ⟨c :: first, second, rfl, ?_, hsecond⟩
      rw [List.mem_cons, not_or]
      exact ⟨Ne.symm hc, hfirst⟩

end

end GirStubs.Markup
