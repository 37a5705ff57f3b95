import GirStubs.Proofs.Markup.Emission

/-!
# The characters of the pieces

A piece is made of characters that stand next to each other in the text (`content_isInfix`). What a
scanner has seen of a construct is the end of what it has read, and a character is put behind it or
the construct is done (`Keeps`).
-/

namespace GirStubs.Markup

open Text

/-- The characters of a piece that say something about the tree. -/
def Event.content : Event → List Char
  | .startTag content => content
  | .emptyTag content => content
  | .text raw => raw
  | .characterData content => content
  | .endTag _ => []
  | .ignored => []

/-- The characters of its construct that the scanner has seen, last first. -/
def ScanState.seen : ScanState → List Char
  | .opened => []
  | .bang => ['!']
  | .text seen => seen
  | .comment seen => seen
  | .characterData seen => seen
  | .doctype _ seen => seen
  | .instruction seen => seen
  | .startTag _ seen => seen
  | .endTag _ seen => seen

/-- What the scanner makes of a character: it puts it to those it has seen or forgets them, and a
piece that it completes is made of those. -/
def Keeps (seen : List Char) (c : Char) (outcome : Option Located × Scanner) : Prop :=
  (outcome.2.state.seen = [] ∨ outcome.2.state.seen = c :: seen) ∧
    ∀ piece ∈ outcome.1, piece.event.content <:+: seen.reverse

/-! ## One character -/

section Step

variable {s : Scanner} {c : Char} {seen : List Char} {outcome : Option Located × Scanner}

theorem keeps_advance {state : ScanState} (h : state.seen = [] ∨ state.seen = c :: seen) :
    Keeps seen c (none, s.advance c state) :=
  ⟨h, by simp⟩

theorem keeps_complete {event : Event} (h : event.content <:+: seen.reverse) :
    Keeps seen c (s.complete c event) := by
  refine ⟨Or.inl rfl, fun piece hpiece => ?_⟩
  cases hpiece
  exact h

theorem keeps_completeIf {result : Except Fault Event}
    (h : ∀ event, result = .ok event → event.content <:+: seen.reverse)
    (hstep : s.completeIf c result = .ok outcome) : Keeps seen c outcome := by
  cases result with
  | error fault => cases hstep
  | ok event =>
    cases hstep
    exact keeps_complete (h event rfl)

theorem content_startTagEvent (content : List Char) :
    (startTagEvent content).content <:+: content := by
  unfold startTagEvent
  split
  · exact (List.dropLast_prefix content).isInfix
  · exact List.infix_refl content

theorem content_of_commentEvent {content : List Char} {event : Event}
    (h : commentEvent content = .ok event) : event.content <:+: content := by
  unfold commentEvent at h
  split at h <;> cases h
  exact List.nil_infix

theorem content_of_characterDataEvent {content : List Char} {event : Event}
    (h : characterDataEvent content = .ok event) : event.content <:+: content := by
  unfold characterDataEvent at h
  split at h <;> cases h
  have hlast := List.dropLast_prefix (content.drop "![CDATA[".length)
  have hboth := (List.dropLast_prefix _).trans hlast
  exact hboth.isInfix.trans (List.drop_suffix _ content).isInfix

theorem content_of_textRun (s : Scanner) (seen : List Char) :
    ∀ piece ∈ s.textRun seen, piece.event.content <:+: seen.reverse := by
  intro piece hpiece
  unfold Scanner.textRun at hpiece
  split at hpiece <;> cases hpiece
  exact List.infix_refl _

theorem keeps_of_stepDoctype {depth : Nat} (h : s.stepDoctype depth seen c = .ok outcome) :
    Keeps seen c outcome := by
  unfold Scanner.stepDoctype at h
  split at h
  · split at h
    · cases h
      exact keeps_advance (Or.inr rfl)
    · split at h
      · cases h
      · split at h <;> cases h
        exact keeps_complete List.nil_infix
  · cases h
    exact keeps_advance (Or.inr rfl)

theorem keeps_of_stepOpened (h : s.stepOpened c = .ok outcome) : Keeps [] c outcome := by
  unfold Scanner.stepOpened at h
  split at h
  · next hbang =>
    cases h
    exact keeps_advance (Or.inr (congrArg ([·]) hbang.symm))
  split at h
  · cases h
    exact keeps_advance (Or.inr rfl)
  split at h
  · cases h
    exact keeps_advance (Or.inl rfl)
  split at h <;> cases h
  · exact keeps_complete (content_startTagEvent [])
  · exact keeps_advance (Or.inr rfl)

theorem keeps_of_stepBang (h : s.stepBang c = .ok outcome) : Keeps ['!'] c outcome := by
  unfold Scanner.stepBang at h
  split at h
  · cases h
    exact keeps_advance (Or.inr rfl)
  split at h
  · cases h
    exact keeps_advance (Or.inr rfl)
  split at h <;> cases h
  exact keeps_advance (Or.inr rfl)

theorem keeps_of_step (h : s.step c = .ok outcome) : Keeps s.state.seen c outcome := by
  unfold Scanner.step at h
  cases hstate : s.state with
  | text seen =>
    simp only [hstate] at h
    split at h <;> cases h
    · exact ⟨Or.inl rfl, content_of_textRun s seen⟩
    · exact keeps_advance (Or.inr rfl)
  | opened =>
    simp only [hstate] at h
    exact keeps_of_stepOpened h
  | bang =>
    simp only [hstate] at h
    exact keeps_of_stepBang h
  | comment seen =>
    simp only [hstate] at h
    split at h
    · exact keeps_completeIf (fun event => content_of_commentEvent) h
    · cases h
      exact keeps_advance (Or.inr rfl)
  | characterData seen =>
    simp only [hstate] at h
    split at h
    · exact keeps_completeIf (fun event => content_of_characterDataEvent) h
    · cases h
      exact keeps_advance (Or.inr rfl)
  | doctype depth seen =>
    simp only [hstate] at h
    exact keeps_of_stepDoctype h
  | instruction seen =>
    simp only [hstate] at h
    split at h
    · split at h <;> cases h
      exact keeps_complete List.nil_infix
    · cases h
      exact keeps_advance (Or.inr rfl)
  | startTag quote seen =>
    simp only [hstate] at h
    split at h <;> cases h
    · exact keeps_complete (content_startTagEvent _)
    · exact keeps_advance (Or.inr rfl)
  | endTag quote seen =>
    simp only [hstate] at h
    split at h <;> cases h
    · exact keeps_complete List.nil_infix
    · exact keeps_advance (Or.inr rfl)

end Step

/-! ## Whole texts -/

section Feed

variable {s last : Scanner} {text before : List Char} {pieces : List Located}

theorem content_of_feed (hseen : s.state.seen.reverse <:+ before)
    (h : s.feed text = (pieces, .ok last)) :
    (∀ piece ∈ pieces, piece.event.content <:+: before ++ text) ∧
      last.state.seen.reverse <:+ before ++ text := by
  -- The invariant is that what the scanner holds is the end of what it has read.
  induction text generalizing s before pieces with
  | nil =>
    cases h
    rw [List.append_nil]
    exact ⟨List.forall_mem_nil _, hseen⟩
  | cons c rest ih =>
    obtain ⟨piece, next, more, hstep, hrest, rfl⟩ := feed_cons_eq_ok h
    obtain ⟨hnext, hpiece⟩ := keeps_of_step hstep
    have hread : next.state.seen.reverse <:+ before ++ [c] := by
      obtain hnext | hnext := hnext
      · rw [hnext]
        exact List.nil_suffix
      · obtain ⟨front, rfl⟩ := hseen
        exact ⟨front, by simp [hnext]⟩
    obtain ⟨hmore, hlast⟩ := ih hread hrest
    rw [List.append_assoc, List.singleton_append] at hmore hlast
    refine ⟨List.forall_mem_append.mpr ⟨fun found hfound => ?_, hmore⟩, hlast⟩
    have hbefore := (hpiece found (Option.mem_toList.mp hfound)).trans hseen.isInfix
    exact hbefore.trans (List.prefix_append before (c :: rest)).isInfix

theorem content_of_finish (s : Scanner) :
    ∀ piece ∈ s.finish.events, piece.event.content <:+: s.state.seen.reverse := by
  unfold Scanner.finish
  split
  · next seen hstate =>
    rw [hstate]
    exact fun piece hpiece => content_of_textRun s seen piece (Option.mem_toList.mp hpiece)
  all_goals exact List.forall_mem_nil _

/-- **The characters of a piece stand in the text.** -/
theorem content_isInfix {text : List Char} {stop : Nat} (h : (events text).ending = .ok stop) :
    ∀ piece ∈ (events text).events, piece.event.content <:+: text := by
  have hscan := events_eq_scan h
  rw [hscan] at h ⊢
  obtain ⟨pieces, last, seen, hfeed, -⟩ := feed_of_ending h
  have hstart : ({} : Scanner).state.seen.reverse <:+ [] := List.nil_suffix
  obtain ⟨hpieces, hlast⟩ := content_of_feed hstart hfeed
  have hevents : (scan text).events = pieces ++ last.finish.events := by
    rw [scan, Scanner.run, hfeed]
  rw [hevents]
  refine List.forall_mem_append.mpr ⟨hpieces, fun piece hpiece => ?_⟩
  exact (content_of_finish last piece hpiece).trans hlast.isInfix

end Feed

end GirStubs.Markup
