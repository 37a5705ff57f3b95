import GirStubs.Markup.Document
import GirStubs.Proofs.Markup.Emission
import GirStubs.Proofs.Outcome

/-!
# Where a refusal points

An offset that is reported stands between two characters of the text that is read, and
`Fault.PointsBetween` says between which: in front of the construct that is wrong, behind the piece
that a fault was found in, or at the end. The scanner carries the text that it has read: what
stands before its construct, and what there is of the construct (`Scanner.Behind`). One character
keeps this (`behind_of_step`), and from it every piece of a reading stands in the text where its
offsets say (`fits_run`). The check of end tags and the builder only report offsets of pieces.
-/

namespace GirStubs.Markup

open Text

/-! ## Places in a text -/

/-- Behind markup, or where a run of text ends. -/
def EndsPiece (before behind : List Char) : Prop :=
  before.getLast? = some '>' ∨ behind = [] ∨ behind.head? = some '<'

/-- What stands before and behind the offset of a refusal. A construct that is not complete, or
that must not stand where it does, is pointed at. The tree is wrong at the end of the text, and
every other fault stands in the piece before the offset. -/
def Fault.PointsBetween (before behind : List Char) : Fault → Prop
  | .form .namelessDoctype => behind.head? = some '>'
  | .lexical _ | .form _ => behind.head? = some '<'
  | .attribute _ | .tree (.secondRoot _) => before.getLast? = some '>'
  | .reference _ | .tree .outsideText => EndsPiece before behind
  | .tree (.unclosed _) | .tree .noRoot => behind = []

def Refusal.PointsInto (refusal : Refusal) (text : List Char) : Prop :=
  ∃ before behind, text = before ++ behind ∧ byteSize before = refusal.position ∧
    refusal.fault.PointsBetween before behind

/-- How an event is written, given what stands behind it. -/
def Event.Written (part behind : List Char) : Event → Prop
  | .text raw => part = raw ∧ (behind = [] ∨ behind.head? = some '<')
  | _ => part.head? = some '<' ∧ part.getLast? = some '>'

def Located.StandsIn (piece : Located) (text : List Char) : Prop :=
  ∃ before part behind, text = before ++ (part ++ behind) ∧ byteSize before = piece.start ∧
    byteSize (before ++ part) = piece.stop ∧ piece.event.Written part behind

/-- The offsets of a reading are those of the text. -/
structure Reading.Fits (reading : Reading) (text : List Char) : Prop where
  events : ∀ piece ∈ reading.events, piece.StandsIn text
  position : ∀ position, reading.ending = .ok position → position = byteSize text
  refusal : ∀ refusal, reading.ending = .error refusal → refusal.PointsInto text

theorem fits_of_refusal {text : List Char} {refusal : Refusal} (h : refusal.PointsInto text) :
    Reading.Fits ⟨[], .error refusal⟩ text where
  events := List.forall_mem_nil _
  position := by
    rintro position ⟨⟩
  refusal := by
    rintro _ ⟨⟩
    exact h

theorem Reading.Fits.append {text : List Char} {pieces : List Located} {reading : Reading}
    (h : reading.Fits text) (hpieces : ∀ piece ∈ pieces, piece.StandsIn text) :
    Reading.Fits ⟨pieces ++ reading.events, reading.ending⟩ text where
  events := List.forall_mem_append.mpr ⟨hpieces, h.events⟩
  position := h.position
  refusal := h.refusal

theorem written_iff_of_not_isText {event : Event} (h : ¬ event.IsText) {part behind : List Char} :
    event.Written part behind ↔ part.head? = some '<' ∧ part.getLast? = some '>' := by
  cases event with
  | text raw => exact absurd trivial h
  | _ => exact Iff.rfl

/-! ## The scanner in the text -/

theorem finish_of_markup {s : Scanner} (h : s.state.InMarkup) :
    ∃ fault, s.finish = ⟨[], .error ⟨s.start, .lexical fault⟩⟩ := by
  unfold Scanner.finish
  cases hstate : s.state with
  | text seen =>
    rw [hstate] at h
    exact h.elim
  | _ => exact ⟨_, rfl⟩

/-- What a scanner has read of its construct: all of a run of text, or markup from its bracket
on. -/
def ScanState.Begun (part : List Char) : ScanState → Prop
  | .text seen => part = seen.reverse
  | _ => part.head? = some '<'

theorem begun_iff_of_inMarkup {state : ScanState} (h : state.InMarkup) {part : List Char} :
    state.Begun part ↔ part.head? = some '<' := by
  cases state with
  | text seen => exact h.elim
  | _ => exact Iff.rfl

/-- The scanner stands behind two parts of a text, and its construct starts between them. -/
structure Scanner.Behind (s : Scanner) (before part : List Char) : Prop where
  start : byteSize before = s.start
  position : byteSize (before ++ part) = s.position
  begun : s.state.Begun part

theorem behind_start : Scanner.Behind {} [] [] := ⟨rfl, rfl, rfl⟩

section

variable {s next : Scanner} {c : Char} {before part : List Char} (hs : s.Behind before part)

include hs in
theorem position_concat (c : Char) :
    byteSize (before ++ (part ++ [c])) = s.position + c.utf8Size := by
  rw [← List.append_assoc, byteSize_append, hs.position, byteSize_cons, byteSize_nil, Nat.add_zero]

include hs in
/-- The scanner goes on in its construct. -/
theorem behind_advance {state : ScanState} (hstate : state.Begun (part ++ [c])) :
    (s.advance c state).Behind before (part ++ [c]) :=
  ⟨hs.start, position_concat hs c, hstate⟩

include hs in
/-- The run of text that the scanner has read, where it ends. -/
theorem standsIn_of_textRun {seen behind : List Char} (htext : s.state = .text seen)
    (hbehind : behind = [] ∨ behind.head? = some '<') :
    ∀ found ∈ (s.textRun seen).toList, found.StandsIn (before ++ (part ++ behind)) := by
  have hpart := hs.begun
  rw [htext] at hpart
  unfold Scanner.textRun
  split
  · exact List.forall_mem_nil _
  · exact List.forall_mem_singleton.mpr
      ⟨before, part, behind, rfl, hs.start, hs.position, hpart, hbehind⟩

include hs in
theorem behind_of_step {piece : Option Located} (h : s.step c = .ok (piece, next))
    (rest : List Char) :
    ∃ before' part', before' ++ part' = before ++ (part ++ [c]) ∧ next.Behind before' part' ∧
      ∀ found ∈ piece.toList, found.StandsIn (before ++ (part ++ c :: rest)) := by
  rcases s.state.inMarkup_or_text with hmarkup | ⟨seen, htext⟩
  · have hbegun := (begun_iff_of_inMarkup hmarkup).mp hs.begun
    have hmore : (part ++ [c]).head? = some '<' := List.mem_head?_append_of_mem_head? hbegun
    obtain ⟨move, hallowed, hmove⟩ := movesBy_markup hmarkup c
    have hstep := h.symm.trans (hmove s)
    cases move with
    | advance state =>
      cases hstep
      refine ⟨before, part ++ [c], rfl, ?_, List.forall_mem_nil _⟩
      exact behind_advance hs ((begun_iff_of_inMarkup hallowed).mpr hmore)
    | complete event =>
      obtain ⟨hevent, hc⟩ := hallowed
      cases hstep
      have hstop := position_concat hs c
      refine ⟨before ++ (part ++ [c]), [], List.append_nil _, ⟨hstop, ?_, rfl⟩, ?_⟩
      · rw [List.append_nil]
        exact hstop
      · refine List.forall_mem_singleton.mpr ⟨before, part ++ [c], rest, ?_, hs.start, hstop, ?_⟩
        · rw [List.append_assoc part, List.singleton_append]
        · rw [written_iff_of_not_isText hevent, List.getLast?_concat, hc]
          exact ⟨hc ▸ hmore, rfl⟩
    | unfinished fault => cases hstep
    | nameless => cases hstep
  · by_cases hc : c = '<'
    · subst hc
      cases h.symm.trans (step_bracket htext)
      refine ⟨before ++ part, ['<'], List.append_assoc _ _ _, ⟨hs.position, ?_, rfl⟩, ?_⟩
      · rw [List.append_assoc]
        exact position_concat hs '<'
      · exact standsIn_of_textRun hs htext (Or.inr rfl)
    · cases h.symm.trans (step_text htext hc)
      have hpart := hs.begun
      rw [htext] at hpart
      refine ⟨before, part ++ [c], rfl, ?_, List.forall_mem_nil _⟩
      refine behind_advance hs ?_
      rw [hpart]
      exact List.reverse_cons.symm

include hs in
theorem pointsInto_of_step {refusal : Refusal} (h : s.step c = .error refusal)
    (rest : List Char) : refusal.PointsInto (before ++ (part ++ c :: rest)) := by
  rcases s.state.inMarkup_or_text with hmarkup | ⟨seen, htext⟩
  · have hbegun := (begun_iff_of_inMarkup hmarkup).mp hs.begun
    obtain ⟨move, hallowed, hmove⟩ := movesBy_markup hmarkup c
    have hstep := h.symm.trans (hmove s)
    cases move with
    | advance state => cases hstep
    | complete event => cases hstep
    | unfinished fault =>
      cases hstep
      exact ⟨before, part ++ c :: rest, rfl, hs.start, List.mem_head?_append_of_mem_head? hbegun⟩
    | nameless =>
      cases hstep
      exact ⟨before ++ part, c :: rest, (List.append_assoc _ _ _).symm, hs.position,
        congrArg some hallowed⟩
  · by_cases hc : c = '<'
    · subst hc
      cases h.symm.trans (step_bracket htext)
    · cases h.symm.trans (step_text htext hc)

include hs in
theorem fits_finish : s.finish.Fits (before ++ part) := by
  rcases s.state.inMarkup_or_text with hmarkup | ⟨seen, htext⟩
  · obtain ⟨fault, hfinish⟩ := finish_of_markup hmarkup
    rw [hfinish]
    exact fits_of_refusal ⟨before, part, rfl, hs.start,
      (begun_iff_of_inMarkup hmarkup).mp hs.begun⟩
  · have hfinish : s.finish = ⟨(s.textRun seen).toList, .ok s.position⟩ := by
      simp only [Scanner.finish, htext]
    have hrun := standsIn_of_textRun hs htext (Or.inl rfl)
    rw [List.append_nil] at hrun
    rw [hfinish]
    refine ⟨hrun, ?_, ?_⟩
    · rintro _ ⟨⟩
      exact hs.position.symm
    · rintro _ ⟨⟩

end

theorem Scanner.run_cons (s : Scanner) (c : Char) (rest : List Char) :
    s.run (c :: rest) =
      match s.step c with
      | .error refusal => ⟨[], .error refusal⟩
      | .ok (piece, next) =>
        ⟨piece.toList ++ (next.run rest).events, (next.run rest).ending⟩ := by
  unfold Scanner.run
  rw [Scanner.feed]
  cases s.step c with
  | error refusal => rfl
  | ok taken =>
    obtain ⟨piece, next⟩ := taken
    simp only
    rcases next.feed rest with ⟨pieces, refusal | last⟩
    · rfl
    · simp

theorem fits_run {s : Scanner} {before part : List Char} (hs : s.Behind before part)
    (rest : List Char) : (s.run rest).Fits (before ++ (part ++ rest)) := by
  induction rest generalizing s before part with
  | nil =>
    rw [List.append_nil]
    exact fits_finish hs
  | cons c rest ih =>
    rw [Scanner.run_cons]
    cases hstep : s.step c with
    | error refusal => exact fits_of_refusal (pointsInto_of_step hs hstep rest)
    | ok taken =>
      obtain ⟨piece, next⟩ := taken
      obtain ⟨before', part', hparts, hnext, hpiece⟩ := behind_of_step hs hstep rest
      have hwhole : before' ++ (part' ++ rest) = before ++ (part ++ c :: rest) := by
        rw [← List.append_assoc, hparts, List.append_assoc, List.append_assoc,
          List.singleton_append]
      have hrest := ih hnext
      rw [hwhole] at hrest
      exact hrest.append hpiece

/-! ## End tags -/

theorem pointsBetween_of_openedAfter {opened : List (List Char)} {event : Event}
    {fault : FormFault} {part behind : List Char} (hevent : event.Written part behind)
    (h : openedAfter opened event = .error fault) (before : List Char) :
    Fault.PointsBetween before (part ++ behind) (.form fault) := by
  cases event with
  | endTag name =>
    have hhead : (part ++ behind).head? = some '<' := List.mem_head?_append_of_mem_head? hevent.1
    unfold openedAfter at h
    cases opened with
    | nil =>
      cases h
      exact hhead
    | cons innermost outer =>
      simp only at h
      split at h <;> cases h
      exact hhead
  | _ => cases h

theorem fits_matchTags {text : List Char} {pieces : List Located} {ending : Except Refusal Nat}
    (h : Reading.Fits ⟨pieces, ending⟩ text) (opened : List (List Char)) :
    (matchTags opened pieces ending).Fits text := by
  induction pieces generalizing opened with
  | nil => exact h
  | cons piece rest ih =>
    obtain ⟨hpiece, hrest⟩ := List.forall_mem_cons.mp h.events
    unfold matchTags
    cases hopened : openedAfter opened piece.event with
    | error fault =>
      obtain ⟨before, part, behind, htext, hstart, -, hevent⟩ := hpiece
      exact fits_of_refusal ⟨before, part ++ behind, htext, hstart,
        pointsBetween_of_openedAfter hevent hopened before⟩
    | ok next =>
      have hbehind := ih ⟨hrest, h.position, h.refusal⟩ next
      exact hbehind.append (List.forall_mem_singleton.mpr hpiece)

theorem fits_events (text : List Char) : (events text).Fits text :=
  fits_matchTags (fits_run behind_start text) []

/-! ## The tree -/

section

variable {fault : Fault} {before behind : List Char}

section

variable (hbefore : before.getLast? = some '>')

include hbefore in
theorem pointsBetween_of_closeKey {r : AttributeReader} {start : Nat} {key : List Char}
    (h : r.closeKey start key = .error fault) : fault.PointsBetween before behind := by
  unfold AttributeReader.closeKey at h
  split at h <;> cases h
  exact hbefore

include hbefore in
theorem pointsBetween_of_closeValue {r : AttributeReader} {key value : List Char}
    (h : r.closeValue key value = .error fault) : fault.PointsBetween before behind := by
  unfold AttributeReader.closeValue at h
  split at h
  · cases h
  · split at h <;> cases h
    exact Or.inl hbefore

include hbefore in
theorem pointsBetween_of_attributeStep {r : AttributeReader} {position : Nat} {c : Char}
    (h : r.step position c = .error fault) : fault.PointsBetween before behind := by
  unfold AttributeReader.step at h
  cases hstate : r.state with
  | between =>
    rw [hstate] at h
    cases h
  | key start seen =>
    simp only [hstate] at h
    split at h
    · exact pointsBetween_of_closeKey hbefore h
    · split at h <;> cases h
  | afterKey start key =>
    simp only [hstate] at h
    split at h
    · exact pointsBetween_of_closeKey hbefore h
    · split at h <;> cases h
      exact hbefore
  | beforeValue key =>
    simp only [hstate] at h
    split at h
    · cases h
    · split at h <;> cases h
      exact hbefore
  | value key quote seen =>
    simp only [hstate] at h
    split at h
    · exact pointsBetween_of_closeValue hbefore h
    · cases h

include hbefore in
theorem pointsBetween_of_attributes {r : AttributeReader} {position : Nat} {content : List Char}
    (h : r.run position content = .error fault) : fault.PointsBetween before behind := by
  induction content generalizing r position with
  | nil =>
    unfold AttributeReader.run AttributeReader.finish at h
    split at h
    · cases h
    all_goals
      cases h
      exact hbefore
  | cons c rest ih =>
    unfold AttributeReader.run at h
    cases hstep : r.step position c with
    | error fault' =>
      rw [hstep] at h
      cases h
      exact pointsBetween_of_attributeStep hbefore hstep
    | ok next =>
      rw [hstep] at h
      exact ih h

include hbefore in
theorem pointsBetween_of_ofTag {content : List Char}
    (h : OpenElement.ofTag content = .error fault) : fault.PointsBetween before behind := by
  rcases bind_eq_error_iff.mp h with hattributes | ⟨attributes, -, hopen⟩
  · exact pointsBetween_of_attributes hbefore hattributes
  · cases hopen

include hbefore in
theorem pointsBetween_of_attach {b : Builder} {e : Element} (h : b.attach e = .error fault) :
    fault.PointsBetween before behind := by
  unfold Builder.attach at h
  split at h
  · cases h
  · split at h <;> cases h
    exact hbefore

end

theorem pointsBetween_of_fill {b : Builder} {content : List Char}
    (hends : EndsPiece before behind) (h : b.fill content = .error fault) :
    fault.PointsBetween before behind := by
  unfold Builder.fill at h
  split at h
  · cases h
  · split at h <;> cases h
    exact hends

/-- The builder finds what is wrong with an event behind it. -/
theorem pointsBetween_of_builderStep {b : Builder} {event : Event} {part : List Char}
    (hevent : event.Written part behind) (h : b.step event = .error fault) :
    fault.PointsBetween (before ++ part) behind := by
  have hmarkup : ¬ event.IsText → (before ++ part).getLast? = some '>' := by
    intro htext
    exact List.mem_getLast?_append_of_mem_getLast?
      ((written_iff_of_not_isText htext).mp hevent).2
  cases event with
  | startTag content =>
    rcases bind_eq_error_iff.mp h with htag | ⟨e, -, hopen⟩
    · exact pointsBetween_of_ofTag (hmarkup id) htag
    · cases hopen
  | emptyTag content =>
    rcases bind_eq_error_iff.mp h with htag | ⟨e, -, hattach⟩
    · exact pointsBetween_of_ofTag (hmarkup id) htag
    · exact pointsBetween_of_attach (hmarkup id) hattach
  | endTag name =>
    unfold Builder.step at h
    cases hopened : b.opened with
    | nil =>
      rw [hopened] at h
      cases h
    | cons innermost outer =>
      rw [hopened] at h
      exact pointsBetween_of_attach (hmarkup id) h
  | text raw =>
    cases htext : unescape raw with
    | error cause =>
      rw [Builder.step, htext] at h
      cases h
      exact Or.inr hevent.2
    | ok content =>
      rw [Builder.step, htext] at h
      exact pointsBetween_of_fill (Or.inr hevent.2) h
  | characterData content => exact pointsBetween_of_fill (Or.inl (hmarkup id)) h
  | ignored => cases h

end

section

variable {text : List Char} {refusal : Refusal}

theorem pointsInto_of_builderRun {b : Builder} {pieces : List Located}
    (hpieces : ∀ piece ∈ pieces, piece.StandsIn text) (h : b.run pieces = .error refusal) :
    refusal.PointsInto text := by
  induction pieces generalizing b with
  | nil => cases h
  | cons piece rest ih =>
    obtain ⟨hpiece, hrest⟩ := List.forall_mem_cons.mp hpieces
    unfold Builder.run at h
    cases hstep : b.step piece.event with
    | error fault =>
      rw [hstep] at h
      cases h
      obtain ⟨before, part, behind, htext, -, hstop, hevent⟩ := hpiece
      refine ⟨before ++ part, behind, ?_, hstop, pointsBetween_of_builderStep hevent hstep⟩
      rw [htext, List.append_assoc]
    | ok next =>
      rw [hstep] at h
      exact ih hrest h

theorem pointsInto_of_builderFinish {b : Builder}
    (h : b.finish (byteSize text) = .error refusal) : refusal.PointsInto text := by
  have hend : ∀ {fault : Fault}, fault.PointsBetween text [] →
      Refusal.PointsInto ⟨byteSize text, fault⟩ text :=
    fun hfault => ⟨text, [], (List.append_nil text).symm, rfl, hfault⟩
  unfold Builder.finish at h
  split at h
  · cases h
    exact hend rfl
  · split at h <;> cases h
    exact hend rfl

end

namespace Document

variable {text : String} {refusal : Refusal}

theorem pointsInto_of_parse (h : parse text = .error refusal) :
    refusal.PointsInto (characters text) := by
  have hfits := fits_events (characters text)
  rcases bind_eq_error_iff.mp h with hrun | ⟨b, -, hrest⟩
  · exact pointsInto_of_builderRun hfits.events hrun
  · rcases bind_eq_error_iff.mp hrest with hending | ⟨position, hending, hfinish⟩
    · exact hfits.refusal refusal hending
    · rw [hfits.position position hending] at hfinish
      exact pointsInto_of_builderFinish hfinish

/-- **A refusal points into the document.** Its offset is counted in the text that is read, with
line ends unified and without a byte order mark. It lies in this text, at the boundary of a
character, and where an element is still open or none has come it is the end of the text. -/
theorem position_of_parse_eq_error (h : parse text = .error refusal) :
    let source := String.ofList (characters text)
    refusal.position ≤ source.utf8ByteSize ∧
      String.Pos.Raw.IsValid source ⟨refusal.position⟩ ∧
      ((∃ tag, refusal.fault = .tree (.unclosed tag)) ∨ refusal.fault = .tree .noRoot →
        refusal.position = source.utf8ByteSize) := by
  obtain ⟨before, behind, htext, hsize, hfault⟩ := pointsInto_of_parse h
  have hvalid : String.Pos.Raw.IsValid (String.ofList (characters text)) ⟨refusal.position⟩ :=
    isValid_ofList_iff.mpr ⟨before, behind, htext, hsize⟩
  refine ⟨hvalid.le_utf8ByteSize, hvalid, fun hend => ?_⟩
  have hbehind : behind = [] := by
    rcases hend with ⟨tag, hopen⟩ | hnone
    · rwa [hopen] at hfault
    · rwa [hnone] at hfault
  rw [utf8ByteSize_ofList, htext, hbehind, List.append_nil, hsize]

/-- An open element behind a byte order mark, a line end of two characters, and characters of
several bytes. -/
theorem position_of_parse_eq_error_openEntry :
    let source := "<día>\n<b x='é'/>€"
    parse "\uFEFF<día>\r\n<b x='é'/>€" = .error ⟨21, .tree (.unclosed "día")⟩ ∧
      21 ≤ source.utf8ByteSize ∧ String.Pos.Raw.IsValid source ⟨21⟩ ∧
      21 = source.utf8ByteSize := by
  have hparse : parse "\uFEFF<día>\r\n<b x='é'/>€" = .error ⟨21, .tree (.unclosed "día")⟩ := by
    decide +kernel
  have hsource : String.ofList (characters "\uFEFF<día>\r\n<b x='é'/>€") =
      "<día>\n<b x='é'/>€" := by
    decide +kernel
  have h := position_of_parse_eq_error hparse
  rw [hsource] at h
  exact ⟨hparse, h.1, h.2.1, h.2.2 (Or.inl ⟨_, rfl⟩)⟩

end Document

end GirStubs.Markup
