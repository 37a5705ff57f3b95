import GirStubs.Proofs.Markup.Builder
import GirStubs.Proofs.Markup.Emission
import GirStubs.Proofs.Markup.Reference
import GirStubs.Proofs.Text.LineEnd

/-!
# Comments between pieces and inside text

A comment may be put in front of a document, behind it, between two of its pieces, or into a run
of text where no reference is open (`CutOutside`). To the scanner, it ends the run that it stands
in and starts another, with one piece of no meaning between them (`reads_comment`). The two parts
of the run say what the whole run said (`tokens_comment`): references are read part by part
(`Unescaped.split`), and so is the text of an element or the white space around the root
(`Builder.fill_append`). The tree is the same (`Document.parse_comment`).
-/

namespace GirStubs.Markup

open Text

/-! ## Where a comment may stand -/

/-- A piece around an offset is a run of text, and its part before the offset leaves no reference
open. -/
def OpenAt (offset : Nat) (piece : Located) : Prop :=
  piece.start < offset → offset < piece.stop →
    ∃ before behind, piece.event = .text (before ++ behind) ∧
      piece.start + byteSize before = offset ∧ EndsReferences before

/-- The place between two texts lies outside all markup of the whole and outside its references. -/
def CutOutside (first second : List Char) : Prop :=
  ∀ piece ∈ (events (first ++ second)).events, OpenAt (byteSize first) piece

section

variable {mid : Scanner} {second : List Char} {stop : Nat} (hmid : mid.Placed)
  (hcut : ∀ piece ∈ (mid.run second).events, OpenAt mid.position piece)

include hmid hcut in
theorem text_of_cut (h : (mid.run second).ending = .ok stop) :
    ∃ seen, mid.state = .text seen := by
  rcases mid.state.inMarkup_or_text with hmarkup | htext
  · obtain ⟨pieces, last, seen, hfeed, hlast⟩ := feed_of_ending h
    have hout : ¬ last.state.InMarkup := by
      rw [hlast]
      exact id
    obtain ⟨piece, hmem, hstart, hstop, hevent⟩ := spanning_of_feed hmarkup hfeed hout
    have hpiece : piece ∈ (mid.run second).events := by
      unfold Scanner.run
      rw [hfeed]
      exact List.mem_append_left _ hmem
    have hbefore : piece.start < mid.position := hstart ▸ hmid.markup hmarkup
    obtain ⟨before, behind, htext, -⟩ := hcut piece hpiece hbefore hstop
    rw [htext] at hevent
    exact absurd trivial hevent
  · exact htext

include hmid hcut in
/-- Where text stands on both sides, the part before the place is whole references. -/
theorem endsReferences_of_cut {seen run tail : List Char} (hseen : mid.state = .text seen)
    (hsecond : second = run ++ tail) (hrun : '<' ∉ run)
    (htail : tail = [] ∨ ∃ rest, tail = '<' :: rest) (hbefore : seen ≠ []) (hbehind : run ≠ []) :
    EndsReferences seen.reverse := by
  have hne : run.reverse ++ seen ≠ [] := fun heq => hbefore (List.append_eq_nil_iff.mp heq).2
  have hmem := mem_run_of_text hseen hrun htail hne
  rw [← hsecond] at hmem
  have hplace := hmid.text seen hseen
  have hseenSize : byteSize seen ≠ 0 := fun heq => hbefore (byteSize_eq_zero heq)
  have hrunSize : byteSize run ≠ 0 := fun heq => hbehind (byteSize_eq_zero heq)
  have hstart : mid.start < mid.position := by omega
  have hstop : mid.position < mid.position + byteSize run := by omega
  obtain ⟨before, behind, htext, hsize, hends⟩ := hcut _ hmem hstart hstop
  have hsplit : seen.reverse ++ run = before ++ behind := Event.text.inj htext
  have heq : seen.reverse = before := eq_of_byteSize_eq hsplit (by
    rw [byteSize_reverse]
    simp only at hsize
    omega)
  rwa [heq]

end

/-! ## Scanning a comment -/

/-- A comment with its marks. -/
def writeComment (comment : List Char) : List Char :=
  '<' :: '!' :: '-' :: '-' :: (comment ++ ['-', '-', '>'])

theorem emits_comment {comment : List Char} (h : '>' ∉ comment) (seen : List Char) :
    Emits (.text seen) (writeComment comment) (runEvents seen ++ [.ignored]) (.text []) := by
  have hbang : Emits .opened ['!'] [] .bang := emits_advance fun s hs => by
    simp [Scanner.step, hs, Scanner.stepOpened]
  have hhyphen : Emits .bang ['-'] [] (.comment ['-', '!']) := emits_advance fun s hs => by
    simp [Scanner.step, hs, Scanner.stepBang]
  have hinside : ∀ c ∈ '-' :: (comment ++ ['-', '-']), ∀ seen,
      Emits (.comment seen) [c] [] (.comment (c :: seen)) := by
    intro c hc seen
    have hne : c ≠ '>' := by
      rintro rfl
      simp [h] at hc
    exact emits_advance fun s hs => by simp [Scanner.step, hs, hne]
  have hend : Emits (.comment (('-' :: (comment ++ ['-', '-'])).reverse ++ ['-', '!'])) ['>']
      [.ignored] (.text []) := by
    refine emits_complete fun s hs => ?_
    simp [Scanner.step, hs, Scanner.completeIf, commentEvent]
  have hmarks := (emits_open seen).append (hbang.append hhyphen)
  have hall := hmarks.append ((emits_loop hinside _).append hend)
  simpa [writeComment] using hall

/-- The events of a run of text with a comment in it. -/
def cutRun (seen run : List Char) : List Event :=
  runEvents seen ++ .ignored :: runEvents run.reverse

theorem reads_comment {first second comment : List Char} {stop : Nat}
    (hcut : CutOutside first second) (hcomment : '>' ∉ comment)
    (h : (events (first ++ second)).ending = .ok stop) :
    ∃ before seen run more, (seen ≠ [] → run ≠ [] → EndsReferences seen.reverse) ∧
      (events (first ++ second)).events.map Located.event =
        before ++ (runEvents (run.reverse ++ seen) ++ more) ∧
      Reads (.text []) (first ++ (writeComment comment ++ second))
        (before ++ (cutRun seen run ++ more)) := by
  unfold CutOutside at hcut
  have hscan := events_eq_scan h
  rw [hscan] at h hcut ⊢
  obtain ⟨pieces, mid, hfirst⟩ := exists_feed_of_ending h
  have hrun : scan (first ++ second) = _ := run_append hfirst second
  rw [hrun] at h hcut ⊢
  obtain ⟨hmid, hposition⟩ := placed_of_feed placed_start hfirst
  have hsize : byteSize first = mid.position := by rw [hposition, Nat.zero_add]
  have hbehind : ∀ piece ∈ (mid.run second).events, OpenAt mid.position piece :=
    fun piece hpiece => hsize ▸ hcut piece (List.mem_append_right _ hpiece)
  obtain ⟨seen, hseen⟩ := text_of_cut hmid hbehind h
  obtain ⟨run, tail, hsecond, hplain, htail⟩ := exists_run second
  have hreads := reads_of_run h
  rw [hseen, hsecond] at hreads
  obtain ⟨more, hmore, hall⟩ := hreads.run hplain htail
  have hemits := emits_of_feed hfirst
  rw [hseen] at hemits
  refine ⟨pieces.map Located.event, seen, run, more, ?_, ?_, ?_⟩
  · exact endsReferences_of_cut hmid hbehind hseen hsecond hplain htail
  · rw [List.map_append, hsecond, hmore]
  · have hinserted := hemits.reads ((emits_comment hcomment seen).reads (hall []))
    rw [← hsecond, List.append_nil] at hinserted
    simpa [cutRun] using hinserted

/-! ## What the parts of a run say -/

theorem isBlank_append (first second : List Char) :
    isBlank (first ++ second) = (isBlank first && isBlank second) :=
  List.all_append

/-- Text may be added in two parts. -/
theorem OpenElement.addText_append (e : OpenElement) (first second : List Char) :
    e.addText (first ++ second) = (e.addText first).addText second := by
  unfold OpenElement.addText
  by_cases hfinished : e.finished.isEmpty
  · simp [hfinished, String.ofList_append, String.append_assoc]
  · simp [hfinished]

theorem Builder.fill_append (b : Builder) (first second : List Char) :
    b.fill (first ++ second) = b.fill first >>= fun next => next.fill second := by
  obtain ⟨opened, root⟩ := b
  cases opened with
  | cons innermost outer =>
    unfold Builder.fill
    simp only [OpenElement.addText_append]
    rfl
  | nil =>
    unfold Builder.fill
    simp only [isBlank_append]
    by_cases hfirst : isBlank first
    · simp only [hfirst, Bool.true_and, if_true]
      rfl
    · simp only [hfirst, Bool.false_and]
      rfl

theorem takeAll_middle {cut whole : List Token} (h : ∀ b : Builder, b.takeAll cut = b.takeAll whole)
    (before behind : List Token) (b : Builder) :
    b.takeAll (before ++ (cut ++ behind)) = b.takeAll (before ++ (whole ++ behind)) := by
  have hmiddle : ∀ b : Builder, b.takeAll (cut ++ behind) = b.takeAll (whole ++ behind) := by
    intro b
    rw [Builder.takeAll_append, Builder.takeAll_append, h]
  rw [Builder.takeAll_append, Builder.takeAll_append]
  simp only [hmiddle]

/-- A run with a comment in it does to the tree what the run does. -/
theorem tokens_comment {seen run : List Char} {tokens : List Token}
    (hends : seen ≠ [] → run ≠ [] → EndsReferences seen.reverse)
    (h : List.Forall₂ TokenOf (runEvents (run.reverse ++ seen)) tokens) :
    ∃ cut, List.Forall₂ TokenOf (cutRun seen run) cut ∧
      ∀ b : Builder, b.takeAll cut = b.takeAll tokens := by
  unfold cutRun
  -- A part without characters is no event: an empty one would give an element a text.
  by_cases hseen : seen = []
  · subst hseen
    rw [List.append_nil] at h
    exact ⟨.ignored :: tokens, .cons .ignored h, fun b => rfl⟩
  by_cases hrun : run = []
  · subst hrun
    refine ⟨tokens ++ [.ignored], List.rel_append h (.cons .ignored .nil), fun b => ?_⟩
    rw [Builder.takeAll_append]
    exact bind_pure _
  · have hboth : run.reverse ++ seen ≠ [] := fun heq => hseen (List.append_eq_nil_iff.mp heq).2
    have hreverse : run.reverse ≠ [] := fun heq => hrun (List.reverse_eq_nil_iff.mp heq)
    unfold runEvents at h ⊢
    rw [if_neg hboth, List.reverse_append, List.reverse_reverse] at h
    rw [if_neg hseen, if_neg hreverse, List.reverse_reverse]
    obtain ⟨_, _, htoken, ⟨⟩, rfl⟩ := List.forall₂_cons_left_iff.mp h
    cases htoken with
    | @text _ content htext =>
      obtain ⟨before, behind, hbefore, hbehind, rfl⟩ :=
        (unescape_eq_ok_iff.mp htext).split (hends hseen hrun)
      have hparts : List.Forall₂ TokenOf [.text seen.reverse, .ignored, .text run]
          [.text before, .ignored, .text behind] :=
        .cons (.text (unescape_eq_ok_iff.mpr hbefore)) (.cons .ignored
          (.cons (.text (unescape_eq_ok_iff.mpr hbehind)) .nil))
      refine ⟨_, hparts, fun b => ?_⟩
      have hwhole : b.takeAll [.text (before ++ behind)] = b.fill (before ++ behind) :=
        Builder.takeAll_singleton b _
      rw [hwhole, Builder.fill_append]
      exact congrArg (b.fill before >>= ·)
        (funext fun next => Builder.takeAll_singleton next (.text behind))

theorem openedAfter_of_mem_runEvents {seen : List Char} {event : Event}
    (h : event ∈ runEvents seen) (opened : List (List Char)) :
    openedAfter opened event = .ok opened := by
  unfold runEvents at h
  split at h
  · cases h
  · rw [List.mem_singleton.mp h]
    rfl

theorem openedAfter_of_mem_cutRun {seen run : List Char} {event : Event}
    (h : event ∈ cutRun seen run) (opened : List (List Char)) :
    openedAfter opened event = .ok opened := by
  rcases List.mem_append.mp h with hseen | hrest
  · exact openedAfter_of_mem_runEvents hseen opened
  · rcases List.mem_cons.mp hrest with rfl | hrun
    · rfl
    · exact openedAfter_of_mem_runEvents hrun opened

/-- A comment in a run changes nothing about what is open. -/
theorem nested_cutRun {opened last : List (List Char)} {seen run : List Char}
    (h : Nested opened (runEvents (run.reverse ++ seen)) last) :
    Nested opened (cutRun seen run) last := by
  have hlast := (nested_kept_iff fun _ => openedAfter_of_mem_runEvents).mp h
  exact (nested_kept_iff fun _ => openedAfter_of_mem_cutRun).mpr hlast

/-! ## Documents -/

theorem forall₂_append_left {α β : Type} {r : α → β → Prop} {first second : List α} {image : List β}
    (h : List.Forall₂ r (first ++ second) image) :
    ∃ before behind, image = before ++ behind ∧ List.Forall₂ r first before ∧
      List.Forall₂ r second behind := by
  induction first generalizing image with
  | nil => exact ⟨[], image, rfl, .nil, h⟩
  | cons a first ih =>
    obtain ⟨b, rest, hab, hrest, rfl⟩ := List.forall₂_cons_left_iff.mp h
    obtain ⟨before, behind, rfl, hbefore, hbehind⟩ := ih hrest
    exact ⟨b :: before, behind, rfl, .cons hab hbefore, hbehind⟩

namespace Document

theorem characters_of_head {text : String} {found : List Char}
    (h : unifyLineEnds text.toList = found) (hmark : found.head? ≠ some byteOrderMark) :
    characters text = found := by
  unfold characters
  rw [h]
  cases found with
  | nil => rfl
  | cons c rest =>
    have hne : c ≠ byteOrderMark := fun heq => hmark (congrArg some heq)
    exact if_neg hne

theorem characters_append {first second : String} (hreturn : '\r' ∉ (first ++ second).toList)
    (hmark : (first ++ second).toList.head? ≠ some byteOrderMark) :
    characters (first ++ second) = first.toList ++ second.toList := by
  rw [← String.toList_append]
  exact characters_of_head (unifyLineEnds_of_not_mem hreturn) hmark

theorem characters_comment {first second : String} (hreturn : '\r' ∉ (first ++ second).toList)
    (hmark : (first ++ second).toList.head? ≠ some byteOrderMark) (comment : String) :
    characters (first ++ "<!--" ++ comment ++ "-->" ++ second) =
      first.toList ++ (writeComment (unifyLineEnds comment.toList) ++ second.toList) := by
  rw [String.toList_append, List.mem_append, not_or] at hreturn
  have hclose : unifyLineEnds ('-' :: '-' :: '>' :: second.toList) =
      '-' :: '-' :: '>' :: second.toList :=
    unifyLineEnds_of_not_mem (by simp [hreturn.2])
  have hcomment : unifyLineEnds (comment.toList ++ '-' :: '-' :: '>' :: second.toList) =
      unifyLineEnds comment.toList ++ '-' :: '-' :: '>' :: second.toList := by
    rw [unifyLineEnds_append _ (by simp), hclose]
  refine characters_of_head ?_ ?_
  · simp only [String.toList_append, List.append_assoc]
    rw [unifyLineEnds_append _ (by simp), unifyLineEnds_of_not_mem hreturn.1]
    simp [writeComment, unifyLineEnds_cons, hcomment]
  · cases hfirst : first.toList with
    | nil => simp [writeComment, byteOrderMark]
    | cons c rest =>
      rw [String.toList_append, hfirst] at hmark
      exact hmark

/-- **Comments say nothing.** A comment that is put outside the markup and the references of a
document leaves its tree as it is. -/
theorem parse_comment {first comment second : String} {tree : Element}
    (hreturn : '\r' ∉ (first ++ second).toList)
    (hmark : (first ++ second).toList.head? ≠ some byteOrderMark)
    (hcut : CutOutside first.toList second.toList) (hcomment : '>' ∉ comment.toList)
    (h : parse (first ++ second) = .ok tree) :
    parse (first ++ "<!--" ++ comment ++ "-->" ++ second) = .ok tree := by
  obtain ⟨⟨stop, hstop⟩, tokens, htokens, htree⟩ := parse_eq_ok_iff.mp h
  rw [characters_append hreturn hmark] at hstop htokens
  have hinside : '>' ∉ unifyLineEnds comment.toList :=
    fun hmem => hcomment (mem_of_mem_unifyLineEnds hmem (by decide))
  obtain ⟨before, seen, run, more, hends, hevents, hreads⟩ := reads_comment hcut hinside hstop
  have hnested : ∃ closed, Nested []
      ((events (first.toList ++ second.toList)).events.map Located.event) closed :=
    nested_matchTags _ _ _
  rw [hevents] at htokens hnested
  obtain ⟨closed, hnested⟩ := hnested
  obtain ⟨_, hopened, hrest⟩ := hnested.split
  obtain ⟨_, hrun, hmore⟩ := hrest.split
  obtain ⟨stop', hstop', hevents'⟩ :=
    events_of_reads hreads (hopened.append ((nested_cutRun hrun).append hmore))
  obtain ⟨tokens₁, _, rfl, htokens₁, hbehind⟩ := forall₂_append_left htokens
  obtain ⟨tokens₂, tokens₃, rfl, htokens₂, htokens₃⟩ := forall₂_append_left hbehind
  obtain ⟨cut, htokensCut, hsame⟩ := tokens_comment hends htokens₂
  refine parse_eq_ok_iff.mpr ⟨⟨stop', ?_⟩, tokens₁ ++ (cut ++ tokens₃), ?_, ?_⟩
  · rw [characters_comment hreturn hmark]
    exact hstop'
  · rw [characters_comment hreturn hmark, hevents']
    exact List.rel_append htokens₁ (List.rel_append htokensCut htokens₃)
  · refine Builder.takeAll_eq_ok_iff.mp ?_
    rw [takeAll_middle hsame]
    exact Builder.takeAll_eq_ok_iff.mpr htree

/-- A comment between two references of one run of text. -/
theorem parse_comment_insideText :
    CutOutside "<note>x&amp;".toList "y&lt;<b/></note>\n".toList ∧
      parse ("<note>x&amp;" ++ "<!--" ++ "-- \r\n&" ++ "-->" ++ "y&lt;<b/></note>\n") =
        .ok { tag := "note", text := some "x&y<", children := [{ tag := "b" }] } := by
  have hevents : (events ("<note>x&amp;".toList ++ "y&lt;<b/></note>\n".toList)).events =
      [⟨.startTag "note".toList, 0, 6⟩, ⟨.text "x&amp;y&lt;".toList, 6, 17⟩,
        ⟨.emptyTag ['b'], 17, 21⟩, ⟨.endTag "note".toList, 21, 28⟩, ⟨.text ['\n'], 28, 29⟩] := by
    decide +kernel
  have hcut : CutOutside "<note>x&amp;".toList "y&lt;<b/></note>\n".toList := by
    unfold CutOutside
    rw [hevents]
    simp only [List.forall_mem_cons, List.not_mem_nil, false_imp_iff, implies_true, and_true]
    refine ⟨fun _ hstop => ?_, fun _ _ => ?_, fun hstart => ?_, fun hstart => ?_, fun hstart => ?_⟩
    · exact absurd hstop (by decide)
    · exact ⟨"x&amp;".toList, "y&lt;".toList, by decide, by decide, by decide⟩
    all_goals exact absurd hstart (by decide)
  have hparse : parse ("<note>x&amp;" ++ "y&lt;<b/></note>\n") =
      .ok { tag := "note", text := some "x&y<", children := [{ tag := "b" }] } :=
    eq_ok_of_toOption (by decide +kernel)
  exact ⟨hcut, parse_comment (by decide) (by decide) hcut (by decide) hparse⟩

end Document

end GirStubs.Markup
