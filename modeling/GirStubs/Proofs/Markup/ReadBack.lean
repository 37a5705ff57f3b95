import GirStubs.Proofs.Markup.Builder
import GirStubs.Proofs.Markup.Emission
import GirStubs.Proofs.Markup.Writer

/-!
# Reading back what is written

Along a written element the scanner finds the element's events (`emits_writeElement`), put
together from what it finds along each part. Their end tags match, and they are the tokens of the
node that denotes the element again, so parsing undoes writing (`parse_write`).
-/

namespace GirStubs.Markup

open Text

section

variable {text : List Char}

/-! ## Text -/

/-- The events of a written text. -/
def textEvents : Option String → List Event
  | none => []
  | some text => if text = "" then [.characterData []] else [.text (escape text.toList)]

theorem escape_ne_nil {text : List Char} (h : text ≠ []) : escape text ≠ [] := by
  cases text with
  | nil => exact absurd rfl h
  | cons c rest =>
    have hcons : escape (c :: rest) = escapeChar c ++ escape rest := List.flatMap_cons
    rw [hcons]
    rcases escapeChar_cases c with ⟨name, -, heq⟩ | ⟨-, heq⟩ <;> simp [heq]

theorem emits_writeText (text : Option String) :
    ∃ seen before, Emits (.text []) (writeText text) before (.text seen) ∧
      before ++ runEvents seen = textEvents text := by
  cases text with
  | none => exact ⟨[], [], emits_nil _, rfl⟩
  | some text =>
    by_cases hempty : text = ""
    · subst hempty
      refine ⟨[], [.characterData []], fun start position => ?_, rfl⟩
      exact ⟨_, _, _, rfl, rfl⟩
    · have hnil : escape text.toList ≠ [] :=
        escape_ne_nil fun heq => hempty (String.toList_eq_nil_iff.mp heq)
      have hlt : '<' ∉ escape text.toList := fun hmem => not_mem_escape _ _ hmem (by decide)
      refine ⟨(escape text.toList).reverse, [], ?_, ?_⟩
      · rw [writeText, if_neg hempty]
        have htext := emits_text hlt []
        rwa [List.append_nil] at htext
      · simp [runEvents, textEvents, hempty, hnil]

/-! ## Tags -/

theorem emits_startTag (h : '>' ∉ text) (quote : Option Char) (seen : List Char) :
    Emits (.startTag quote seen) text [] (.startTag (text.foldl quoteAfter quote)
      (text.reverse ++ seen)) := by
  induction text generalizing quote seen with
  | nil => exact emits_nil _
  | cons c rest ih =>
    rw [List.mem_cons, not_or] at h
    have hstep : Emits (.startTag quote seen) [c] [] (.startTag (quoteAfter quote c) (c :: seen)) :=
      emits_advance fun s hs => by simp [Scanner.step, hs, Ne.symm h.1]
    have hrest := ih h.2 (quoteAfter quote c) (c :: seen)
    rw [List.foldl_cons, List.reverse_cons, List.append_assoc]
    exact hstep.append hrest

theorem emits_endTag (h : ∀ c ∈ text, c ≠ '>' ∧ c ≠ '"' ∧ c ≠ '\'') (seen : List Char) :
    Emits (.endTag none seen) text [] (.endTag none (text.reverse ++ seen)) := by
  refine emits_loop (g := .endTag none) (fun c hc seen => emits_advance fun s hs => ?_) seen
  obtain ⟨hclose, hquote, hquote'⟩ := h c hc
  simp [Scanner.step, hs, hclose, quoteAfter, hquote, hquote']

theorem quotes_plain (h : ∀ c ∈ text, c ≠ '"' ∧ c ≠ '\'') : text.foldl quoteAfter none = none := by
  induction text with
  | nil => rfl
  | cons c rest ih =>
    rw [List.forall_mem_cons] at h
    have hc : quoteAfter none c = none := by simp [quoteAfter, h.1.1, h.1.2]
    rw [List.foldl_cons, hc, ih h.2]

theorem quotes_inside {quote : Char} (h : quote ∉ text) :
    text.foldl quoteAfter (some quote) = some quote := by
  induction text with
  | nil => rfl
  | cons c rest ih =>
    rw [List.mem_cons, not_or] at h
    have hc : quoteAfter (some quote) c = some quote := by simp [quoteAfter, Ne.symm h.1]
    rw [List.foldl_cons, hc, ih h.2]

theorem IsLabel.no_quotes {label : List Char} (h : IsLabel label) :
    ∀ c ∈ label, c ≠ '"' ∧ c ≠ '\'' :=
  fun _ hc => ⟨h.ne_of_mem hc (by decide), h.ne_of_mem hc (by decide)⟩

/-- Behind the attributes of a tag no quote is open. -/
theorem quotes_writeAttributes {entries : List (String × String)}
    (h : ∀ entry ∈ entries, IsLabel entry.1.toList) :
    (writeAttributes entries).foldl quoteAfter none = none := by
  induction entries with
  | nil => rfl
  | cons entry rest ih =>
    rw [List.forall_mem_cons] at h
    have hquote : '"' ∉ escape entry.2.toList := fun hmem => not_mem_escape _ _ hmem (by decide)
    have hcons : writeAttributes (entry :: rest) = ' ' :: (entry.1.toList ++ '=' :: '"' ::
        (escape entry.2.toList ++ '"' :: writeAttributes rest)) := by
      simp [writeAttributes, writeAttribute]
    have hspace : quoteAfter none ' ' = none := rfl
    have hequals : quoteAfter none '=' = none := rfl
    have hopen : quoteAfter none '"' = some '"' := rfl
    have hclose : quoteAfter (some '"') '"' = none := rfl
    rw [hcons, List.foldl_cons, hspace, List.foldl_append, quotes_plain h.1.no_quotes,
      List.foldl_cons, hequals, List.foldl_cons, hopen, List.foldl_append, quotes_inside hquote,
      List.foldl_cons, hclose, ih h.2]

/-- Neither a closing bracket nor a carriage return stands in written attributes. -/
theorem not_mem_writeAttributes {entries : List (String × String)}
    (h : ∀ entry ∈ entries, IsLabel entry.1.toList) :
    ∀ c ∈ ['>', '\r'], c ∉ writeAttributes entries := by
  have hmarks : ∀ c ∈ ['>', '\r'], c ∈ reservedChars ∧ c ∈ ['<', '>', '"', '\r'] ∧
      c ∉ [' ', '=', '"'] := by
    simp [reservedChars]
  intro c hc hmem
  obtain ⟨hreserved, hescaped, hplain⟩ := hmarks c hc
  simp only [List.mem_cons, List.not_mem_nil, or_false, not_or] at hplain
  obtain ⟨entry, hentry, hwritten⟩ := List.mem_flatMap.mp hmem
  simp only [writeAttribute, List.mem_cons, List.mem_append, List.not_mem_nil, or_false] at hwritten
  rcases hwritten with hspace | hkey | hequals | hquote | hvalue | hquote
  · exact hplain.1 hspace
  · exact (h entry hentry).not_reserved c hkey hreserved
  · exact hplain.2.1 hequals
  · exact hplain.2.2 hquote
  · exact not_mem_escape _ c hvalue hescaped
  · exact hplain.2.2 hquote

/-- A written tag does not end in a slash. -/
theorem startTagEvent_write {tag : List Char} (htag : IsLabel tag)
    (entries : List (String × String)) :
    startTagEvent (tag ++ writeAttributes entries) =
      .startTag (tag ++ writeAttributes entries) := by
  unfold startTagEvent
  rw [if_neg]
  rcases List.eq_nil_or_concat entries with rfl | ⟨before, entry, rfl⟩
  · intro hlast
    rw [writeAttributes, List.flatMap_nil, List.append_nil] at hlast
    exact htag.ne_of_mem (List.mem_of_getLast? hlast) (by decide) rfl
  · have hsplit : tag ++ writeAttributes (before ++ [entry]) = (tag ++ writeAttributes before ++
        ' ' :: (entry.1.toList ++ '=' :: '"' :: escape entry.2.toList)) ++ ['"'] := by
      simp [writeAttributes, writeAttribute]
    rw [List.concat_eq_append, hsplit, List.getLast?_concat]
    decide

theorem emits_writtenTag {tag : List Char} {entries : List (String × String)} (htag : IsLabel tag)
    (hkeys : ∀ entry ∈ entries, IsLabel entry.1.toList) :
    Emits .opened (tag ++ writeAttributes entries ++ ['>'])
      [.startTag (tag ++ writeAttributes entries)] (.text []) := by
  cases htext : tag with
  | nil => exact absurd htext htag.ne_nil
  | cons first rest =>
    have hfirst : ∀ c ∈ reservedChars, first ≠ c := fun c hc =>
      htag.ne_of_mem (htext ▸ List.mem_cons_self) hc
    have hquote := htag.no_quotes first (htext ▸ List.mem_cons_self)
    have hopen : Emits .opened [first] [] (.startTag none [first]) := by
      refine emits_advance fun s hs => ?_
      simp [Scanner.step, hs, Scanner.stepOpened, hfirst '!' (by decide), hfirst '?' (by decide),
        hfirst '/' (by decide), hfirst '>' (by decide), quoteAfter, hquote.1, hquote.2]
    have hclose : '>' ∉ rest ++ writeAttributes entries := by
      rw [List.mem_append, not_or]
      refine ⟨fun hmem => ?_, not_mem_writeAttributes hkeys _ (by decide)⟩
      exact htag.ne_of_mem (htext ▸ List.mem_cons_of_mem _ hmem) (by decide) rfl
    have hplain : rest.foldl quoteAfter none = none := quotes_plain fun c hc =>
      htag.no_quotes c (htext ▸ List.mem_cons_of_mem _ hc)
    have hrest := emits_startTag hclose none [first]
    rw [List.foldl_append, hplain, quotes_writeAttributes hkeys] at hrest
    have hend : Emits (.startTag none ((rest ++ writeAttributes entries).reverse ++ [first])) ['>']
        [.startTag (tag ++ writeAttributes entries)] (.text []) := by
      refine emits_complete fun s hs => ?_
      rw [← startTagEvent_write htag, htext]
      simp [Scanner.step, hs]
    rw [← htext]
    have hall := (hopen.append hrest).append hend
    rw [List.singleton_append, ← List.cons_append, ← htext] at hall
    exact hall

theorem endTagName_of_label {tag : List Char} (h : IsLabel tag) : endTagName tag = tag := by
  have hkeep : tag.reverse.dropWhile isTagBlank = tag.reverse := by
    cases hreverse : tag.reverse with
    | nil => rfl
    | cons c rest =>
      have hmem : c ∈ tag := List.mem_reverse.mp (hreverse ▸ List.mem_cons_self)
      exact List.dropWhile_cons_of_neg (by simp [h.not_blank c hmem])
  unfold endTagName
  rw [hkeep, List.reverse_reverse]
  split
  · rfl
  · rfl

theorem emits_writtenEnd {tag : List Char} (h : IsLabel tag) :
    Emits .opened ('/' :: (tag ++ ['>'])) [.endTag tag] (.text []) := by
  have hopen : Emits .opened ['/'] [] (.endTag none []) := emits_advance fun s hs => by
    simp [Scanner.step, hs, Scanner.stepOpened]
  have hname := emits_endTag (fun c hc => ⟨h.ne_of_mem hc (by decide), h.no_quotes c hc⟩) []
  have hend : Emits (.endTag none (tag.reverse ++ [])) ['>'] [.endTag tag] (.text []) := by
    refine emits_complete fun s hs => ?_
    simp [Scanner.step, hs, endTagName_of_label h]
  exact (hopen.append hname).append hend

end

/-! ## Elements -/

mutual

/-- The events of a written element. -/
def writtenEvents : Element → List Event
  | ⟨tag, attributes, text, children⟩ =>
    .startTag (tag.toList ++ writeAttributes attributes.entries) ::
      (textEvents text ++ (writtenEventsOfAll children ++ [.endTag tag.toList]))

def writtenEventsOfAll : List Element → List Event
  | [] => []
  | e :: rest => writtenEvents e ++ writtenEventsOfAll rest

end

/-- Written children, up to the bracket behind them, which ends what text may come before it. -/
theorem emits_writeElements {children : List Element}
    (h : ∀ child ∈ children, ∀ seen,
      Emits (.text seen) (writeElement child) (runEvents seen ++ writtenEvents child) (.text []))
    (seen : List Char) :
    Emits (.text seen) (writeElements children ++ ['<'])
      (runEvents seen ++ writtenEventsOfAll children) .opened := by
  induction children generalizing seen with
  | nil =>
    rw [writtenEventsOfAll, List.append_nil]
    exact emits_open seen
  | cons child rest ih =>
    rw [List.forall_mem_cons] at h
    rw [writeElements, writtenEventsOfAll, List.append_assoc, ← List.append_assoc (runEvents seen)]
    exact (h.1 seen).append (ih h.2 [])

theorem emits_writeElement {e : Element} (h : Writable e) (seen : List Char) :
    Emits (.text seen) (writeElement e) (runEvents seen ++ writtenEvents e) (.text []) := by
  induction h generalizing seen with
  | @intro tag attributes text children htag hkeys _ ih =>
    obtain ⟨pending, before, htext, hbefore⟩ := emits_writeText text
    have hlabels := fun entry hentry => (hkeys entry hentry).1
    have hopen := (emits_open seen).append (emits_writtenTag htag hlabels)
    have hinside := htext.append (emits_writeElements ih pending)
    have hall := (hopen.append hinside).append (emits_writtenEnd htag)
    rw [← List.append_assoc before, hbefore] at hall
    simpa [writeElement, writtenEvents] using hall

theorem isNamespaceKey_eq_false {key : String} (hne : key ≠ "xmlns")
    (hmark : ¬ "xmlns:".toList <+: key.toList) : isNamespaceKey key.toList = false := by
  have hlist : key.toList ≠ "xmlns".toList := fun heq => hne (String.toList_injective heq)
  rw [← List.isPrefixOf_iff_prefix, Bool.not_eq_true] at hmark
  rw [isNamespaceKey, hmark, Bool.or_false, decide_eq_false hlist]

theorem nested_textEvents (opened : List (List Char)) (text : Option String) :
    Nested opened (textEvents text) opened := by
  cases text with
  | none => exact .nil
  | some text =>
    have hkeep : ∀ event : Event, openedAfter opened event = .ok opened →
        Nested opened [event] opened := fun event h => .cons h .nil
    by_cases hempty : text = ""
    · rw [textEvents, if_pos hempty]
      exact hkeep _ rfl
    · rw [textEvents, if_neg hempty]
      exact hkeep _ rfl

theorem nested_writtenEventsOfAll {children : List Element} {opened : List (List Char)}
    (h : ∀ child ∈ children, Nested opened (writtenEvents child) opened) :
    Nested opened (writtenEventsOfAll children) opened := by
  induction children with
  | nil => exact .nil
  | cons child rest ih =>
    rw [List.forall_mem_cons] at h
    exact h.1.append (ih h.2)

/-- A written element closes what it opens. -/
theorem nested_writtenEvents {e : Element} (h : Writable e) (opened : List (List Char)) :
    Nested opened (writtenEvents e) opened := by
  induction h generalizing opened with
  | @intro tag attributes text children htag _ _ ih =>
    have hname := tagName_append htag.not_blank attributes.entries
    have hstart : openedAfter opened
        (.startTag (tag.toList ++ writeAttributes attributes.entries)) =
          .ok (tag.toList :: opened) := by
      rw [openedAfter, hname]
    have hend : openedAfter (tag.toList :: opened) (.endTag tag.toList) = .ok opened := if_pos rfl
    have hchildren := nested_writtenEventsOfAll fun child hmem =>
      ih child hmem (tag.toList :: opened)
    exact .cons hstart ((nested_textEvents _ text).append (hchildren.append (.cons hend .nil)))

/-! ## Nodes -/

/-- Some content behind a text. -/
def textContent (text : Option String) (rest : Content) : Content :=
  match text with
  | none => rest
  | some text => .text text.toList rest

mutual

/-- A node that denotes an element. -/
def nodeOf : Element → Node
  | ⟨tag, attributes, text, children⟩ =>
    .element ⟨tag, attributes⟩ (textContent text (contentOf children))

/-- Content that denotes some elements. -/
def contentOf : List Element → Content
  | [] => .nil
  | e :: rest => .child (nodeOf e) (contentOf rest)

end

theorem leadingTexts_contentOf (children : List Element) :
    (contentOf children).leadingTexts = [] := by
  cases children <;> rfl

theorem children_textContent (text : Option String) (rest : Content) :
    (textContent text rest).children = rest.children := by
  cases text <;> rfl

theorem text?_textContent {rest : Content} (h : rest.leadingTexts = []) (text : Option String) :
    (textContent text rest).text? = text := by
  cases text with
  | none => simp [textContent, Content.text?, h]
  | some text => simp [textContent, Content.text?, Content.leadingTexts, h]

mutual

theorem denote_nodeOf : (e : Element) → (nodeOf e).denote = e
  | ⟨tag, attributes, text, children⟩ => by
    rw [nodeOf, Node.denote, text?_textContent (leadingTexts_contentOf children),
      children_textContent, children_contentOf children]

theorem children_contentOf : (children : List Element) → (contentOf children).children = children
  | [] => rfl
  | e :: rest => by
    rw [contentOf, Content.children, denote_nodeOf e, children_contentOf rest]

end

theorem tokens_textContent (text : Option String) {rest : Content} {events : List Event}
    (h : List.Forall₂ TokenOf events rest.tokens) :
    List.Forall₂ TokenOf (textEvents text ++ events) (textContent text rest).tokens := by
  cases text with
  | none => exact h
  | some text =>
    by_cases hempty : text = ""
    · subst hempty
      exact .cons (.characterData []) h
    · rw [textEvents, if_neg hempty]
      exact .cons (.text (unescape_escape text.toList)) h

theorem tokens_contentOf {children : List Element}
    (h : ∀ child ∈ children, List.Forall₂ TokenOf (writtenEvents child) (nodeOf child).tokens) :
    List.Forall₂ TokenOf (writtenEventsOfAll children) (contentOf children).tokens := by
  induction children with
  | nil => exact .nil
  | cons child rest ih =>
    rw [List.forall_mem_cons] at h
    exact List.rel_append h.1 (ih h.2)

/-- The events of a written element are the tokens of the node that denotes it. -/
theorem tokens_nodeOf {e : Element} (h : Writable e) :
    List.Forall₂ TokenOf (writtenEvents e) (nodeOf e).tokens := by
  induction h with
  | @intro tag attributes text children htag hkeys _ ih =>
    have hhead := headOf_write htag (fun entry hentry => (hkeys entry hentry).1) fun entry hentry =>
      isNamespaceKey_eq_false (hkeys entry hentry).2.1 (hkeys entry hentry).2.2
    have hinside := tokens_textContent text (tokens_contentOf ih)
    have hstop : List.Forall₂ TokenOf [.endTag tag.toList] [.stop] := .cons (.stop _) .nil
    rw [writtenEvents, nodeOf, Node.tokens, ← List.append_assoc]
    exact .cons (.start hhead) (List.rel_append hinside hstop)

/-! ## Whole documents -/

theorem return_not_mem_writeText (text : Option String) : '\r' ∉ writeText text := by
  cases text with
  | none => exact List.not_mem_nil
  | some text =>
    by_cases hempty : text = ""
    · rw [writeText, if_pos hempty]
      decide
    · rw [writeText, if_neg hempty]
      exact fun hmem => not_mem_escape _ _ hmem (by decide)

theorem return_not_mem_writeElements {children : List Element}
    (h : ∀ child ∈ children, '\r' ∉ writeElement child) : '\r' ∉ writeElements children := by
  induction children with
  | nil => exact List.not_mem_nil
  | cons child rest ih =>
    rw [List.forall_mem_cons] at h
    rw [writeElements, List.mem_append, not_or]
    exact ⟨h.1, ih h.2⟩

theorem return_not_mem_writeElement {e : Element} (h : Writable e) : '\r' ∉ writeElement e := by
  induction h with
  | @intro tag attributes text children htag hkeys _ ih =>
    have hname : '\r' ∉ tag.toList := fun hmem => htag.ne_of_mem hmem (by decide) rfl
    have hattributes := not_mem_writeAttributes (fun entry hentry => (hkeys entry hentry).1)
      '\r' (by decide)
    have htext := return_not_mem_writeText text
    have hchildren := return_not_mem_writeElements ih
    simp [writeElement, hname, hattributes, htext, hchildren]

theorem characters_write {tree : Element} (h : Writable tree) :
    Document.characters (write tree) = writeElement tree := by
  unfold Document.characters write
  rw [String.toList_ofList, unifyLineEnds_of_not_mem (return_not_mem_writeElement h)]
  cases tree with
  | mk tag attributes text children =>
    rw [writeElement]
    exact if_neg (by decide)

theorem events_write {tree : Element} (h : Writable tree) :
    ∃ position, (events (Document.characters (write tree))).ending = .ok position ∧
      (events (Document.characters (write tree))).events.map Located.event =
        writtenEvents tree := by
  have hreads := (emits_writeElement h []).reads (reads_nil [])
  have hevents : runEvents [] ++ writtenEvents tree ++ runEvents [] = writtenEvents tree :=
    List.append_nil _
  rw [List.append_nil, hevents] at hreads
  rw [characters_write h]
  exact events_of_reads hreads (nested_writtenEvents h [])

/-- **Reading undoes writing.** -/
theorem parse_write {tree : Element} (h : Writable tree) :
    Document.parse (write tree) = .ok tree := by
  obtain ⟨position, hending, hevents⟩ := events_write h
  refine Document.parse_eq_ok_iff.mpr ⟨⟨position, hending⟩, (nodeOf tree).tokens, ?_, ?_⟩
  · rw [hevents]
    exact tokens_nodeOf h
  · exact ⟨[], nodeOf tree, [], by simp, List.forall_mem_nil _, List.forall_mem_nil _,
      (denote_nodeOf tree).symm⟩

/-- A tree with markup in its values, an empty text and a line end of its own. -/
def markedTree : Element :=
  { tag := "doc"
    attributes := .ofList [("xml:space", "a \"b\" <c> & d"), ("k", "")]
    text := some ""
    children := [{ tag := "c:item", text := some "&lt;\r\n" }, { tag := "empty" }] }

theorem parse_write_markedTree :
    Writable markedTree ∧ Document.parse (write markedTree) = .ok markedTree := by
  have hitem : Writable { tag := "c:item", text := some "&lt;\r\n" } :=
    .intro ⟨by decide, by simp [reservedChars]⟩ (List.forall_mem_nil _) (List.forall_mem_nil _)
  have hempty : Writable { tag := "empty" } :=
    .intro ⟨by decide, by simp [reservedChars]⟩ (List.forall_mem_nil _) (List.forall_mem_nil _)
  have hkeys : ∀ entry ∈ markedTree.attributes.entries, IsLabel entry.1.toList ∧
      entry.1 ≠ "xmlns" ∧ ¬ "xmlns:".toList <+: entry.1.toList := by
    have hentries : markedTree.attributes.entries =
        [("xml:space", "a \"b\" <c> & d"), ("k", "")] := by
      decide
    rw [hentries, List.forall_mem_cons, List.forall_mem_singleton]
    exact ⟨⟨⟨by decide, by simp [reservedChars]⟩, by decide, by decide⟩,
      ⟨by decide, by simp [reservedChars]⟩, by decide, by decide⟩
  have hchildren : ∀ child ∈ markedTree.children, Writable child :=
    List.forall_mem_cons.mpr ⟨hitem, List.forall_mem_singleton.mpr hempty⟩
  have htag : IsLabel markedTree.tag.toList := ⟨by decide, by simp [markedTree, reservedChars]⟩
  have h : Writable markedTree := .intro htag hkeys hchildren
  exact ⟨h, parse_write h⟩

end GirStubs.Markup
