import GirStubs.Proofs.Markup.Grammar
import GirStubs.Proofs.Markup.Nesting
import GirStubs.Proofs.Outcome
import GirStubs.Proofs.Text.Blank

/-!
# The tree builder and the grammar

The builder works with a stack of open elements. It is first run on tokens
(`Builder.takeAll`), where a node is one step (`takeAll_node`), and content fills the
innermost open element (`takeAll_content`). With the reader's check of end tags in front of it,
which keeps an end tag away from an empty stack, it accepts the documents of the grammar and
returns the tree that they denote (`Document.parse_outcome`).
-/

namespace GirStubs.Markup

open Text

variable {b next last : Builder} {tokens : List Token}

/-! ## Taking tokens -/

/-- The element that a start tag opens. -/
def OpenElement.ofHead (head : Head) : OpenElement :=
  { tag := head.tag, attributes := head.attributes }

/-- A tag opens an element exactly when it is well formed. -/
theorem bind_ofTag_eq_ok_iff {content : List Char} {f : OpenElement → Except Fault Builder} :
    (OpenElement.ofTag content >>= f) = .ok next ↔
      ∃ head, HeadOf content head ∧ f (.ofHead head) = .ok next := by
  refine bind_eq_ok_iff.trans ?_
  constructor
  · rintro ⟨e, he, hnext⟩
    obtain ⟨attributes, hattributes, hopen⟩ := bind_eq_ok_iff.mp he
    cases hopen
    exact ⟨⟨_, attributes⟩, ⟨rfl, tagAttributes_eq_ok_iff.mp hattributes⟩, hnext⟩
  · rintro ⟨⟨tag, attributes⟩, ⟨rfl, hlist⟩, hnext⟩
    exact ⟨_, bind_eq_ok_iff.mpr ⟨attributes, tagAttributes_eq_ok_iff.mpr hlist, rfl⟩, hnext⟩

namespace Builder

/-- The builder behind a token. No end tag may come where nothing is open. -/
def take (b : Builder) : Token → Except Fault Builder
  | .start head => .ok { b with opened := .ofHead head :: b.opened }
  | .empty head => b.attach (OpenElement.ofHead head).close
  | .stop =>
    match b.opened with
    | innermost :: outer => { b with opened := outer }.attach innermost.close
    | [] => .error (.form (.unmatchedEnd ""))
  | .text content => b.fill content
  | .ignored => .ok b

/-- The builder behind some tokens. -/
def takeAll (b : Builder) : List Token → Except Fault Builder
  | [] => .ok b
  | token :: rest => b.take token >>= fun next => next.takeAll rest

theorem takeAll_append (b : Builder) (first second : List Token) :
    b.takeAll (first ++ second) = b.takeAll first >>= fun next => next.takeAll second := by
  induction first generalizing b with
  | nil => rfl
  | cons token rest ih =>
    rw [List.cons_append, takeAll, takeAll]
    cases b.take token with
    | error fault => rfl
    | ok next => exact ih next

theorem takeAll_singleton (b : Builder) (token : Token) : b.takeAll [token] = b.take token := by
  rw [takeAll]
  cases b.take token <;> rfl

theorem attach_eq_ok_iff {e : Element} :
    b.attach e = .ok next ↔
      (∃ parent outer, b.opened = parent :: outer ∧
        next = { b with opened := parent.addChild e :: outer }) ∨
      (b.opened = [] ∧ b.root = none ∧ next = { b with root := some e }) := by
  obtain ⟨opened, root⟩ := b
  cases opened with
  | nil => cases root <;> simp [attach, eq_comm]
  | cons parent outer => simp [attach, eq_comm]

theorem fill_eq_ok_iff {content : List Char} :
    b.fill content = .ok next ↔
      (∃ innermost outer, b.opened = innermost :: outer ∧
        next = { b with opened := innermost.addText content :: outer }) ∨
      (b.opened = [] ∧ isBlank content ∧ next = b) := by
  obtain ⟨opened, root⟩ := b
  cases opened with
  | nil => cases hblank : isBlank content <;> simp [fill, hblank, @eq_comm _ _ next]
  | cons innermost outer => simp [fill, @eq_comm _ _ next]

theorem length_opened_of_attach {e : Element} (h : b.attach e = .ok next) :
    next.opened.length = b.opened.length := by
  rcases attach_eq_ok_iff.mp h with ⟨parent, outer, hopened, rfl⟩ | ⟨_, _, rfl⟩
  · rw [hopened]
    rfl
  · rfl

theorem length_opened_of_fill {content : List Char} (h : b.fill content = .ok next) :
    next.opened.length = b.opened.length := by
  rcases fill_eq_ok_iff.mp h with ⟨innermost, outer, hopened, rfl⟩ | ⟨_, _, rfl⟩
  · rw [hopened]
    rfl
  · rfl

/-- A token changes the height of the stack as it changes what is open. -/
theorem depthAfter_of_take {token : Token} (h : b.take token = .ok next) :
    token.depthAfter b.opened.length = some next.opened.length := by
  cases token with
  | start head =>
    cases h
    rfl
  | empty head => exact congrArg some (length_opened_of_attach h).symm
  | stop =>
    unfold take at h
    cases hopened : b.opened with
    | nil =>
      rw [hopened] at h
      cases h
    | cons innermost outer =>
      rw [hopened] at h
      exact congrArg some (length_opened_of_attach h).symm
  | text content => exact congrArg some (length_opened_of_fill h).symm
  | ignored =>
    cases h
    rfl

theorem closes_of_takeAll (h : b.takeAll tokens = .ok last) (hlast : last.opened = []) :
    Closes b.opened.length tokens := by
  induction tokens generalizing b with
  | nil =>
    cases h
    rw [hlast]
    exact .nil
  | cons token rest ih =>
    obtain ⟨next, htake, hrest⟩ := bind_eq_ok_iff.mp h
    exact .cons (depthAfter_of_take htake) (ih hrest)

end Builder

/-! ## Nodes and content -/

/-- The element with some content more. -/
def OpenElement.addContent (e : OpenElement) : Content → OpenElement
  | .nil => e
  | .text run rest => (e.addText run).addContent rest
  | .ignored rest => e.addContent rest
  | .child node rest => (e.addChild node.denote).addContent rest

theorem addText_of_finished {e : OpenElement} (h : e.finished ≠ []) (run : List Char) :
    e.addText run = e := by
  unfold OpenElement.addText
  rw [if_neg]
  rwa [List.isEmpty_iff]

/-- Behind a child, no text is kept. -/
theorem addContent_of_finished : (content : Content) → {e : OpenElement} → e.finished ≠ [] →
    e.addContent content = { e with finished := content.children.reverse ++ e.finished }
  | .nil, _, _ => rfl
  | .text run rest, e, h => by
    rw [OpenElement.addContent, addText_of_finished h, addContent_of_finished rest h,
      Content.children]
  | .ignored rest, e, h => by
    rw [OpenElement.addContent, addContent_of_finished rest h, Content.children]
  | .child node rest, e, h => by
    have hchild : (e.addChild node.denote).finished ≠ [] := List.cons_ne_nil _ _
    rw [OpenElement.addContent, addContent_of_finished rest hchild, Content.children,
      List.reverse_cons, List.append_assoc]
    rfl

/-- A text with a run more; the first run makes a text. -/
def appendRun (text : Option String) (run : List Char) : Option String :=
  some (text.getD "" ++ String.ofList run)

theorem foldl_appendRun (runs : List (List Char)) (text : String) :
    runs.foldl appendRun (some text) = some (text ++ String.ofList runs.flatten) := by
  induction runs generalizing text with
  | nil => simp
  | cons run rest ih =>
    rw [List.foldl_cons, appendRun, Option.getD_some, ih, List.flatten_cons, String.ofList_append,
      String.append_assoc]

theorem text?_eq_foldl (content : Content) :
    content.text? = content.leadingTexts.foldl appendRun none := by
  unfold Content.text?
  cases content.leadingTexts with
  | nil => rfl
  | cons run rest =>
    have hruns : "" ++ String.ofList run ++ String.ofList rest.flatten =
        String.ofList (run :: rest).flatten := by
      rw [String.empty_append, ← String.ofList_append, List.flatten_cons]
    rw [List.foldl_cons, appendRun, foldl_appendRun, Option.getD_none, hruns]

theorem addContent_of_nil : (content : Content) → {e : OpenElement} → e.finished = [] →
    e.addContent content = { e with
      text := content.leadingTexts.foldl appendRun e.text
      finished := content.children.reverse }
  | .nil, e, h => by
    obtain ⟨tag, attributes, text, finished⟩ := e
    cases h
    rfl
  | .text run rest, e, h => by
    have htext : e.addText run = { e with text := appendRun e.text run } := by
      unfold OpenElement.addText
      rw [if_pos (List.isEmpty_iff.mpr h), appendRun]
    rw [OpenElement.addContent, htext, Content.leadingTexts, Content.children, List.foldl_cons]
    exact addContent_of_nil rest h
  | .ignored rest, e, h => by
    rw [OpenElement.addContent, addContent_of_nil rest h, Content.leadingTexts, Content.children]
  | .child node rest, e, h => by
    have hchild : (e.addChild node.denote).finished ≠ [] := List.cons_ne_nil _ _
    rw [OpenElement.addContent, addContent_of_finished rest hchild, Content.leadingTexts,
      Content.children, List.reverse_cons]
    unfold OpenElement.addChild
    rw [h]
    rfl

theorem close_addContent (head : Head) (content : Content) :
    ((OpenElement.ofHead head).addContent content).close = (Node.element head content).denote := by
  rw [addContent_of_nil content rfl, OpenElement.close, List.reverse_reverse, Node.denote,
    text?_eq_foldl]
  rfl

namespace Builder

mutual

/-- A whole node is attached as the element that it denotes. -/
theorem takeAll_node (b : Builder) : (node : Node) → b.takeAll node.tokens = b.attach node.denote
  | .empty head => by
    rw [Node.tokens, takeAll_singleton, Node.denote]
    rfl
  | .element head content => by
    rw [Node.tokens, takeAll, take]
    refine (takeAll_append _ content.tokens [.stop]).trans ?_
    rw [takeAll_content b.root (.ofHead head) b.opened content]
    refine (takeAll_singleton _ _).trans ?_
    exact congrArg b.attach (close_addContent head content)

/-- Content goes into the innermost open element, and what is open stays. -/
theorem takeAll_content (root : Option Element) (e : OpenElement) (outer : List OpenElement) :
    (content : Content) →
      takeAll ⟨e :: outer, root⟩ content.tokens = .ok ⟨e.addContent content :: outer, root⟩
  | .nil => rfl
  | .text run rest => takeAll_content root (e.addText run) outer rest
  | .ignored rest => takeAll_content root e outer rest
  | .child node rest => by
    rw [Content.tokens, takeAll_append, takeAll_node]
    exact takeAll_content root (e.addChild node.denote) outer rest

end

/-! ## Around the root -/

theorem take_misc {token : Token} (hb : b.opened = []) (h : token.IsMisc) :
    b.take token = .ok b := by
  cases token with
  | text content => exact fill_eq_ok_iff.mpr (Or.inr ⟨hb, isBlank_iff.mpr h, rfl⟩)
  | ignored => rfl
  | start head => cases h
  | empty head => cases h
  | stop => cases h

theorem takeAll_misc (hb : b.opened = []) (h : ∀ token ∈ tokens, token.IsMisc) :
    b.takeAll tokens = .ok b := by
  induction tokens with
  | nil => rfl
  | cons token rest ih =>
    rw [List.forall_mem_cons] at h
    rw [takeAll, take_misc hb h.1]
    exact ih h.2

/-- Where nothing is open, a token says nothing, or it starts a whole node. -/
theorem takeAll_cons_cases {token : Token} {rest : List Token} (hb : b.opened = [])
    (h : b.takeAll (token :: rest) = .ok last) (hlast : last.opened = []) :
    (token.IsMisc ∧ b.takeAll rest = .ok last) ∨
    ∃ node behind next, token :: rest = Node.tokens node ++ behind ∧
      b.attach node.denote = .ok next ∧ next.takeAll behind = .ok last := by
  have hnode : ∀ (node : Node) (behind : List Token), token :: rest = node.tokens ++ behind →
      ∃ next, b.attach node.denote = .ok next ∧ next.takeAll behind = .ok last := by
    intro node behind heq
    rw [heq, takeAll_append, takeAll_node] at h
    exact bind_eq_ok_iff.mp h
  obtain ⟨next, htake, hrest⟩ := bind_eq_ok_iff.mp h
  have hcloses := closes_of_takeAll hrest hlast
  cases token with
  | start head =>
    cases htake
    rw [hb] at hcloses
    obtain ⟨content, behind, rfl, _⟩ := hcloses.exists_content
    have heq : Token.start head :: (content.tokens ++ .stop :: behind) =
        (Node.element head content).tokens ++ behind := by
      simp [Node.tokens]
    exact Or.inr ⟨_, _, _, heq, (hnode _ _ heq).choose_spec⟩
  | empty head =>
    have heq : Token.empty head :: rest = (Node.empty head).tokens ++ rest := by
      simp [Node.tokens]
    exact Or.inr ⟨_, _, _, heq, (hnode _ _ heq).choose_spec⟩
  | stop =>
    unfold take at htake
    rw [hb] at htake
    cases htake
  | text content =>
    rcases fill_eq_ok_iff.mp htake with ⟨innermost, outer, hopened, _⟩ | ⟨_, hblank, rfl⟩
    · rw [hb] at hopened
      cases hopened
    · exact Or.inl ⟨isBlank_iff.mp hblank, hrest⟩
  | ignored =>
    cases htake
    exact Or.inl ⟨trivial, hrest⟩

theorem misc_of_takeAll_rooted {root : Element}
    (h : takeAll ⟨[], some root⟩ tokens = .ok last) (hlast : last.opened = []) :
    (∀ token ∈ tokens, token.IsMisc) ∧ last = ⟨[], some root⟩ := by
  induction tokens with
  | nil =>
    cases h
    exact ⟨List.forall_mem_nil _, rfl⟩
  | cons token rest ih =>
    rcases takeAll_cons_cases rfl h hlast with ⟨hmisc, hrest⟩ | ⟨node, _, _, _, hattach, _⟩
    · obtain ⟨hall, heq⟩ := ih hrest
      exact ⟨List.forall_mem_cons.mpr ⟨hmisc, hall⟩, heq⟩
    · cases hattach

/-- From nothing to a finished root: exactly the documents, with their trees. -/
theorem takeAll_eq_ok_iff {tree : Element} :
    takeAll {} tokens = .ok ⟨[], some tree⟩ ↔ DocumentOf tokens tree := by
  constructor
  · intro h
    induction tokens with
    | nil => cases h
    | cons token rest ih =>
      rcases takeAll_cons_cases rfl h rfl with ⟨hmisc, hrest⟩ | ⟨node, behind, next, heq, hattach,
        hbehind⟩
      · obtain ⟨before, node, behind, rfl, hbefore, hbehind, htree⟩ := ih hrest
        exact ⟨token :: before, node, behind, rfl, List.forall_mem_cons.mpr ⟨hmisc, hbefore⟩,
          hbehind, htree⟩
      · cases hattach
        obtain ⟨hall, hlast⟩ := misc_of_takeAll_rooted hbehind rfl
        cases hlast
        exact ⟨[], node, behind, heq, List.forall_mem_nil _, hall, rfl⟩
  · rintro ⟨before, node, behind, rfl, hbefore, hbehind, rfl⟩
    rw [takeAll_append, takeAll_append, takeAll_misc rfl hbefore]
    refine (congrArg (· >>= _) (takeAll_node _ node)).trans ?_
    exact takeAll_misc rfl hbehind

/-! ## Events -/

theorem depthAfter_of_openedAfter {opened opened' : List (List Char)} {event : Event}
    {token : Token} (h : openedAfter opened event = .ok opened') (htoken : TokenOf event token) :
    token.depthAfter opened.length = some opened'.length := by
  cases htoken with
  | stop name =>
    unfold openedAfter at h
    cases opened with
    | nil => cases h
    | cons innermost outer =>
      simp only at h
      split at h
      · cases h
        rfl
      · cases h
  | _ =>
    cases h
    rfl

/-- With matching end tags, the step on an event is the step on its token. -/
theorem step_eq_ok_iff {opened opened' : List (List Char)} {event : Event}
    (h : openedAfter opened event = .ok opened') (hlength : opened.length = b.opened.length) :
    b.step event = .ok next ↔ ∃ token, TokenOf event token ∧ b.take token = .ok next := by
  cases event with
  | startTag content =>
    refine bind_ofTag_eq_ok_iff.trans ?_
    constructor
    · rintro ⟨head, hhead, hnext⟩
      exact ⟨_, .start hhead, hnext⟩
    · rintro ⟨_, htoken, hnext⟩
      cases htoken with
      | start hhead => exact ⟨_, hhead, hnext⟩
  | emptyTag content =>
    refine bind_ofTag_eq_ok_iff.trans ?_
    constructor
    · rintro ⟨head, hhead, hnext⟩
      exact ⟨_, .empty hhead, hnext⟩
    · rintro ⟨_, htoken, hnext⟩
      cases htoken with
      | empty hhead => exact ⟨_, hhead, hnext⟩
  | endTag name =>
    have hdepth := depthAfter_of_openedAfter h (.stop name)
    have hstep : b.step (.endTag name) = b.take .stop := by
      unfold step take
      cases hopened : b.opened with
      | nil =>
        rw [hlength, hopened] at hdepth
        cases hdepth
      | cons innermost outer => rfl
    rw [hstep]
    constructor
    · exact fun hnext => ⟨_, .stop name, hnext⟩
    · rintro ⟨_, ⟨⟩, hnext⟩
      exact hnext
  | text raw =>
    constructor
    · intro hnext
      cases htext : unescape raw with
      | error fault =>
        rw [step, htext] at hnext
        cases hnext
      | ok content =>
        rw [step, htext] at hnext
        exact ⟨_, .text htext, hnext⟩
    · rintro ⟨_, htoken, hnext⟩
      cases htoken with
      | text htext =>
        rw [step, htext]
        exact hnext
  | characterData content =>
    constructor
    · exact fun hnext => ⟨_, .characterData content, hnext⟩
    · rintro ⟨_, ⟨⟩, hnext⟩
      exact hnext
  | ignored =>
    constructor
    · exact fun hnext => ⟨_, .ignored, hnext⟩
    · rintro ⟨_, ⟨⟩, hnext⟩
      exact hnext

theorem run_eq_ok_iff {opened closed : List (List Char)} {pieces : List Located}
    (h : Nested opened (pieces.map Located.event) closed)
    (hlength : opened.length = b.opened.length) :
    b.run pieces = .ok last ↔
      ∃ tokens, List.Forall₂ TokenOf (pieces.map Located.event) tokens ∧
        b.takeAll tokens = .ok last := by
  induction pieces generalizing b opened with
  | nil =>
    constructor
    · intro hlast
      cases hlast
      exact ⟨[], .nil, rfl⟩
    · rintro ⟨_, ⟨⟩, hlast⟩
      cases hlast
      rfl
  | cons piece rest ih =>
    rcases h with _ | @⟨_, opened', _, _, _, hopened, hnested⟩
    -- The builder's stack stays as high as the reader's, so no end tag finds it empty.
    have hlength' : ∀ {token : Token} {next : Builder}, TokenOf piece.event token →
        b.take token = .ok next → opened'.length = next.opened.length := by
      intro token next htoken htake
      have hdepth := depthAfter_of_openedAfter hopened htoken
      rw [hlength, depthAfter_of_take htake] at hdepth
      exact (Option.some.inj hdepth).symm
    constructor
    · intro hrun
      unfold run at hrun
      cases hstep : b.step piece.event with
      | error fault =>
        rw [hstep] at hrun
        cases hrun
      | ok next =>
        rw [hstep] at hrun
        obtain ⟨token, htoken, htake⟩ := (step_eq_ok_iff hopened hlength).mp hstep
        obtain ⟨tokens, htokens, htakeAll⟩ := (ih hnested (hlength' htoken htake)).mp hrun
        exact ⟨token :: tokens, .cons htoken htokens, bind_eq_ok_iff.mpr ⟨next, htake, htakeAll⟩⟩
    · rintro ⟨_, htokens, hlast⟩
      obtain ⟨token, tokens, htoken, hrest, rfl⟩ := List.forall₂_cons_left_iff.mp htokens
      obtain ⟨next, htake, htakeAll⟩ := bind_eq_ok_iff.mp hlast
      have hstep := (step_eq_ok_iff hopened hlength).mpr ⟨_, htoken, htake⟩
      rw [run, hstep]
      exact (ih hnested (hlength' htoken htake)).mpr ⟨_, hrest, htakeAll⟩

theorem finish_eq_ok_iff {position : Nat} {tree : Element} :
    b.finish position = .ok tree ↔ b = ⟨[], some tree⟩ := by
  obtain ⟨opened, root⟩ := b
  cases opened with
  | nil => cases root <;> simp [finish]
  | cons innermost outer => simp [finish]

end Builder

/-! ## Documents -/

namespace Document

theorem ofReading_eq_ok_iff {reading : Reading} {closed : List (List Char)} {tree : Element}
    (h : Nested [] (reading.events.map Located.event) closed) :
    ofReading reading = .ok tree ↔ (∃ position, reading.ending = .ok position) ∧
      ∃ tokens, List.Forall₂ TokenOf (reading.events.map Located.event) tokens ∧
        DocumentOf tokens tree := by
  have hrun : ∀ last, Builder.run {} reading.events = .ok last ↔ _ :=
    fun last => Builder.run_eq_ok_iff (b := {}) h rfl
  unfold ofReading
  simp only [bind_eq_ok_iff, Builder.finish_eq_ok_iff, hrun, ← Builder.takeAll_eq_ok_iff]
  constructor
  · rintro ⟨_, htokens, position, hending, rfl⟩
    exact ⟨⟨position, hending⟩, htokens⟩
  · rintro ⟨⟨position, hending⟩, htokens⟩
    exact ⟨_, htokens, position, hending, rfl⟩

/-- The events of the text can be read to its end, each of them is well formed, and their tokens
are those of a document with the tree. -/
def HasTree (text : String) (tree : Element) : Prop :=
  (∃ position, (events (characters text)).ending = .ok position) ∧
    ∃ tokens, List.Forall₂ TokenOf ((events (characters text)).events.map Located.event) tokens ∧
      DocumentOf tokens tree

theorem parse_eq_ok_iff {text : String} {tree : Element} :
    parse text = .ok tree ↔ HasTree text tree := by
  obtain ⟨closed, hnested⟩ := nested_matchTags [] (scan (characters text)).events
    (scan (characters text)).ending
  exact ofReading_eq_ok_iff hnested

/-- **What is accepted, and as what.** A text is parsed exactly when it is a document of the
grammar, and then into the tree that the document denotes. Every other text is refused. -/
theorem parse_outcome (text : String) :
    (∀ tree, parse text = .ok tree ↔ HasTree text tree) ∧
    ((∀ tree, ¬ HasTree text tree) → ∃ refusal, parse text = .error refusal) := by
  refine ⟨fun tree => parse_eq_ok_iff, fun hnone => ?_⟩
  cases hparse : parse text with
  | error refusal => exact ⟨refusal, rfl⟩
  | ok tree => exact absurd (parse_eq_ok_iff.mp hparse) (hnone tree)

end Document

end GirStubs.Markup
