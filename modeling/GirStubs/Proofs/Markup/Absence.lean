import GirStubs.Markup.LocalName
import GirStubs.Proofs.Markup.Builder
import GirStubs.Proofs.Markup.Contents
import GirStubs.Proofs.Markup.Reference
import GirStubs.Proofs.Markup.Subtree

/-!
# Characters that a tree cannot have

A character comes into the tree of a document in two ways: it stands in the document, or a reference
to it does. A text that offers neither (`Lacks`) gives attribute values and texts without the
character (`lacks_of_parse`), and so does every part of the text.
-/

namespace GirStubs.Markup

open Text

/-- A reference to the character stands in the text. -/
def RefersTo (c : Char) (text : List Char) : Prop :=
  ∃ name, (∀ first, referenced first name = .ok c) ∧ '&' :: (name ++ [';']) <:+: text

/-- The character does not stand in the text, and no reference to it does. -/
structure Lacks (c : Char) (text : List Char) : Prop where
  plain : c ∉ text
  referred : ¬ RefersTo c text

/-- The character stands in no attribute value and in no text of the tree. -/
def Element.Lacks (c : Char) (e : Element) : Prop :=
  ∀ d ∈ e.subtree, (∀ entry ∈ d.attributes.entries, c ∉ entry.2.toList) ∧
    ∀ text ∈ d.text, c ∉ text.toList

theorem exists_of_forall₂ {α β : Type} {r : α → β → Prop} {l : List α} {l' : List β}
    (h : List.Forall₂ r l l') : ∀ b ∈ l', ∃ a ∈ l, r a b := by
  induction h with
  | nil => exact List.forall_mem_nil _
  | @cons a b l l' hab _ ih =>
    refine List.forall_mem_cons.mpr ⟨⟨a, List.mem_cons_self, hab⟩, ?_⟩
    intro b' hb'
    obtain ⟨a', ha', hr⟩ := ih b' hb'
    exact ⟨a', List.mem_cons_of_mem a ha', hr⟩

variable {c : Char}

/-! ## Raw texts -/

theorem Lacks.of_isInfix {text part : List Char} (h : Lacks c text) (hpart : part <:+: text) :
    Lacks c part where
  plain := fun hmem => h.plain (hpart.subset hmem)
  referred := fun ⟨name, hname, hstands⟩ => h.referred ⟨name, hname, hstands.trans hpart⟩

theorem not_mem_of_unescaped {raw text : List Char} (h : Unescaped raw text) (hraw : Lacks c raw) :
    c ∉ text := by
  induction h with
  | nil => exact List.not_mem_nil
  | @plain d raw text hd hrest ih =>
    have htail : Lacks c raw := hraw.of_isInfix (List.suffix_cons d raw).isInfix
    rw [List.mem_cons, not_or]
    refine ⟨?_, ih htail⟩
    rintro rfl
    exact hraw.plain List.mem_cons_self
  | @reference name raw text d hname hd hrest ih =>
    have hsplit : '&' :: (name ++ ';' :: raw) = '&' :: (name ++ [';']) ++ raw := by simp
    rw [hsplit] at hraw
    rw [List.mem_cons, not_or]
    refine ⟨?_, ih (hraw.of_isInfix (List.suffix_append _ raw).isInfix)⟩
    rintro rfl
    -- The character that the reference stands for is the one that no reference may stand for.
    exact hraw.referred ⟨name, hd, (List.prefix_append _ raw).isInfix⟩

/-! ## Tags -/

theorem value_isInfix {content : List Char} {pairs : List (List Char × List Char)}
    (h : AttributeList content pairs) : ∀ pair ∈ pairs, pair.2 <:+: content := by
  induction h with
  | nil => exact List.forall_mem_nil _
  | @cons before key gap gap' value rest quote pairs _ _ _ _ _ _ _ ih =>
    refine List.forall_mem_cons.mpr ⟨?_, fun pair hpair => (ih pair hpair).trans ?_⟩
    · exact ⟨before ++ (key ++ (gap ++ '=' :: (gap' ++ [quote]))), quote :: rest, by simp⟩
    · exact ⟨before ++ (key ++ (gap ++ '=' :: (gap' ++ quote :: (value ++ [quote])))), [], by simp⟩

theorem not_mem_of_headOf {content : List Char} {head : Head} (h : HeadOf content head)
    (hcontent : Lacks c content) : ∀ entry ∈ head.attributes.entries, c ∉ entry.2.toList := by
  obtain ⟨-, pairs, hlist, -, hentries⟩ := h
  intro entry hentry
  obtain ⟨pair, hpair, -, text, htext, hvalue⟩ := exists_of_forall₂ hentries entry hentry
  have hraw : Lacks c pair.2 :=
    hcontent.of_isInfix ((value_isInfix hlist pair (List.mem_of_mem_filter hpair)).trans
      (List.drop_suffix _ content).isInfix)
  rw [hvalue, String.toList_ofList]
  exact not_mem_of_unescaped (unescape_eq_ok_iff.mp htext) hraw

/-! ## Derivations -/

/-- The character stands in nothing that the token says. -/
def Token.Lacks (c : Char) : Token → Prop
  | .start head => ∀ entry ∈ head.attributes.entries, c ∉ entry.2.toList
  | .empty head => ∀ entry ∈ head.attributes.entries, c ∉ entry.2.toList
  | .text content => c ∉ content
  | .stop => True
  | .ignored => True

theorem lacks_of_tokenOf {event : Event} {token : Token} (h : TokenOf event token)
    (hevent : Lacks c event.content) : token.Lacks c := by
  cases h with
  | start hhead => exact not_mem_of_headOf hhead hevent
  | empty hhead => exact not_mem_of_headOf hhead hevent
  | text htext => exact not_mem_of_unescaped (unescape_eq_ok_iff.mp htext) hevent
  | characterData content => exact hevent.plain
  | stop name => trivial
  | ignored => trivial

theorem text_mem_tokens : (content : Content) → ∀ run ∈ content.leadingTexts,
    Token.text run ∈ content.tokens
  | .nil => List.forall_mem_nil _
  | .child node rest => List.forall_mem_nil _
  | .ignored rest => fun run hrun => List.mem_cons_of_mem _ (text_mem_tokens rest run hrun)
  | .text first rest => by
    intro run hrun
    obtain rfl | hrun := List.mem_cons.mp hrun
    · exact List.mem_cons_self
    · exact List.mem_cons_of_mem _ (text_mem_tokens rest run hrun)

theorem not_mem_text? {content : Content} (h : ∀ token ∈ content.tokens, token.Lacks c) :
    ∀ text ∈ content.text?, c ∉ text.toList := by
  have hruns : c ∉ content.leadingTexts.flatten := by
    intro hmem
    obtain ⟨run, hrun, hc⟩ := List.mem_flatten.mp hmem
    exact h _ (text_mem_tokens content run hrun) hc
  intro text htext
  unfold Content.text? at htext
  split at htext
  · cases htext
  · cases htext
    rwa [String.toList_ofList]

mutual

theorem lacks_denote : (node : Node) → (∀ token ∈ node.tokens, token.Lacks c) →
    node.denote.Lacks c
  | .empty head, h => by
    refine Element.forall_subtree_iff.mpr ⟨⟨h _ List.mem_cons_self, ?_⟩, List.forall_mem_nil _⟩
    rintro text ⟨⟩
  | .element head content, h => by
    rw [Node.tokens, List.forall_mem_cons, List.forall_mem_append] at h
    exact Element.forall_subtree_iff.mpr
      ⟨⟨h.1, not_mem_text? h.2.1⟩, lacks_children content h.2.1⟩

theorem lacks_children : (content : Content) → (∀ token ∈ content.tokens, token.Lacks c) →
    ∀ child ∈ content.children, child.Lacks c
  | .nil, _ => List.forall_mem_nil _
  | .text run rest, h => lacks_children rest (List.forall_mem_cons.mp h).2
  | .ignored rest, h => lacks_children rest (List.forall_mem_cons.mp h).2
  | .child node rest, h => by
    rw [Content.tokens, List.forall_mem_append] at h
    exact List.forall_mem_cons.mpr ⟨lacks_denote node h.1, lacks_children rest h.2⟩

end

/-! ## Documents -/

/-- **What a document lacks, its tree lacks.** -/
theorem lacks_of_parse {text : String} {tree : Element} (h : Document.parse text = .ok tree)
    (htext : Lacks c (Document.characters text)) : tree.Lacks c := by
  obtain ⟨⟨stop, hstop⟩, tokens, htokens, before, node, after, rfl, -, -, rfl⟩ :=
    Document.parse_eq_ok_iff.mp h
  apply lacks_denote
  intro token htoken
  have hmem : token ∈ before ++ node.tokens ++ after :=
    List.mem_append_left _ (List.mem_append_right _ htoken)
  obtain ⟨event, hevent, hof⟩ := exists_of_forall₂ htokens token hmem
  obtain ⟨piece, hpiece, rfl⟩ := List.mem_map.mp hevent
  exact lacks_of_tokenOf hof (htext.of_isInfix (content_isInfix hstop piece hpiece))

/-! ## Look-ups -/

section LookUp

variable {e : Element} (h : e.Lacks c)

include h in
theorem Element.Lacks.child {d : Element} (hd : d ∈ e.children) : d.Lacks c :=
  (Element.forall_subtree_iff.mp h).2 d hd

include h in
theorem Element.Lacks.attribute {d : Element} (hd : d ∈ e.subtree) {key value : String}
    (hvalue : d.attribute? key = some value) : c ∉ value.toList := by
  obtain ⟨before, behind, hentries, -⟩ := List.lookup_eq_some_iff.mp hvalue
  have hmem : (key, value) ∈ d.attributes.entries :=
    hentries ▸ List.mem_append_right before List.mem_cons_self
  exact (h d hd).1 (key, value) hmem

include h in
theorem Element.Lacks.text {text : String} (htext : e.text = some text) : c ∉ text.toList :=
  (Element.forall_subtree_iff.mp h).1.2 text htext

end LookUp

/-! ## Changed attributes -/

theorem not_mem_setEntry {key value : String} (hvalue : c ∉ value.toList)
    {entries : List (String × String)} (h : ∀ entry ∈ entries, c ∉ entry.2.toList) :
    ∀ entry ∈ setEntry key value entries, c ∉ entry.2.toList := by
  induction entries with
  | nil => exact List.forall_mem_singleton.mpr hvalue
  | cons entry rest ih =>
    rw [List.forall_mem_cons] at h
    rw [setEntry]
    split
    · exact List.forall_mem_cons.mpr ⟨hvalue, h.2⟩
    · exact List.forall_mem_cons.mpr ⟨h.1, ih h.2⟩

theorem Element.Lacks.setAttribute {e : Element} (h : e.Lacks c) (key : String) {value : String}
    (hvalue : c ∉ value.toList) : (e.setAttribute key value).Lacks c := by
  obtain ⟨⟨hattributes, htext⟩, hbelow⟩ := Element.forall_subtree_iff.mp h
  exact Element.forall_subtree_iff.mpr ⟨⟨not_mem_setEntry hvalue hattributes, htext⟩, hbelow⟩

theorem not_mem_ofList {pairs : List (String × String)} (h : ∀ pair ∈ pairs, c ∉ pair.2.toList) :
    ∀ entry ∈ (Attributes.ofList pairs).entries, c ∉ entry.2.toList := by
  -- The attributes set so far are clear of the character, and each pair keeps them so.
  have hall : ∀ attributes : Attributes, (∀ entry ∈ attributes.entries, c ∉ entry.2.toList) →
      ∀ entry ∈ (pairs.foldl (fun attributes pair => attributes.set pair.1 pair.2)
        attributes).entries, c ∉ entry.2.toList := by
    induction pairs with
    | nil => exact fun attributes hattributes => hattributes
    | cons pair rest ih =>
      intro attributes hattributes
      rw [List.forall_mem_cons] at h
      exact ih h.2 (attributes.set pair.1 pair.2) (not_mem_setEntry h.1 hattributes)
  exact hall .empty (List.forall_mem_nil _)

theorem Element.Lacks.localized {e : Element} (h : e.Lacks c) : e.localized.Lacks c := by
  induction e using Element.induction with
  | step e ih =>
    obtain ⟨⟨hattributes, htext⟩, hbelow⟩ := Element.forall_subtree_iff.mp h
    refine Element.forall_subtree_iff.mpr ⟨⟨?_, by rwa [text_localized]⟩, ?_⟩
    · rw [attributes_localized]
      exact not_mem_ofList (List.forall_mem_map.mpr hattributes)
    · rw [children_localized, List.forall_mem_map]
      exact fun child hchild => ih child hchild (hbelow child hchild)

end GirStubs.Markup
