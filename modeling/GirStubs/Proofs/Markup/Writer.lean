import GirStubs.Proofs.Markup.Grammar
import GirStubs.Proofs.Markup.Reference

/-!
# Writing a tree

`write` spells a tree as a document. `escape` replaces the characters that a reader would take
for markup, and the carriage return, which it would take for a line end; the reader's
`unescape` takes that back (`unescape_escape`). The attributes that a tag writes are an
attribute list of the grammar (`attributeList_writeAttributes`).
-/

namespace GirStubs.Markup

open Text

/-! ## Escaped text -/

/-- The characters that are written as references, and what stands in these. -/
def references : List (Char × List Char) :=
  [('&', ['a', 'm', 'p']), ('<', ['l', 't']), ('>', ['g', 't']), ('"', ['q', 'u', 'o', 't']),
    ('\r', ['#', '1', '3'])]

def escapeChar (c : Char) : List Char :=
  match references.lookup c with
  | some name => '&' :: (name ++ [';'])
  | none => [c]

/-- The text with references for the characters that must not stand in it. -/
def escape (text : List Char) : List Char := text.flatMap escapeChar

theorem referenced_of_mem {c : Char} {name : List Char} (h : (c, name) ∈ references)
    (first : Nat) : referenced first name = .ok c := by
  simp only [references, List.mem_cons, Prod.mk.injEq, List.not_mem_nil, or_false] at h
  rcases h with ⟨rfl, rfl⟩ | ⟨rfl, rfl⟩ | ⟨rfl, rfl⟩ | ⟨rfl, rfl⟩ | ⟨rfl, rfl⟩ <;> rfl

/-- The names hold nothing that ends a reference, a value, a run of text or a line. -/
theorem name_of_mem {entry : Char × List Char} (h : entry ∈ references) :
    ∀ c ∈ entry.2, c ∉ ['&', ';', '<', '>', '"', '\r'] := by
  have hall : ∀ entry ∈ references,
      entry.2.all fun c => c ∉ ['&', ';', '<', '>', '"', '\r'] := by
    decide
  exact fun c hc => of_decide_eq_true (List.all_eq_true.mp (hall entry h) c hc)

theorem escapeChar_cases (c : Char) :
    (∃ name, (c, name) ∈ references ∧ escapeChar c = '&' :: (name ++ [';'])) ∨
    (c ∉ references.map Prod.fst ∧ escapeChar c = [c]) := by
  unfold escapeChar
  cases hlookup : references.lookup c with
  | some name =>
    obtain ⟨before, behind, heq, -⟩ := List.lookup_eq_some_iff.mp hlookup
    left
    exact ⟨name, by rw [heq]; simp, rfl⟩
  | none =>
    right
    refine ⟨fun hmem => ?_, rfl⟩
    obtain ⟨entry, hentry, rfl⟩ := List.mem_map.mp hmem
    exact absurd (List.lookup_eq_none_iff.mp hlookup entry hentry) (by simp)

theorem unescaped_escape (text : List Char) : Unescaped (escape text) text := by
  induction text with
  | nil => exact .nil
  | cons c rest ih =>
    have hcons : escape (c :: rest) = escapeChar c ++ escape rest := List.flatMap_cons
    rw [hcons]
    rcases escapeChar_cases c with ⟨name, hmem, heq⟩ | ⟨hplain, heq⟩
    · have hname : ∀ d ∈ name, d ≠ '&' ∧ d ≠ ';' := by
        intro d hd
        have hnot := name_of_mem hmem d hd
        simp only [List.mem_cons, not_or] at hnot
        exact ⟨hnot.1, hnot.2.1⟩
      rw [heq, List.cons_append, List.append_assoc, List.singleton_append]
      exact .reference hname (referenced_of_mem hmem) ih
    · have hne : c ≠ '&' := by
        rintro rfl
        exact hplain (by decide)
      rw [heq]
      exact .plain hne ih

/-- Reading replaces every reference that writing has made. -/
theorem unescape_escape (text : List Char) : unescape (escape text) = .ok text :=
  unescape_eq_ok_iff.mpr (unescaped_escape text)

theorem not_mem_escape (text : List Char) : ∀ c ∈ escape text, c ∉ ['<', '>', '"', '\r'] := by
  intro c hmem
  obtain ⟨d, -, hc⟩ := List.mem_flatMap.mp hmem
  rcases escapeChar_cases d with ⟨name, hentry, heq⟩ | ⟨hplain, heq⟩
  · rw [heq, List.mem_cons, List.mem_append, List.mem_singleton] at hc
    rcases hc with rfl | hc | rfl
    · decide
    · intro h
      exact name_of_mem hentry c hc (List.mem_cons_of_mem _ (List.mem_cons_of_mem _ h))
    · decide
  · rw [heq, List.mem_singleton] at hc
    subst hc
    intro h
    exact hplain (List.mem_cons_of_mem _ h)

/-! ## Labels and attributes -/

/-- The characters that do not stand in a tag or a key. -/
def reservedChars : List Char :=
  [' ', '\t', '\r', '\n', '<', '>', '/', '=', '"', '\'', '&', '!', '?']

/-- A text that can stand as a tag or a key. -/
structure IsLabel (label : List Char) : Prop where
  ne_nil : label ≠ []
  not_reserved : ∀ c ∈ label, c ∉ reservedChars

theorem IsLabel.not_blank {label : List Char} (h : IsLabel label) :
    ∀ c ∈ label, isTagBlank c = false := by
  intro c hc
  have hnot := h.not_reserved c hc
  simp only [reservedChars, List.mem_cons, not_or] at hnot
  simp [isTagBlank, hnot]

theorem IsLabel.ne_of_mem {label : List Char} (h : IsLabel label) {c d : Char} (hc : c ∈ label)
    (hd : d ∈ reservedChars) : c ≠ d := by
  rintro rfl
  exact h.not_reserved c hc hd

theorem IsLabel.isKey {label : List Char} (h : IsLabel label) : IsKey label := by
  cases hlabel : label with
  | nil => exact absurd hlabel h.ne_nil
  | cons first more =>
    rw [hlabel] at h
    refine ⟨first, more, rfl, h.not_blank first List.mem_cons_self, fun c hc => ?_⟩
    have hmem := List.mem_cons_of_mem first hc
    have hne : c ≠ '=' := h.ne_of_mem hmem (by decide)
    simp [isKeyChar, h.not_blank c hmem, hne]

def writeAttribute (entry : String × String) : List Char :=
  ' ' :: (entry.1.toList ++ '=' :: '"' :: (escape entry.2.toList ++ ['"']))

/-- Each attribute behind a space, its value between quotes. -/
def writeAttributes (entries : List (String × String)) : List Char := entries.flatMap writeAttribute

/-- A key and its value as they are written. -/
def writtenPair (entry : String × String) : List Char × List Char :=
  (entry.1.toList, escape entry.2.toList)

theorem attributeList_writeAttributes {entries : List (String × String)}
    (h : ∀ entry ∈ entries, IsLabel entry.1.toList) :
    AttributeList (writeAttributes entries) (entries.map writtenPair) := by
  induction entries with
  | nil => exact .nil (List.forall_mem_nil _)
  | cons entry rest ih =>
    rw [List.forall_mem_cons] at h
    have hquote : '"' ∉ escape entry.2.toList := fun hmem =>
      not_mem_escape _ _ hmem (by decide)
    have hspace : AllBlank [' '] := by
      intro c hc
      rw [List.mem_singleton.mp hc]
      rfl
    have hcons := AttributeList.cons hspace h.1.isKey (List.forall_mem_nil _)
      (List.forall_mem_nil _) (Or.inl rfl) hquote (ih h.2)
    have htext : writeAttributes (entry :: rest) = [' '] ++ (entry.1.toList ++ ([] ++ '=' :: ([] ++
        '"' :: (escape entry.2.toList ++ '"' :: writeAttributes rest)))) := by
      simp [writeAttributes, writeAttribute]
    rw [htext]
    exact hcons

theorem tagName_append {tag : List Char} (h : ∀ c ∈ tag, isTagBlank c = false)
    (entries : List (String × String)) : tagName (tag ++ writeAttributes entries) = tag := by
  have hrest : tagName (writeAttributes entries) = [] := by
    cases entries <;> rfl
  unfold tagName at hrest ⊢
  rw [List.takeWhile_append_of_pos (by simpa using h), hrest, List.append_nil]

/-- What a written start tag says. -/
theorem headOf_write {tag : String} {attributes : Attributes} (htag : IsLabel tag.toList)
    (hkeys : ∀ entry ∈ attributes.entries, IsLabel entry.1.toList)
    (hnames : ∀ entry ∈ attributes.entries, isNamespaceKey entry.1.toList = false) :
    HeadOf (tag.toList ++ writeAttributes attributes.entries) ⟨tag, attributes⟩ := by
  have hname := tagName_append htag.not_blank attributes.entries
  have hfst : (attributes.entries.map writtenPair).map Prod.fst =
      (attributes.entries.map Prod.fst).map String.toList := by
    rw [List.map_map, List.map_map]
    rfl
  refine ⟨?_, attributes.entries.map writtenPair, ?_, ?_, ?_⟩
  · rw [hname, String.ofList_toList]
  · rw [hname, List.drop_left]
    exact attributeList_writeAttributes hkeys
  · rw [hfst]
    exact List.pairwise_map.mpr
      (attributes.distinct.imp fun hne heq => hne (String.toList_injective heq))
  · have hall : (attributes.entries.map writtenPair).filter (fun pair => !isNamespaceKey pair.1) =
        attributes.entries.map writtenPair := by
      rw [List.filter_eq_self, List.forall_mem_map]
      intro entry hmem
      simp [writtenPair, hnames entry hmem]
    rw [EntriesOf, hall, List.forall₂_map_left_iff, List.forall₂_same]
    intro entry hmem
    refine ⟨String.ofList_toList.symm, entry.2.toList, unescape_escape _, String.ofList_toList.symm⟩

/-! ## Trees -/

/-- The text of an element; an empty one needs a section of its own. -/
def writeText : Option String → List Char
  | none => []
  | some text =>
    if text = "" then ['<', '!', '[', 'C', 'D', 'A', 'T', 'A', '[', ']', ']', '>']
    else escape text.toList

mutual

def writeElement : Element → List Char
  | ⟨tag, attributes, text, children⟩ =>
    '<' :: (tag.toList ++ writeAttributes attributes.entries ++ '>' :: (writeText text ++
      (writeElements children ++ '<' :: '/' :: (tag.toList ++ ['>']))))

def writeElements : List Element → List Char
  | [] => []
  | e :: rest => writeElement e ++ writeElements rest

end

/-- The document that spells a tree. -/
def write (tree : Element) : String := String.ofList (writeElement tree)

/-- A tree that can be spelled: its tags and keys are labels, and no key would be read as one that
declares a namespace. -/
inductive Writable : Element → Prop where
  | intro {tag : String} {attributes : Attributes} {text : Option String} {children : List Element}
      (htag : IsLabel tag.toList)
      (hkeys : ∀ entry ∈ attributes.entries, IsLabel entry.1.toList ∧
        entry.1 ≠ "xmlns" ∧ ¬ "xmlns:".toList <+: entry.1.toList)
      (hchildren : ∀ child ∈ children, Writable child) :
      Writable ⟨tag, attributes, text, children⟩

end GirStubs.Markup
