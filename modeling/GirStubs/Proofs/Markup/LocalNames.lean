import GirStubs.Markup.LocalName
import GirStubs.Proofs.FirstOccurrences
import GirStubs.Proofs.Markup.AttributeList
import GirStubs.Proofs.Markup.Subtree
import Mathlib.Data.List.Forall2
import Mathlib.Data.List.TakeWhile

/-!
# Trees with local names

A local name stands behind the last colon, in what stands behind the first closing brace
(`localName_eq_iff`). Setting pairs one after the other gives each key once, where it comes first
(`keys_ofList`) and with the value that comes last (`get?_ofList`). So a tree with local names is
told by the labels of the tree that it is made from (`localForm_iff`), and labels of one local name
are not told apart (`AgreesLocally.localized_eq`).
-/

namespace GirStubs.Markup

/-! ## Local names -/

/-- The name stands behind the last colon, in what stands behind the first closing brace. Where
there is no such mark, nothing is cut off. -/
def IsLocalName (label name : List Char) : Prop :=
  ∃ rest, (closingBrace ∉ label ∧ rest = label ∨
      ∃ front, closingBrace ∉ front ∧ label = front ++ closingBrace :: rest) ∧
    ':' ∉ name ∧ (rest = name ∨ ∃ front, rest = front ++ ':' :: name)

section Cut

variable {mark : Char} {label front rest name : List Char}

theorem ne_of_mem_of_not_mem (h : mark ∉ label) : ∀ c ∈ label, decide (c ≠ mark) = true :=
  fun _ hc => decide_eq_true fun heq => h (heq ▸ hc)

theorem afterFirst_of_not_mem (h : mark ∉ label) : afterFirst mark label = label := by
  have hnothing : label.dropWhile (· ≠ mark) = [] :=
    List.dropWhile_eq_nil_iff.mpr (ne_of_mem_of_not_mem h)
  unfold afterFirst
  rw [hnothing]

theorem afterFirst_append (h : mark ∉ front) : afterFirst mark (front ++ mark :: rest) = rest := by
  unfold afterFirst
  rw [List.dropWhile_append_of_pos (ne_of_mem_of_not_mem h),
    List.dropWhile_cons_of_neg (by simp)]

theorem afterLast_of_not_mem (h : mark ∉ name) : afterLast mark name = name := by
  have hall : name.reverse.takeWhile (· ≠ mark) = name.reverse :=
    List.takeWhile_eq_self_iff.mpr (ne_of_mem_of_not_mem (by simpa using h))
  rw [afterLast, hall, List.reverse_reverse]

theorem afterLast_append (h : mark ∉ name) : afterLast mark (front ++ mark :: name) = name := by
  have hname : mark ∉ name.reverse := by simpa using h
  rw [afterLast, List.reverse_append, List.reverse_cons, List.append_assoc,
    List.takeWhile_append_of_pos (ne_of_mem_of_not_mem hname), List.singleton_append,
    List.takeWhile_cons_of_neg (by simp), List.append_nil, List.reverse_reverse]

end Cut

section Label

variable {label name : String}

theorem toList_localName (label : String) :
    (localName label).toList = afterLast ':' (afterFirst closingBrace label.toList) :=
  String.toList_ofList

theorem IsLocalName.eq (h : IsLocalName label.toList name.toList) : localName label = name := by
  obtain ⟨rest, hbrace, hcolon, hrest⟩ := h
  have hfirst : afterFirst closingBrace label.toList = rest := by
    obtain ⟨habsent, rfl⟩ | ⟨front, hfront, hlabel⟩ := hbrace
    · exact afterFirst_of_not_mem habsent
    · rw [hlabel, afterFirst_append hfront]
  rw [← String.toList_inj, toList_localName, hfirst]
  obtain rfl | ⟨front, rfl⟩ := hrest
  · exact afterLast_of_not_mem hcolon
  · exact afterLast_append hcolon

theorem exists_isLocalName (label : List Char) : ∃ name, IsLocalName label name := by
  obtain ⟨rest, hrest⟩ : ∃ rest, closingBrace ∉ label ∧ rest = label ∨
      ∃ front, closingBrace ∉ front ∧ label = front ++ closingBrace :: rest := by
    by_cases hbrace : closingBrace ∈ label
    · obtain ⟨front, rest, hlabel, hfront⟩ := List.eq_append_cons_of_mem hbrace
      exact ⟨rest, .inr ⟨front, hfront, hlabel⟩⟩
    · exact ⟨label, .inl ⟨hbrace, rfl⟩⟩
  by_cases hcolon : ':' ∈ rest
  · -- The last colon is the first one from the end.
    obtain ⟨name, front, hreverse, hname⟩ :=
      List.eq_append_cons_of_mem (List.mem_reverse.mpr hcolon)
    refine ⟨name.reverse, rest, hrest, by simpa using hname, .inr ⟨front.reverse, ?_⟩⟩
    simpa using congrArg List.reverse hreverse
  · exact ⟨rest, rest, hrest, hcolon, .inl rfl⟩

theorem localName_eq_iff : localName label = name ↔ IsLocalName label.toList name.toList := by
  constructor
  · rintro rfl
    obtain ⟨name, hname⟩ := exists_isLocalName label.toList
    have heq : localName label = String.ofList name :=
      IsLocalName.eq (by rwa [String.toList_ofList])
    rwa [heq, String.toList_ofList]
  · exact IsLocalName.eq

theorem colon_not_mem_localName (label : String) : ':' ∉ (localName label).toList := by
  obtain ⟨-, -, hcolon, -⟩ := localName_eq_iff.mp (rfl : localName label = localName label)
  exact hcolon

/-- A second brace is the only thing that is left to cut at. -/
theorem localName_localName (h : label.toList.count closingBrace ≤ 1) :
    localName (localName label) = localName label := by
  obtain ⟨rest, hbrace, hcolon, hrest⟩ :=
    localName_eq_iff.mp (rfl : localName label = localName label)
  have hclear : closingBrace ∉ rest := by
    obtain ⟨habsent, rfl⟩ | ⟨front, hfront, hlabel⟩ := hbrace
    · exact habsent
    · rw [hlabel, List.count_append, List.count_eq_zero_of_not_mem hfront,
        List.count_cons_self] at h
      exact List.count_eq_zero.mp (by omega)
  refine localName_eq_iff.mpr ⟨_, .inl ⟨?_, rfl⟩, hcolon, .inl rfl⟩
  rcases hrest with heq | ⟨front, heq⟩
  · rwa [← heq]
  · rw [heq] at hclear
    exact fun hmem => hclear (List.mem_append_right front (List.mem_cons_of_mem ':' hmem))

end Label

/-! ## Attributes -/

namespace Attributes

section Pairs

variable {key value : String} {entries pairs : List (String × String)}

theorem keys_setEntry (key value : String) (entries : List (String × String)) :
    (setEntry key value entries).map Prod.fst =
      if key ∈ entries.map Prod.fst then entries.map Prod.fst
      else entries.map Prod.fst ++ [key] := by
  induction entries with
  | nil => rfl
  | cons entry rest ih =>
    by_cases hsame : entry.1 = key
    · simp [setEntry, hsame]
    · rw [setEntry, if_neg hsame, List.map_cons, ih, List.map_cons]
      by_cases hrest : key ∈ rest.map Prod.fst
      · rw [if_pos hrest, if_pos (List.mem_cons_of_mem _ hrest)]
      · rw [if_neg hrest, if_neg (by simpa [Ne.symm hsame] using hrest), List.cons_append]

theorem ofList_concat (pairs : List (String × String)) (pair : String × String) :
    ofList (pairs ++ [pair]) = (ofList pairs).set pair.1 pair.2 := by
  simp [ofList, List.foldl_append]

/-- Each key stands once, where it comes first. -/
theorem keys_ofList (pairs : List (String × String)) :
    (ofList pairs).entries.map Prod.fst = (pairs.map Prod.fst).eraseDups := by
  induction pairs using List.reverseRecOn with
  | nil => rfl
  | append_singleton pairs pair ih =>
    rw [ofList_concat, entries_set, keys_setEntry, ih, List.map_append, List.map_singleton,
      eraseDups_concat]
    simp only [List.mem_eraseDups]

/-- The value that comes last is kept. -/
theorem get?_ofList (pairs : List (String × String)) (key : String) :
    (ofList pairs).get? key = (pairs.filter (·.1 = key)).getLast?.map Prod.snd := by
  induction pairs using List.reverseRecOn with
  | nil => rfl
  | append_singleton pairs pair ih =>
    rw [ofList_concat, get?_set, ih, List.filter_append]
    split
    · next hsame => simp [hsame]
    · next hother => simp [Ne.symm hother]

theorem ofList_eq_of_nodup (h : (pairs.map Prod.fst).Nodup) : (ofList pairs).entries = pairs := by
  induction pairs using List.reverseRecOn with
  | nil => rfl
  | append_singleton pairs pair ih =>
    rw [List.map_append, List.map_singleton] at h
    obtain ⟨hpairs, -, hnew⟩ := List.nodup_append.mp h
    rw [ofList_concat, entries_set, ih hpairs, setEntry_of_not_mem]
    exact fun hmem => hnew _ hmem _ (List.mem_singleton_self _) rfl

theorem lookup_of_mem (h : (entries.map Prod.fst).Nodup) {entry : String × String}
    (hentry : entry ∈ entries) : entries.lookup entry.1 = some entry.2 := by
  obtain ⟨before, behind, rfl⟩ := List.append_of_mem hentry
  refine List.lookup_eq_some_iff.mpr ⟨before, behind, rfl, fun other hother => ?_⟩
  rw [List.map_append, List.nodup_append] at h
  exact bne_iff_ne.mpr (h.2.2 _ (List.mem_map_of_mem hother) _ List.mem_cons_self).symm

theorem entries_eq_map_keys (attributes : Attributes) :
    attributes.entries =
      (attributes.entries.map Prod.fst).map fun key => (key, (attributes.get? key).getD "") := by
  rw [List.map_map]
  refine (List.map_id _).symm.trans (List.map_congr_left fun entry hentry => ?_)
  simp [get?, lookup_of_mem attributes.distinct hentry]

/-- Attributes are told by their keys in order and the value of each. -/
theorem eq_of_keys {first second : Attributes}
    (hkeys : first.entries.map Prod.fst = second.entries.map Prod.fst)
    (hvalues : ∀ key, first.get? key = second.get? key) : first = second := by
  apply Attributes.ext
  rw [entries_eq_map_keys first, entries_eq_map_keys second, hkeys]
  simp only [hvalues]

end Pairs

/-- The attributes under their local names: each name stands once, where it comes first, and has
the value of the last attribute with that local name. -/
structure LocalForm (attributes reduced : Attributes) : Prop where
  keys : reduced.entries.map Prod.fst =
    (attributes.entries.map fun entry => localName entry.1).eraseDups
  value : ∀ key, reduced.get? key =
    (attributes.entries.filter fun entry => localName entry.1 = key).getLast?.map Prod.snd

theorem localForm_localized (attributes : Attributes) :
    attributes.LocalForm attributes.localized where
  keys := by
    rw [localized, keys_ofList, List.map_map]
    rfl
  value := fun key => by
    rw [localized, get?_ofList, List.filter_map, List.getLast?_map, Option.map_map]
    simp only [Function.comp_def]

theorem localForm_iff {attributes reduced : Attributes} :
    attributes.LocalForm reduced ↔ reduced = attributes.localized := by
  have hform := localForm_localized attributes
  constructor
  · intro h
    exact eq_of_keys (h.keys.trans hform.keys.symm) fun key =>
      (h.value key).trans (hform.value key).symm
  · rintro rfl
    exact hform

theorem localized_eq_self {attributes : Attributes}
    (h : ∀ entry ∈ attributes.entries, localName entry.1 = entry.1) :
    attributes.localized = attributes := by
  have hentries : attributes.entries.map (fun entry => (localName entry.1, entry.2)) =
      attributes.entries := by
    refine (List.map_congr_left fun entry hentry => ?_).trans (List.map_id _)
    rw [h entry hentry]
    rfl
  apply Attributes.ext
  rw [localized, hentries, ofList_eq_of_nodup attributes.distinct]

end Attributes

/-! ## Trees -/

theorem map_eq_map_of_forall₂ {α β γ : Type} {r : α → β → Prop} {f : α → γ} {g : β → γ}
    {l : List α} {l' : List β} (h : List.Forall₂ r l l') (hr : ∀ a ∈ l, ∀ b, r a b → f a = g b) :
    l.map f = l'.map g := by
  induction h with
  | nil => rfl
  | @cons a b l l' hab _ ih =>
    obtain ⟨ha, hl⟩ := List.forall_mem_cons.mp hr
    rw [List.map_cons, List.map_cons, ha b hab, ih hl]

namespace Element

/-- The tree with local names that a tree stands for: the same shape and texts, the local name of
each tag, and the attributes of each element under their local names. -/
inductive LocalForm : Element → Element → Prop where
  | node {tag : String} {attributes reduced : Attributes} {text : Option String}
      {children below : List Element} (own : attributes.LocalForm reduced)
      (under : List.Forall₂ LocalForm children below) :
      LocalForm ⟨tag, attributes, text, children⟩ ⟨localName tag, reduced, text, below⟩

/-- Two trees of one shape, with the same texts and values, whose labels have the same local
names. -/
inductive AgreesLocally : Element → Element → Prop where
  | node {tag tag' : String} {attributes attributes' : Attributes} {text : Option String}
      {children children' : List Element} (tags : localName tag = localName tag')
      (own : List.Forall₂ (fun entry entry' => localName entry.1 = localName entry'.1 ∧
        entry.2 = entry'.2) attributes.entries attributes'.entries)
      (under : List.Forall₂ AgreesLocally children children') :
      AgreesLocally ⟨tag, attributes, text, children⟩ ⟨tag', attributes', text, children'⟩

/-- The tags and keys of a tree. -/
def labels (e : Element) : List String :=
  e.subtree.flatMap fun d => d.tag :: d.attributes.entries.map Prod.fst

variable {e e' : Element}

theorem localized_mk (tag : String) (attributes : Attributes) (text : Option String)
    (children : List Element) :
    localized ⟨tag, attributes, text, children⟩ =
      ⟨localName tag, attributes.localized, text, children.map localized⟩ := by
  rw [localized, localizedAll_eq_map]

theorem localForm_localized (e : Element) : LocalForm e e.localized := by
  induction e using Element.induction with
  | step e ih =>
    obtain ⟨tag, attributes, text, children⟩ := e
    rw [localized_mk]
    refine .node attributes.localForm_localized ?_
    rw [List.forall₂_map_right_iff]
    exact List.forall₂_same.mpr ih

theorem LocalForm.eq {reduced : Element} (h : LocalForm e reduced) : e.localized = reduced := by
  induction e using Element.induction generalizing reduced with
  | step e ih =>
    cases h with
    | @node tag attributes reduced text children below own under =>
      have hbelow : children.map localized = below.map id :=
        map_eq_map_of_forall₂ under fun c hc d hform => ih c hc hform
      rw [localized_mk, Attributes.localForm_iff.mp own, hbelow, List.map_id]

theorem localForm_iff {reduced : Element} : LocalForm e reduced ↔ reduced = e.localized := by
  constructor
  · exact fun h => h.eq.symm
  · rintro rfl
    exact localForm_localized e

theorem AgreesLocally.localized_eq (h : AgreesLocally e e') : e.localized = e'.localized := by
  induction e using Element.induction generalizing e' with
  | step e ih =>
    cases h with
    | @node tag tag' attributes attributes' text children children' tags own under =>
      have hown : attributes.localized = attributes'.localized :=
        congrArg Attributes.ofList
          (map_eq_map_of_forall₂ own fun _ _ _ hsame => Prod.ext hsame.1 hsame.2)
      have hunder : children.map localized = children'.map localized :=
        map_eq_map_of_forall₂ under fun c hc _ hagree => ih c hc hagree
      rw [localized_mk, localized_mk, tags, hown, hunder]

theorem labels_eq (e : Element) :
    e.labels = (e.tag :: e.attributes.entries.map Prod.fst) ++ e.children.flatMap labels := by
  unfold labels
  rw [subtree_eq, List.flatMap_cons, List.flatMap_assoc]

theorem forall_labels_iff {p : String → Prop} :
    (∀ label ∈ e.labels, p label) ↔
      (p e.tag ∧ ∀ key ∈ e.attributes.entries.map Prod.fst, p key) ∧
        ∀ c ∈ e.children, ∀ label ∈ c.labels, p label := by
  rw [labels_eq, List.forall_mem_append, List.forall_mem_cons]
  simp only [List.mem_flatMap]
  grind

/-- Every label of a tree with local names is the local name of a label. -/
theorem forall_labels_localized {p : String → Prop} (h : ∀ label ∈ e.labels, p (localName label)) :
    ∀ label ∈ e.localized.labels, p label := by
  induction e using Element.induction with
  | step e ih =>
    obtain ⟨⟨htag, hkeys⟩, hunder⟩ := forall_labels_iff.mp h
    refine forall_labels_iff.mpr ⟨⟨?_, fun key hkey => ?_⟩, ?_⟩
    · rwa [tag_localized]
    · rw [attributes_localized, e.attributes.localForm_localized.keys, List.mem_eraseDups] at hkey
      obtain ⟨entry, hentry, rfl⟩ := List.mem_map.mp hkey
      exact hkeys entry.1 (List.mem_map_of_mem hentry)
    · rw [children_localized, List.forall_mem_map]
      exact fun c hc => ih c hc (hunder c hc)

theorem localized_eq_self (h : ∀ label ∈ e.labels, localName label = label) : e.localized = e := by
  induction e using Element.induction with
  | step e ih =>
    obtain ⟨⟨htag, hkeys⟩, hunder⟩ := forall_labels_iff.mp h
    obtain ⟨tag, attributes, text, children⟩ := e
    have hchildren : children.map localized = children :=
      (List.map_congr_left fun c hc => ih c hc (hunder c hc)).trans (List.map_id _)
    rw [localized_mk, htag, Attributes.localized_eq_self (List.forall_mem_map.mp hkeys), hchildren]

/-- **A tree with local names is told by the labels.** A local name stands behind the last colon of
what stands behind the first closing brace. The tree with local names is the one with the shape and
the texts of the given one, with the local name of each tag, and with each local name of a key once
in an element, where it comes first and with the value that comes last. Its labels have no colon,
labels with one local name make no difference to it, and where no label has a second brace it is
its own tree with local names. -/
theorem localized_meaning (e : Element) :
    (∀ label name : String, localName label = name ↔ IsLocalName label.toList name.toList) ∧
      (∀ reduced, LocalForm e reduced ↔ reduced = e.localized) ∧
      (∀ label ∈ e.localized.labels, ':' ∉ label.toList) ∧
      (∀ e', AgreesLocally e e' → e.localized = e'.localized) ∧
      ((∀ label ∈ e.labels, label.toList.count closingBrace ≤ 1) →
        e.localized.localized = e.localized) := by
  refine ⟨fun _ _ => localName_eq_iff, fun _ => localForm_iff, ?_, fun _ h => h.localized_eq, ?_⟩
  · exact forall_labels_localized fun label _ => colon_not_mem_localName label
  · intro hbraces
    apply localized_eq_self
    exact forall_labels_localized fun label hlabel => localName_localName (hbraces label hlabel)

/-- A tree whose labels have namespaces in both spellings, with two keys that fall together. -/
def spelledTree : Element where
  tag := "\x7buri:c\x7dc:record"
  attributes := .ofList [("name", "Box"), ("x:name", "Tray"), ("\x7buri:c\x7dtype", "GtkBox")]
  children := [{ tag := "glib:signal", text := "" }]

/-- A tree with the same local names. -/
def respelledTree : Element where
  tag := "record"
  attributes := .ofList [("y:name", "Box"), ("name", "Tray"), ("c:type", "GtkBox")]
  children := [{ tag := "\x7d:signal", text := "" }]

theorem localized_meaning_spelledTree :
    AgreesLocally spelledTree respelledTree ∧
      (∀ label ∈ spelledTree.labels, label.toList.count closingBrace ≤ 1) ∧
      LocalForm spelledTree
        { tag := "record"
          attributes := .ofList [("name", "Tray"), ("type", "GtkBox")]
          children := [{ tag := "signal", text := "" }] } ∧
      spelledTree.localized = respelledTree.localized ∧
      spelledTree.localized.localized = spelledTree.localized := by
  obtain ⟨-, hform, -, hagree, hidem⟩ := localized_meaning spelledTree
  have hbraces : ∀ label ∈ spelledTree.labels, label.toList.count closingBrace ≤ 1 := by
    decide +kernel
  have hsame : AgreesLocally spelledTree respelledTree := by
    refine .node (by decide) ?_ (.cons (.node (by decide) .nil .nil) .nil)
    exact .cons (by decide) (.cons (by decide) (.cons (by decide) .nil))
  exact ⟨hsame, hbraces, (hform _).mpr (by decide +kernel), hagree _ hsame, hidem hbraces⟩

-- What follows a second brace is cut free only the second time.
example : localName "a\x7db\x7dc" = "b\x7dc" ∧ localName (localName "a\x7db\x7dc") = "c" := by
  decide

end Element

end GirStubs.Markup
