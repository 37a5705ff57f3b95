import GirStubs.Proofs.Gir.TypeLeaves
import GirStubs.Proofs.Gir.TypeTerm

/-!
# Names qualified beforehand

The bare names of types take the namespace around them. They can be given it in the document, and
then the types read the same in any namespace (`heldType_qualifyBelow`). Four names are containers
as soon as they are qualified with `GLib`, so a document that uses one of them bare does not stand
for the one with qualified names there.
-/

namespace GirStubs.Gir

open Lua (TypeExpr)
open Markup

/-- The name stands for itself in a namespace. -/
def isBare (name : String) : Bool := !isQualified name && (primitive? name).isNone

/-- The bare name that a `type` element has. -/
def bareName? (e : Element) : Option String :=
  if e.tag = "type" then (e.attribute? "name").filter isBare else none

/-- The element with its own name qualified, when that is the bare name of a type. -/
def qualifyName (home : String) (e : Element) : Element :=
  match bareName? e with
  | some name => e.setAttribute "name" (home ++ "." ++ name)
  | none => e

mutual

/-- The element with all bare names of types below it qualified. -/
def qualifyBelow (home : String) : Element → Element
  | ⟨tag, attributes, text, children⟩ => ⟨tag, attributes, text, qualifyAll home children⟩

/-- The elements with the bare names of types qualified, their own and those below them. -/
def qualifyAll (home : String) : List Element → List Element
  | [] => []
  | e :: rest => qualifyName home (qualifyBelow home e) :: qualifyAll home rest

end

/-- The bare names of types below an element. -/
def bareNames (e : Element) : List String :=
  (e.children.flatMap Element.subtree).filterMap bareName?

/-- The names of the containers without their namespace. -/
def collectionNames : List String := ["Array", "List", "SList", "HashTable"]

/-! ## One name -/

section Name

variable {home name : String} {content : List TypeExpr}

theorem dot_append_inj {home' name' : String} (h : isQualified name = false)
    (h' : isQualified name' = false) (hsame : home ++ "." ++ name = home' ++ "." ++ name') :
    home = home' ∧ name = name' := by
  have hdot : '.' ∉ name.toList := by simpa [isQualified] using h
  have hdot' : '.' ∉ name'.toList := by simpa [isQualified] using h'
  have hchars : home.toList ++ '.' :: name.toList = home'.toList ++ '.' :: name'.toList := by
    simpa using congrArg String.toList hsame
  rw [← String.toList_inj, ← String.toList_inj]
  -- If one dot stood before the other, the other would stand in a name.
  obtain ⟨between, hhome, hname⟩ | ⟨between, hhome, hname⟩ := List.append_eq_append_iff.mp hchars
  · cases between with
    | nil => exact ⟨by simpa using hhome.symm, by simpa using hname⟩
    | cons c between => exact (hdot (by simp [(List.cons.inj hname).2])).elim
  · cases between with
    | nil => exact ⟨by simpa using hhome, by simpa using hname.symm⟩
    | cons c between => exact (hdot' (by simp [(List.cons.inj hname).2])).elim

theorem exists_of_container? {container : Container} (h : container? name = some container) :
    ∃ inner ∈ collectionNames, name = fallbackNamespace ++ "." ++ inner := by
  unfold container? at h
  split at h
  · next hmem =>
    simp only [List.mem_cons, List.not_mem_nil, or_false] at hmem
    obtain rfl | rfl | rfl := hmem
    · exact ⟨"Array", by decide, by decide⟩
    · exact ⟨"List", by decide, by decide⟩
    · exact ⟨"SList", by decide, by decide⟩
  · split at h
    · next htable => exact ⟨"HashTable", by decide, htable⟩
    · cases h

theorem container?_of_not_isQualified (h : isQualified name = false) : container? name = none := by
  rw [Option.eq_none_iff_forall_ne_some]
  intro container hcontainer
  obtain ⟨inner, -, rfl⟩ := exists_of_container? hcontainer
  rw [isQualified_dot_append] at h
  cases h

theorem container?_dot_append (h : isQualified name = false)
    (hclear : home ≠ fallbackNamespace ∨ name ∉ collectionNames) :
    container? (home ++ "." ++ name) = none := by
  rw [Option.eq_none_iff_forall_ne_some]
  intro container hcontainer
  obtain ⟨inner, hinner, hsame⟩ := exists_of_container? hcontainer
  have hplain : ∀ inner ∈ collectionNames, isQualified inner = false := by decide
  obtain ⟨rfl, rfl⟩ := dot_append_inj h (hplain inner hinner) hsame
  exact hclear.elim (fun hhome => hhome rfl) fun hname => hname hinner

theorem primitive?_dot_append (home name : String) : primitive? (home ++ "." ++ name) = none := by
  have hplain : ∀ entry ∈ primitives, isQualified entry.1 = false := by decide
  refine List.lookup_eq_none_iff.mpr fun entry hentry => bne_iff_ne.mpr ?_
  intro hsame
  have hqualified := isQualified_dot_append home name
  rw [hsame, hplain entry hentry] at hqualified
  cases hqualified

theorem typeAround_of_isBare (h : isBare name) (hne : home ≠ "") :
    typeAround (some home) name content = .named (home ++ "." ++ name) := by
  obtain ⟨hplain, hprimitive⟩ : isQualified name = false ∧ primitive? name = none := by
    simpa [isBare] using h
  rw [typeAround, container?_of_not_isQualified hplain, typeNamed, hprimitive,
    namespaceOf_of_ne hne, qualify, hplain, if_neg Bool.false_ne_true]

theorem typeAround_dot_append (other : Option String)
    (hcontainer : container? (home ++ "." ++ name) = none) :
    typeAround other (home ++ "." ++ name) content = .named (home ++ "." ++ name) := by
  rw [typeAround, hcontainer, typeNamed, primitive?_dot_append, qualify,
    if_pos (isQualified_dot_append home name)]

theorem typeAround_of_not_isBare (h : isBare name = false) (first second : Option String) :
    typeAround first name content = typeAround second name content := by
  unfold typeAround typeNamed
  cases container? name with
  | some container => cases container <;> rfl
  | none =>
    cases hprimitive : primitive? name with
    | some type => rfl
    | none =>
      have hqualified : isQualified name := by simpa [isBare, hprimitive] using h
      simp only [qualify, if_pos hqualified]

def qualifiedName (home name : String) : String := if isBare name then home ++ "." ++ name else name

theorem typeAround_qualifiedName (hne : home ≠ "") (other : Option String)
    (hspared : isBare name → home ≠ fallbackNamespace ∨ name ∉ collectionNames) :
    typeAround (some home) name content = typeAround other (qualifiedName home name) content := by
  cases hbare : isBare name with
  | false =>
    rw [qualifiedName, hbare, if_neg Bool.false_ne_true]
    exact typeAround_of_not_isBare hbare (some home) other
  | true =>
    have hplain : isQualified name = false := by simpa using (Bool.and_eq_true_iff.mp hbare).1
    rw [qualifiedName, if_pos hbare, typeAround_of_isBare hbare hne,
      typeAround_dot_append other (container?_dot_append hplain (hspared hbare))]

end Name

/-! ## Trees -/

theorem qualifyAll_eq (home : String) (elements : List Element) :
    qualifyAll home elements = elements.map fun e => qualifyName home (qualifyBelow home e) := by
  induction elements with
  | nil => simp [qualifyAll]
  | cons e rest ih => simp [qualifyAll, ih]

/-- The element with its own name and those below it qualified. -/
def qualified (home : String) (e : Element) : Element := qualifyName home (qualifyBelow home e)

/-- The name of the element does not become a container. -/
def Spared (home : String) (e : Element) : Prop :=
  ∀ name ∈ bareName? e, home ≠ fallbackNamespace ∨ name ∉ collectionNames

section Tree

variable {home : String} {e : Element}

theorem qualifyBelow_eq (home : String) (e : Element) :
    qualifyBelow home e = { e with children := e.children.map (qualified home) } := by
  cases e
  rw [qualifyBelow, qualifyAll_eq]
  rfl

theorem bareName?_qualifyBelow (home : String) (e : Element) :
    bareName? (qualifyBelow home e) = bareName? e := by
  rw [qualifyBelow_eq]
  rfl

theorem qualified_of_bareName? {name : String} (h : bareName? e = some name) :
    qualified home e = (qualifyBelow home e).setAttribute "name" (home ++ "." ++ name) := by
  rw [qualified, qualifyName, bareName?_qualifyBelow, h]

theorem qualified_of_bareName?_eq_none (h : bareName? e = none) :
    qualified home e = qualifyBelow home e := by
  rw [qualified, qualifyName, bareName?_qualifyBelow, h]

theorem children_qualified (home : String) (e : Element) :
    (qualified home e).children = e.children.map (qualified home) := by
  cases h : bareName? e with
  | none => rw [qualified_of_bareName?_eq_none h, qualifyBelow_eq]
  | some name => rw [qualified_of_bareName? h, qualifyBelow_eq]; rfl

@[simp]
theorem tag_qualified (home : String) (e : Element) : (qualified home e).tag = e.tag := by
  cases h : bareName? e with
  | none => rw [qualified_of_bareName?_eq_none h, qualifyBelow_eq]
  | some name => rw [qualified_of_bareName? h, qualifyBelow_eq]; rfl

theorem filter_tag_qualified (home tag : String) (elements : List Element) :
    (elements.map (qualified home)).filter (·.tag = tag) =
      (elements.filter (·.tag = tag)).map (qualified home) := by
  simp [List.filter_map, Function.comp_def]

theorem childrenTagged_qualified (home tag : String) (e : Element) :
    (qualified home e).childrenTagged tag = (e.childrenTagged tag).map (qualified home) := by
  rw [Element.childrenTagged, children_qualified, filter_tag_qualified]
  rfl

theorem child?_qualifyBelow (home tag : String) (e : Element) :
    (qualifyBelow home e).child? tag = (e.child? tag).map (qualified home) := by
  rw [Element.child?_eq_head?, Element.child?_eq_head?, qualifyBelow_eq, Element.childrenTagged,
    filter_tag_qualified, List.head?_map]
  rfl

theorem attribute?_qualified (htag : e.tag = "type") :
    (qualified home e).attribute? "name" = (e.attribute? "name").map (qualifiedName home) := by
  have hbelow : (qualifyBelow home e).attribute? "name" = e.attribute? "name" := by
    rw [qualifyBelow_eq]
    rfl
  cases hname : e.attribute? "name" with
  | none =>
    have hbare : bareName? e = none := by simp [bareName?, hname]
    rw [qualified_of_bareName?_eq_none hbare, hbelow, hname]
    rfl
  | some name =>
    cases hbare : isBare name with
    | false =>
      have hnone : bareName? e = none := by simp [bareName?, hname, Option.filter, hbare]
      rw [qualified_of_bareName?_eq_none hnone, hbelow, hname]
      simp [qualifiedName, hbare]
    | true =>
      have hsome : bareName? e = some name := by
        simp [bareName?, htag, hname, Option.filter, hbare]
      rw [qualified_of_bareName? hsome, Element.attribute?_setAttribute]
      simp [qualifiedName, hbare]

theorem writtenType_qualified (hne : home ≠ "") (other : Option String) (htag : e.tag = "type")
    (hspared : ∀ d ∈ e.subtree, Spared home d) :
    writtenType (some home) e = writtenType other (qualified home e) := by
  induction e using Element.induction with
  | step e ih =>
    obtain ⟨hown, hbelow⟩ := Element.forall_subtree_iff.mp hspared
    -- What is below reads the same whether or not the name makes the element a container.
    have hcontent : (e.childrenTagged "type").map (writtenType (some home)) =
        ((qualified home e).childrenTagged "type").map (writtenType other) := by
      rw [childrenTagged_qualified, List.map_map]
      refine List.map_congr_left fun c hc => ?_
      have hmem := Element.mem_children_of_mem_childrenTagged hc
      exact ih c hmem (by simpa using (List.mem_filter.mp hc).2) (hbelow c hmem)
    rw [writtenType_eq, hcontent, writtenType_eq other, attribute?_qualified htag]
    cases hname : e.attribute? "name" with
    | none => rfl
    | some name =>
      refine typeAround_qualifiedName hne other fun hbare => hown name ?_
      simp [bareName?, htag, hname, Option.filter, hbare]

theorem heldType_qualified (hne : home ≠ "") (other : Option String)
    (hspared : ∀ c ∈ e.children, ∀ d ∈ c.subtree, Spared home d) :
    heldType (some home) e = heldType other (qualifyBelow home e) := by
  induction e using Element.induction with
  | step e ih =>
    rw [heldType_eq, heldType_eq other, child?_qualifyBelow, child?_qualifyBelow]
    cases harray : e.child? "array" with
    | some array =>
      have hmem := Element.mem_children_of_child? harray
      have htag : array.tag = "array" := by simpa using List.find?_some harray
      -- An array keeps its own name: only `type` elements are renamed.
      have hplain : qualified home array = qualifyBelow home array :=
        qualified_of_bareName?_eq_none (by simp [bareName?, htag])
      have hbelow := (Element.forall_subtree_iff.mp (hspared array hmem)).2
      rw [Option.map_some, hplain]
      exact congrArg TypeExpr.array (ih array hmem hbelow)
    | none =>
      cases htype : e.child? "type" with
      | none => rfl
      | some type =>
        have htag : type.tag = "type" := by simpa using List.find?_some htype
        exact writtenType_qualified hne other htag
          (hspared type (Element.mem_children_of_child? htype))

theorem types_congr {first second : Option String} (h : namespaceOf first = namespaceOf second)
    (e : Element) :
    heldType first e = heldType second e ∧ writtenType first e = writtenType second e := by
  have hnamed : typeNamed first = typeNamed second := by
    funext name
    rw [typeNamed, typeNamed, h]
  induction e using Element.induction with
  | step e ih =>
    constructor
    · rw [heldType_eq, heldType_eq second]
      split
      · next array harray =>
        rw [(ih array (Element.mem_children_of_child? harray)).1]
      · cases htype : e.child? "type" with
        | none => rfl
        | some type => exact (ih type (Element.mem_children_of_child? htype)).2
    · have hcontent : (e.childrenTagged "type").map (writtenType first) =
          (e.childrenTagged "type").map (writtenType second) :=
        List.map_congr_left fun c hc =>
          (ih c (Element.mem_children_of_mem_childrenTagged hc)).2
      have haround : typeAround first = typeAround second := by
        funext name content
        rw [typeAround, typeAround, hnamed]
      rw [writtenType_eq, writtenType_eq second, hcontent, haround]

end Tree

/-- **Names can be qualified beforehand**: unless a bare name becomes that of a container, what is
read in a namespace is read anywhere from the qualified names. A missing namespace and an empty one
are the one that stands in for them. -/
theorem heldType_qualifyBelow :
    (∀ (home : String) (other : Option String) (e : Element), home ≠ "" →
      (home ≠ "GLib" ∨ ∀ name ∈ bareNames e, name ∉ ["Array", "List", "SList", "HashTable"]) →
      heldType (some home) e = heldType other (qualifyBelow home e)) ∧
    ∀ e : Element, heldType none e = heldType (some "") e ∧
      heldType (some "") e = heldType (some "GLib") e := by
  refine ⟨?_, fun e => ⟨(types_congr (by decide) e).1, (types_congr (by decide) e).1⟩⟩
  intro home other e hne hclear
  refine heldType_qualified hne other fun c hc d hd name hname => ?_
  refine hclear.imp_right fun hall => hall name ?_
  exact List.mem_filterMap.mpr ⟨d, List.mem_flatMap.mpr ⟨c, hc, hd⟩, hname⟩

open TypeTerm (typeElement) in
/-- A parameter that holds tables, with a bare name that is also one of a container. -/
def bareParameter : Element where
  tag := "parameter"
  children :=
    [{ tag := "array"
       children :=
         [typeElement "GLib.HashTable"
           [typeElement "List" [], typeElement "GLib.List" [typeElement "Widget" []]]] }]

theorem heldType_qualifyBelow_bareParameter :
    ("Gtk" ≠ "" ∧ "Gtk" ≠ "GLib") ∧
      heldType (some "Gtk") bareParameter =
        heldType none (qualifyBelow "Gtk" bareParameter) ∧
      (heldType (some "Gtk") bareParameter).render = "table<Gtk.List, Gtk.Widget[]>[]" ∧
      heldType none bareParameter = heldType (some "") bareParameter :=
  have hne : "Gtk" ≠ "" ∧ "Gtk" ≠ "GLib" := by decide
  ⟨hne, heldType_qualifyBelow.1 "Gtk" none bareParameter hne.1 (.inl hne.2), by decide,
    (heldType_qualifyBelow.2 bareParameter).1⟩

-- In GLib the bare list is a type of that name, and the qualified one is a container.
example :
    heldType (some "GLib") bareParameter ≠ heldType none (qualifyBelow "GLib" bareParameter) := by
  decide +kernel

end GirStubs.Gir
