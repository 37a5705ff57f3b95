import GirStubs.Proofs.Gir.TypeSkeleton

/-!
# Names that are empty

`withoutEmptyNames` deletes from an element, and from all below it, each attribute that names
something and is empty. Most look-ups do not notice, since they take an empty name for none
(`nonEmpty?_withoutEmptyNames`). The name of a `type` is taken as it stands: `TakenNames.ofHolder`
lists the names that are looked at when the type of an element is read, and that type stays the
same just when none of them is empty (`heldType_withoutEmptyNames`).
-/

namespace GirStubs.Gir

open Lua (TypeExpr)
open Markup

/-! ## Deleting empty names -/

/-- The keys of attributes that name something. -/
def nameKeys : List String := ["name", "shadows", "shadowed-by", "parent"]

/-- The attribute names something, and is empty. -/
def isEmptyName (entry : String × String) : Bool := entry.1 ∈ nameKeys && entry.2 = ""

/-- The attributes without empty names. -/
def namedAttributes (attributes : Attributes) : Attributes where
  entries := attributes.entries.filter fun entry => !isEmptyName entry
  distinct := attributes.distinct.sublist (List.filter_sublist.map Prod.fst)

mutual

/-- The element without the empty names in it, its own and those of everything below it. -/
def withoutEmptyNames : Element → Element
  | ⟨tag, attributes, text, children⟩ =>
    ⟨tag, namedAttributes attributes, text, withoutEmptyNamesAll children⟩

/-- Each of the elements without the empty names in it. -/
def withoutEmptyNamesAll : List Element → List Element
  | [] => []
  | e :: rest => withoutEmptyNames e :: withoutEmptyNamesAll rest

end

theorem withoutEmptyNamesAll_eq (elements : List Element) :
    withoutEmptyNamesAll elements = elements.map withoutEmptyNames := by
  induction elements with
  | nil => simp [withoutEmptyNamesAll]
  | cons e rest ih => simp [withoutEmptyNamesAll, ih]

section Element

variable {e : Element} {key : String}

theorem withoutEmptyNames_eq (e : Element) :
    withoutEmptyNames e =
      { e with
        attributes := namedAttributes e.attributes
        children := e.children.map withoutEmptyNames } := by
  cases e
  rw [withoutEmptyNames, withoutEmptyNamesAll_eq]

@[simp]
theorem tag_withoutEmptyNames (e : Element) : (withoutEmptyNames e).tag = e.tag := by
  rw [withoutEmptyNames_eq]

@[simp]
theorem text_withoutEmptyNames (e : Element) : (withoutEmptyNames e).text = e.text := by
  rw [withoutEmptyNames_eq]

@[simp]
theorem children_withoutEmptyNames (e : Element) :
    (withoutEmptyNames e).children = e.children.map withoutEmptyNames := by
  rw [withoutEmptyNames_eq]

theorem childrenTagged_withoutEmptyNames (e : Element) (tag : String) :
    (withoutEmptyNames e).childrenTagged tag = (e.childrenTagged tag).map withoutEmptyNames := by
  simp [Element.childrenTagged, List.filter_map, Function.comp_def]

theorem child?_withoutEmptyNames (e : Element) (tag : String) :
    (withoutEmptyNames e).child? tag = (e.child? tag).map withoutEmptyNames := by
  rw [Element.child?_eq_head?, Element.child?_eq_head?, childrenTagged_withoutEmptyNames,
    List.head?_map]

/-- With distinct keys, nothing is found in place of an entry that is deleted. -/
theorem lookup_filter {entries : List (String × String)} (kept : String × String → Bool)
    (key : String) (h : (entries.map Prod.fst).Nodup) :
    (entries.filter kept).lookup key =
      (entries.lookup key).filter fun value => kept (key, value) := by
  induction entries with
  | nil => rfl
  | cons entry rest ih =>
    obtain ⟨k, value⟩ := entry
    rw [List.map_cons, List.nodup_cons] at h
    by_cases hsame : key = k
    · subst hsame
      have habsent : rest.lookup key = none := by
        rw [List.lookup_eq_none_iff]
        intro other hother
        exact bne_iff_ne.mpr fun heq => h.1 (List.mem_map.mpr ⟨other, hother, heq.symm⟩)
      cases hkept : kept (key, value) <;> simp [hkept, ih h.2, habsent, Option.filter_some]
    · have hother : (key == k) = false := beq_false_of_ne hsame
      cases hkept : kept (k, value) <;> simp [hkept, List.lookup_cons, hother, ih h.2]

theorem attribute?_withoutEmptyNames (e : Element) (key : String) :
    (withoutEmptyNames e).attribute? key =
      (e.attribute? key).filter fun value => !isEmptyName (key, value) := by
  rw [withoutEmptyNames_eq]
  exact lookup_filter _ key e.attributes.distinct

theorem attribute?_of_not_mem (h : key ∉ nameKeys) :
    (withoutEmptyNames e).attribute? key = e.attribute? key := by
  rw [attribute?_withoutEmptyNames]
  cases e.attribute? key <;> simp [isEmptyName, h]

theorem flag_of_not_mem (h : key ∉ nameKeys) : (withoutEmptyNames e).flag key = e.flag key := by
  rw [Element.flag, attribute?_of_not_mem h, Element.flag]

theorem attribute?_of_mem (h : key ∈ nameKeys) :
    (withoutEmptyNames e).attribute? key = e.nonEmpty? key := by
  rw [attribute?_withoutEmptyNames, Element.nonEmpty?]
  simp [isEmptyName, h]

@[simp]
theorem nonEmpty?_withoutEmptyNames (e : Element) (key : String) :
    (withoutEmptyNames e).nonEmpty? key = e.nonEmpty? key := by
  by_cases h : key ∈ nameKeys
  · rw [Element.nonEmpty?, attribute?_of_mem h, Element.nonEmpty?, Option.filter_filter]
    simp
  · rw [Element.nonEmpty?, attribute?_of_not_mem h, Element.nonEmpty?]

@[simp]
theorem name?_withoutEmptyNames (e : Element) : name? (withoutEmptyNames e) = name? e :=
  nonEmpty?_withoutEmptyNames e "name"

@[simp]
theorem isHidden_withoutEmptyNames (e : Element) : isHidden (withoutEmptyNames e) = isHidden e := by
  rw [isHidden, attribute?_of_not_mem (by decide), isHidden]

@[simp]
theorem documentation_withoutEmptyNames (e : Element) :
    documentation (withoutEmptyNames e) = documentation e := by
  rw [documentation, child?_withoutEmptyNames, documentation]
  cases e.child? "doc" <;> simp

end Element

/-! ## Types -/

namespace TakenNames

/-- The names that are taken as they stand when a `type` is read. -/
def ofType (e : Element) : List String :=
  (typeSkeleton e).subtree.filterMap (·.attribute? "name")

/-- The names that are taken as they stand when the type is read that an element holds. -/
def ofHolder (e : Element) : List String :=
  (heldSkeleton e).subtree.filterMap (·.attribute? "name")

theorem ofType_eq (e : Element) :
    ofType e =
      match e.attribute? "name" with
      | none => []
      | some name => name :: ((e.childrenTagged "type").take (places name)).flatMap ofType := by
  rw [ofType, Element.subtree_eq, List.filterMap_cons, attribute?_typeSkeleton, typeSkeleton_eq]
  cases e.attribute? "name" with
  | none => rfl
  | some name =>
    dsimp only
    rw [List.filterMap_flatMap, List.flatMap_map]
    rfl

theorem ofHolder_eq (e : Element) :
    ofHolder e =
      match e.child? "array" with
      | some array => ofHolder array
      | none => (e.child? "type").toList.flatMap ofType := by
  have hown : (heldSkeleton e).attribute? "name" = none := by
    rw [heldSkeleton_eq]
    rfl
  rw [ofHolder, Element.subtree_eq, List.filterMap_cons, hown, heldSkeleton_eq]
  cases e.child? "array" with
  | some array => simp [ofHolder]
  | none => cases e.child? "type" <;> simp [ofType]

end TakenNames

section Types

variable {home : Option String}

/-- An empty name is the name of something, and a missing one of nothing known. -/
theorem typeAround_empty_ne_unknown (content : List TypeExpr) :
    typeAround home "" content ≠ .unknown := by
  have hdot : qualify (namespaceOf home) "" ≠ "unknown" := qualify_ne (by decide)
  have hempty : qualify (namespaceOf home) "" ≠ "" := qualify_ne (by decide)
  show TypeExpr.named (qualify (namespaceOf home) "") ≠ .unknown
  rw [TypeExpr.named, if_neg hempty]
  exact fun h => hdot (TypeExpr.name.inj h)

/-- A container takes as many types as it has places. -/
theorem typeAround_map_eq_iff {name : String} {l : List Element} {f g : Element → TypeExpr} :
    typeAround home name (l.map f) = typeAround home name (l.map g) ↔
      ∀ c ∈ l.take (places name), f c = g c := by
  unfold typeAround places
  cases container? name with
  | none => simp
  | some container =>
    cases container with
    | sequence =>
      cases l with
      | nil => simp
      | cons first rest => simp
    | table =>
      match l with
      | [] => simp
      | [first] => simp
      | first :: second :: rest => simp

theorem writtenType_withoutEmptyNames (home : Option String) (e : Element) :
    writtenType home (withoutEmptyNames e) = writtenType home e ↔
      "" ∉ TakenNames.ofType e := by
  induction e using Element.induction with
  | step e ih =>
    rw [writtenType_eq, writtenType_eq home e, TakenNames.ofType_eq,
      attribute?_of_mem (by decide), Element.nonEmpty?, childrenTagged_withoutEmptyNames]
    cases e.attribute? "name" with
    | none => simp
    | some name =>
      by_cases hname : name = ""
      · subst hname
        rw [Option.filter_some, if_neg (by simp)]
        simpa using (typeAround_empty_ne_unknown _).symm
      · have hbelow : ∀ c ∈ (e.childrenTagged "type").take (places name),
            (writtenType home (withoutEmptyNames c) = writtenType home c ↔
              "" ∉ TakenNames.ofType c) := fun c hc =>
          ih c (Element.mem_children_of_mem_childrenTagged (List.mem_of_mem_take hc))
        rw [Option.filter_some, if_pos (by simpa using hname)]
        dsimp only
        rw [List.map_map, typeAround_map_eq_iff, List.mem_cons, or_iff_right (Ne.symm hname),
          List.mem_flatMap, not_exists]
        simp only [not_and]
        exact forall₂_congr hbelow

theorem heldType_withoutEmptyNames (home : Option String) (e : Element) :
    heldType home (withoutEmptyNames e) = heldType home e ↔ "" ∉ TakenNames.ofHolder e := by
  induction e using Element.induction with
  | step e ih =>
    rw [heldType_eq, heldType_eq home e, TakenNames.ofHolder_eq, child?_withoutEmptyNames,
      child?_withoutEmptyNames]
    cases harray : e.child? "array" with
    | some array => simpa using ih array (Element.mem_children_of_child? harray)
    | none =>
      cases e.child? "type" with
      | none => simp
      | some type => simpa using writtenType_withoutEmptyNames home type

end Types

end GirStubs.Gir
