import GirStubs.Proofs.Gir.TypeLeaves

/-!
# What a type is read from

Little of an element is looked at when a type is read: the first array, or else the first `type`,
and below a `type` as many of its own kind as its container has places. `heldSkeleton` keeps just
that, and the reading does not tell the skeleton from the element (`heldType_skeleton`).
-/

namespace GirStubs.Gir

open Lua (TypeExpr)
open Markup

/-! ## Skeletons -/

/-- How many types the container with a name holds. -/
def places (name : String) : Nat :=
  match container? name with
  | some .sequence => 1
  | some .table => 2
  | none => 0

mutual

/-- The element with what is read of it as a holder. -/
def heldSkeleton : Element → Element
  | ⟨tag, _, _, children⟩ =>
    { tag
      children :=
        match arraySkeleton? children with
        | some array => [array]
        | none => (typeSkeletons children).take 1 }

/-- The skeleton of the first array among the elements. -/
def arraySkeleton? : List Element → Option Element
  | [] => none
  | e :: rest => if e.tag = "array" then some (heldSkeleton e) else arraySkeleton? rest

/-- The element with what is read of it as a `type`. -/
def typeSkeleton : Element → Element
  | ⟨tag, attributes, _, children⟩ =>
    match attributes.get? "name" with
    | none => { tag }
    | some name =>
      { tag
        attributes := .ofList [("name", name)]
        children := (typeSkeletons children).take (places name) }

/-- The skeletons of the `type` elements among the elements. -/
def typeSkeletons : List Element → List Element
  | [] => []
  | e :: rest =>
    if e.tag = "type" then typeSkeleton e :: typeSkeletons rest else typeSkeletons rest

end

theorem arraySkeleton?_eq (elements : List Element) :
    arraySkeleton? elements = (elements.find? (·.tag = "array")).map heldSkeleton := by
  induction elements with
  | nil => simp [arraySkeleton?]
  | cons e rest ih => by_cases h : e.tag = "array" <;> simp [arraySkeleton?, h, ih]

theorem typeSkeletons_eq (elements : List Element) :
    typeSkeletons elements = (elements.filter (·.tag = "type")).map typeSkeleton := by
  induction elements with
  | nil => simp [typeSkeletons]
  | cons e rest ih => by_cases h : e.tag = "type" <;> simp [typeSkeletons, h, ih]

theorem heldSkeleton_eq (e : Element) :
    heldSkeleton e =
      { tag := e.tag
        children :=
          match e.child? "array" with
          | some array => [heldSkeleton array]
          | none => ((e.child? "type").map typeSkeleton).toList } := by
  obtain ⟨tag, attributes, text, children⟩ := e
  rw [heldSkeleton, arraySkeleton?_eq, typeSkeletons_eq]
  cases h : children.find? (·.tag = "array") with
  | none => simp [Element.child?, h, List.take_one]
  | some array => simp [Element.child?, h]

theorem typeSkeleton_eq (e : Element) :
    typeSkeleton e =
      match e.attribute? "name" with
      | none => { tag := e.tag }
      | some name =>
        { tag := e.tag
          attributes := .ofList [("name", name)]
          children := ((e.childrenTagged "type").take (places name)).map typeSkeleton } := by
  obtain ⟨tag, attributes, text, children⟩ := e
  simp [typeSkeleton, typeSkeletons_eq, Element.attribute?, Element.childrenTagged, List.map_take]

/-! ## Readings of skeletons -/

section Reading

variable {home : Option String}

@[simp]
theorem tag_heldSkeleton (e : Element) : (heldSkeleton e).tag = e.tag := by
  rw [heldSkeleton_eq]

@[simp]
theorem tag_typeSkeleton (e : Element) : (typeSkeleton e).tag = e.tag := by
  rw [typeSkeleton_eq]
  split <;> rfl

theorem typeAround_take (name : String) (content : List TypeExpr) :
    typeAround home name (content.take (places name)) = typeAround home name content := by
  unfold typeAround places
  cases container? name with
  | none => rfl
  | some container =>
    cases container with
    | sequence => simp
    | table => simp

theorem attribute?_typeSkeleton (e : Element) :
    (typeSkeleton e).attribute? "name" = e.attribute? "name" := by
  rw [typeSkeleton_eq]
  cases h : e.attribute? "name" with
  | none => rfl
  | some name => simp [Element.attribute?, Attributes.ofList, Attributes.get?_set]

theorem childrenTagged_typeSkeleton {e : Element} {name : String}
    (hname : e.attribute? "name" = some name) :
    (typeSkeleton e).childrenTagged "type" =
      ((e.childrenTagged "type").take (places name)).map typeSkeleton := by
  rw [typeSkeleton_eq, hname, Element.childrenTagged]
  refine List.filter_eq_self.mpr (List.forall_mem_map.mpr ?_)
  intro c hc
  have htag : c.tag = "type" := by simpa using (List.mem_filter.mp (List.mem_of_mem_take hc)).2
  simpa using htag

theorem writtenType_typeSkeleton (home : Option String) (e : Element) :
    writtenType home (typeSkeleton e) = writtenType home e := by
  induction e using Element.induction with
  | step e ih =>
    rw [writtenType_eq, writtenType_eq home e, attribute?_typeSkeleton]
    cases hname : e.attribute? "name" with
    | none => rfl
    | some name =>
      have hkept : ∀ c ∈ (e.childrenTagged "type").take (places name),
          writtenType home (typeSkeleton c) = writtenType home c := fun c hc =>
        ih c (Element.mem_children_of_mem_childrenTagged (List.mem_of_mem_take hc))
      calc typeAround home name (((typeSkeleton e).childrenTagged "type").map (writtenType home))
          = typeAround home name
              (((e.childrenTagged "type").take (places name)).map (writtenType home)) := by
            rw [childrenTagged_typeSkeleton hname, List.map_map]
            exact congrArg (typeAround home name) (List.map_congr_left hkept)
        _ = typeAround home name ((e.childrenTagged "type").map (writtenType home)) := by
            -- A container reads no more types than it has places.
            rw [List.map_take, typeAround_take]

theorem child?_array_heldSkeleton (e : Element) :
    (heldSkeleton e).child? "array" = (e.child? "array").map heldSkeleton := by
  rw [heldSkeleton_eq, Element.child?]
  cases harray : e.child? "array" with
  | some array =>
    have htag : array.tag = "array" := by simpa using List.find?_some harray
    simp [htag]
  | none =>
    -- The one child that is kept is a `type`, so no array comes in.
    cases htype : e.child? "type" with
    | none => rfl
    | some type =>
      have htag : type.tag = "type" := by simpa using List.find?_some htype
      simp [htag]

theorem child?_type_heldSkeleton {e : Element} (h : e.child? "array" = none) :
    (heldSkeleton e).child? "type" = (e.child? "type").map typeSkeleton := by
  rw [heldSkeleton_eq, Element.child?, h]
  cases htype : e.child? "type" with
  | none => rfl
  | some type =>
    have htag : type.tag = "type" := by simpa using List.find?_some htype
    simp [htag]

theorem heldType_heldSkeleton (home : Option String) (e : Element) :
    heldType home (heldSkeleton e) = heldType home e := by
  induction e using Element.induction with
  | step e ih =>
    rw [heldType_eq, heldType_eq home e, child?_array_heldSkeleton]
    cases harray : e.child? "array" with
    | some array => exact congrArg TypeExpr.array (ih array (Element.mem_children_of_child? harray))
    | none =>
      rw [child?_type_heldSkeleton harray]
      cases e.child? "type" with
      | none => rfl
      | some type => exact writtenType_typeSkeleton home type

end Reading

/-- **Types are read from a skeleton**: every leaf of a type that is read is built in or has its
namespace, and an element reads as what the reading looks at in it. -/
theorem heldType_skeleton (home : Option String) (e : Element) :
    (∀ leaf ∈ (heldType home e).leaves, isQualified leaf ∨ leaf ∈ builtinTypes) ∧
      heldType home (heldSkeleton e) = heldType home e :=
  ⟨settled_heldType home e, heldType_heldSkeleton home e⟩

end GirStubs.Gir
