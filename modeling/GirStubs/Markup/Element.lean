import GirStubs.Markup.Attributes

/-! # Elements

A document is a tree of elements. Each has a tag, attributes, the text before its
first child, and its children in document order. Text behind a child is not kept.
-/

namespace GirStubs.Markup

/-- An element with everything below it. -/
structure Element where
  /-- The label of the element as written, or its local name. -/
  tag : String
  /-- The attributes in document order. -/
  attributes : Attributes := .empty
  /-- The text before the first child, when there is any, even an empty one. -/
  text : Option String := none
  /-- The child elements in document order. -/
  children : List Element := []
  deriving Repr, Inhabited

namespace Element

mutual

/-- Decides whether two elements are equal. -/
def decideEq : (first second : Element) → Decidable (first = second)
  | ⟨tag₁, attributes₁, text₁, children₁⟩, ⟨tag₂, attributes₂, text₂, children₂⟩ =>
    match decEq (tag₁, attributes₁, text₁) (tag₂, attributes₂, text₂),
      decideAllEq children₁ children₂ with
    | isTrue own, isTrue below => isTrue (by cases own; cases below; rfl)
    | isFalse own, _ => isFalse fun same => own (by cases same; rfl)
    | _, isFalse below => isFalse fun same => below (by cases same; rfl)

/-- Decides whether two lists of elements are equal. -/
def decideAllEq : (first second : List Element) → Decidable (first = second)
  | [], [] => isTrue rfl
  | [], _ :: _ => isFalse fun same => nomatch same
  | _ :: _, [] => isFalse fun same => nomatch same
  | e₁ :: rest₁, e₂ :: rest₂ =>
    match decideEq e₁ e₂, decideAllEq rest₁ rest₂ with
    | isTrue own, isTrue below => isTrue (by cases own; cases below; rfl)
    | isFalse own, _ => isFalse fun same => own (by cases same; rfl)
    | _, isFalse below => isFalse fun same => below (by cases same; rfl)

end

instance : DecidableEq Element := decideEq

/-- The value of an attribute. -/
def attribute? (e : Element) (key : String) : Option String := e.attributes.get? key

/-- The value of an attribute that is present and not empty. -/
def nonEmpty? (e : Element) (key : String) : Option String :=
  (e.attribute? key).filter (· ≠ "")

/-- The attribute is present and spelled `1`. -/
def flag (e : Element) (key : String) : Bool := e.attribute? key = some "1"

/-- The children with a tag, in document order. -/
def childrenTagged (e : Element) (tag : String) : List Element :=
  e.children.filter fun c => c.tag = tag

/-- The first child with a tag. -/
def child? (e : Element) (tag : String) : Option Element :=
  e.children.find? fun c => c.tag = tag

/-- The element with an attribute set. -/
def setAttribute (e : Element) (key value : String) : Element :=
  { e with attributes := e.attributes.set key value }

/-- The element with one more child at the end. -/
def addChild (e child : Element) : Element := { e with children := e.children ++ [child] }

/-- The element with its text replaced. -/
def setText (e : Element) (text : String) : Element := { e with text := some text }

theorem child?_eq_head? (e : Element) (tag : String) :
    e.child? tag = (e.childrenTagged tag).head? := by
  simp [child?, childrenTagged, List.head?_filter]

@[simp]
theorem attribute?_setAttribute (e : Element) (key value other : String) :
    (e.setAttribute key value).attribute? other =
      if other = key then some value else e.attribute? other :=
  Attributes.get?_set _ _ _ _

end Element

end GirStubs.Markup
