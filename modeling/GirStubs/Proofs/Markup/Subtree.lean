import GirStubs.Markup.Element

/-!
# The elements of a tree

`Element.subtree` lists an element and all that stands below it, and `Element.induction` is the
induction from the children to their parent.
-/

namespace GirStubs.Markup.Element

mutual

/-- An element and everything below it, in document order. -/
def subtree : Element → List Element
  | ⟨tag, attributes, text, children⟩ => ⟨tag, attributes, text, children⟩ :: subtrees children

/-- The elements with everything below them. -/
def subtrees : List Element → List Element
  | [] => []
  | e :: rest => subtree e ++ subtrees rest

end

theorem subtrees_eq (elements : List Element) : subtrees elements = elements.flatMap subtree := by
  induction elements with
  | nil => simp [subtrees]
  | cons e rest ih => simp [subtrees, ih]

theorem subtree_eq (e : Element) : e.subtree = e :: e.children.flatMap subtree := by
  cases e
  simp [subtree, subtrees_eq]

theorem forall_subtree_iff {p : Element → Prop} {e : Element} :
    (∀ d ∈ e.subtree, p d) ↔ p e ∧ ∀ c ∈ e.children, ∀ d ∈ c.subtree, p d := by
  rw [subtree_eq, List.forall_mem_cons]
  simp only [List.mem_flatMap]
  grind

mutual

theorem induction {motive : Element → Prop}
    (step : ∀ e : Element, (∀ c ∈ e.children, motive c) → motive e) : ∀ e, motive e
  | ⟨_, _, _, children⟩ => step _ (induction_children step children)

theorem induction_children {motive : Element → Prop}
    (step : ∀ e : Element, (∀ c ∈ e.children, motive c) → motive e) :
    ∀ children : List Element, ∀ c ∈ children, motive c
  | [] => List.forall_mem_nil _
  | e :: rest =>
    List.forall_mem_cons.mpr ⟨induction step e, induction_children step rest⟩

end

/-! ## Look-ups -/

variable {e c : Element} {tag : String}

theorem mem_children_of_child? (h : e.child? tag = some c) : c ∈ e.children :=
  List.mem_of_find?_eq_some h

theorem mem_children_of_mem_childrenTagged (h : c ∈ e.childrenTagged tag) : c ∈ e.children :=
  (List.mem_filter.mp h).1

end GirStubs.Markup.Element
