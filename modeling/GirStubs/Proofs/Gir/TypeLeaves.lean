import GirStubs.Gir.Compound
import GirStubs.Proofs.Lua.TypeExpr
import GirStubs.Proofs.Markup.Subtree

/-!
# The leaves of types

Whatever holds of the unknown type and of every name that an element or something below it has holds
of all leaves of the types that are read from the element (`over_types`), and what holds of the
names as they are written and does not mind a dot between two of them comes through as well
(`over_heldType`). No leaf is left that a namespace would still have to be put to
(`settled_heldType`).
-/

namespace GirStubs.Gir

open Lua (TypeExpr)
open Markup

section Over

variable {p : String → Prop} {home : Option String} (hunknown : p "unknown")

include hunknown in
theorem over_named {text : String} (h : p text) : (TypeExpr.named text).Over p := by
  unfold TypeExpr.named
  split
  · exact TypeExpr.over_name.mpr hunknown
  · exact TypeExpr.over_name.mpr h

include hunknown in
theorem over_typeNamed {name : String} (hprimitive : ∀ type, primitive? name = some type → p type)
    (hqualified : p (qualify (namespaceOf home) name)) : (typeNamed home name).Over p := by
  unfold typeNamed
  split
  · next type htype => exact over_named hunknown (hprimitive type htype)
  · exact over_named hunknown hqualified

include hunknown in
theorem over_getD {type : Option TypeExpr} (h : ∀ t ∈ type, t.Over p) :
    (type.getD .unknown).Over p := by
  cases type with
  | none => exact TypeExpr.over_name.mpr hunknown
  | some t => exact h t rfl

include hunknown in
theorem over_typeAround {name : String} {content : List TypeExpr}
    (hname : (typeNamed home name).Over p) (hcontent : ∀ type ∈ content, type.Over p) :
    (typeAround home name content).Over p := by
  have hplace : ∀ i : Nat, (content[i]?.getD .unknown).Over p := by
    intro i
    exact over_getD hunknown fun type htype => hcontent type (List.mem_of_getElem? htype)
  unfold typeAround
  split
  · exact hplace 0
  · exact TypeExpr.over_table.mpr ⟨hplace 0, hplace 1⟩
  · exact hname

include hunknown in
theorem over_types {e : Element}
    (h : ∀ d ∈ e.subtree, ∀ name ∈ d.attribute? "name", (typeNamed home name).Over p) :
    (heldType home e).Over p ∧ (writtenType home e).Over p := by
  -- Both readings go by one induction, since a holder reads its `type` and an array holds again.
  induction e using Element.induction with
  | step e ih =>
    obtain ⟨hown, hbelow⟩ := Element.forall_subtree_iff.mp h
    constructor
    · rw [heldType_eq]
      split
      · next array harray =>
        have hmem := Element.mem_children_of_child? harray
        exact TypeExpr.over_array.mpr (ih array hmem (hbelow array hmem)).1
      · apply over_getD hunknown
        intro type htype
        obtain ⟨c, hc, rfl⟩ := Option.map_eq_some_iff.mp htype
        have hmem := Element.mem_children_of_child? hc
        exact (ih c hmem (hbelow c hmem)).2
    · rw [writtenType_eq]
      split
      · exact TypeExpr.over_name.mpr hunknown
      · next name hname =>
        apply over_typeAround hunknown (hown name hname)
        rw [List.forall_mem_map]
        intro c hc
        have hmem := Element.mem_children_of_mem_childrenTagged hc
        exact (ih c hmem (hbelow c hmem)).2

end Over

theorem primitive_mem {name type : String} (h : primitive? name = some type) :
    (name, type) ∈ primitives := by
  obtain ⟨before, behind, hentries, -⟩ := List.lookup_eq_some_iff.mp h
  exact hentries ▸ List.mem_append_right before List.mem_cons_self

/-- The names of types that come with the language. -/
def builtinTypes : List String :=
  ["nil", "any", "unknown", "(boolean|nil)", "integer", "number", "string", "userdata"]

theorem mem_builtinTypes_of_primitive? {name type : String} (h : primitive? name = some type) :
    type ∈ builtinTypes := by
  have hbuiltin : ∀ entry ∈ primitives, entry.2 ∈ builtinTypes := by decide
  exact hbuiltin (name, type) (primitive_mem h)

/-! ## Names as they are written -/

section Written

variable {p : String → Prop} {home : String} {e : Element}
  (hjoin : ∀ first second, p first → p second → p (first ++ "." ++ second)) (hhome : p home)

include hjoin hhome in
theorem qualify_of_join {name : String} (hname : p name) : p (qualify home name) := by
  unfold qualify
  split
  · exact hname
  · exact hjoin home name hhome hname

include hhome in
theorem namespaceOf_some (hfallback : p fallbackNamespace) : p (namespaceOf (some home)) := by
  unfold namespaceOf
  rw [Option.filter_some]
  split
  · exact hhome
  · exact hfallback

include hjoin hhome in
theorem over_heldType (hbuiltin : ∀ type ∈ builtinTypes, p type) (hfallback : p fallbackNamespace)
    (h : ∀ d ∈ e.subtree, ∀ name ∈ d.attribute? "name", p name) :
    (heldType (some home) e).Over p := by
  have hunknown : p "unknown" := hbuiltin "unknown" (by decide)
  refine (over_types hunknown fun d hd name hname => ?_).1
  apply over_typeNamed hunknown
  · intro type htype
    exact hbuiltin type (mem_builtinTypes_of_primitive? htype)
  · exact qualify_of_join hjoin (namespaceOf_some hhome hfallback) (h d hd name hname)

include hjoin hhome in
theorem over_parents (hunknown : p "unknown") (h : ∀ name ∈ parentNames e, p name) :
    ∀ type ∈ parents home e, type.Over p := by
  unfold parents
  rw [List.forall_mem_map]
  intro text htext
  obtain ⟨name, hname, rfl⟩ := List.mem_map.mp (List.mem_eraseDups.mp htext)
  exact over_named hunknown (qualify_of_join hjoin hhome (h name hname))

end Written

/-! ## Settled names -/

theorem isQualified_dot_append (home name : String) : isQualified (home ++ "." ++ name) := by
  simp [isQualified]

theorem isQualified_qualify (home name : String) : isQualified (qualify home name) := by
  by_cases h : isQualified name
  · rwa [qualify, if_pos h]
  · rw [qualify, if_neg h]
    exact isQualified_dot_append home name

theorem qualify_ne {home name text : String} (h : isQualified text = false) :
    qualify home name ≠ text := by
  rintro rfl
  exact Bool.false_ne_true (h.symm.trans (isQualified_qualify home name))

/-- A namespace with a name is the one that bare names in it belong to. -/
theorem namespaceOf_of_ne {home : String} (h : home ≠ "") : namespaceOf (some home) = home := by
  simp [namespaceOf, Option.filter, h]

/-- The name waits for no namespace. -/
def IsSettled (name : String) : Prop := isQualified name ∨ name ∈ builtinTypes

theorem settled_heldType (home : Option String) (e : Element) :
    (heldType home e).Over IsSettled := by
  have hunknown : IsSettled "unknown" := Or.inr (by decide)
  refine (over_types hunknown fun d _ name _ => ?_).1
  apply over_typeNamed hunknown
  · intro type htype
    exact Or.inr (mem_builtinTypes_of_primitive? htype)
  · exact Or.inl (isQualified_qualify _ name)

end GirStubs.Gir
