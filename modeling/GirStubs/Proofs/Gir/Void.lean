import GirStubs.Proofs.Gir.Inversion
import GirStubs.Proofs.Gir.TypeLeaves

/-!
# Values of no type

A value of type nil is no value, and there is one way to write that type: a `type` that is named
`none` or `None`, with no array beside it (`heldType_eq_nil_iff`). Every other name reads as another
built-in type or has a dot in it, and containers are never nil. So an element tells whether its
function or callback gives something back (`returnValue?_eq_none_iff`).
-/

namespace GirStubs.Gir

open Lua (TypeExpr)
open Markup

/-! ## The type nil -/

theorem primitive?_eq_nil_iff {name : String} :
    primitive? name = some "nil" ↔ name = "none" ∨ name = "None" := by
  constructor
  · intro h
    have hall : ∀ entry ∈ primitives, entry.2 = "nil" → entry.1 = "none" ∨ entry.1 = "None" := by
      decide
    exact hall (name, "nil") (primitive_mem h) rfl
  · rintro (rfl | rfl) <;> decide

theorem unknown_ne_nil : TypeExpr.unknown ≠ .nil := by decide

theorem named_eq_nil_iff {text : String} : TypeExpr.named text = .nil ↔ text = "nil" := by
  unfold TypeExpr.named
  split
  · next h =>
    subst h
    decide
  · rw [TypeExpr.nil, TypeExpr.name.injEq]

variable {home : Option String} {name : String}

/-- A name that is not built in is written with a dot, so it cannot come out as nil. -/
theorem typeNamed_eq_nil_iff : typeNamed home name = .nil ↔ name = "none" ∨ name = "None" := by
  rw [← primitive?_eq_nil_iff, typeNamed]
  cases primitive? name with
  | some type => rw [named_eq_nil_iff, Option.some.injEq]
  | none =>
    have hne : qualify (namespaceOf home) name ≠ "nil" := qualify_ne (by decide)
    rw [named_eq_nil_iff]
    exact iff_of_false hne (by simp)

theorem typeAround_eq_nil_iff {content : List TypeExpr} :
    typeAround home name content = .nil ↔ name = "none" ∨ name = "None" := by
  unfold typeAround
  cases hcontainer : container? name with
  | none => exact typeNamed_eq_nil_iff
  | some container =>
    have hplain : container? "none" = none ∧ container? "None" = none := by
      decide
    have hname : ¬(name = "none" ∨ name = "None") := by
      rintro (rfl | rfl)
      · exact nomatch hplain.1.symm.trans hcontainer
      · exact nomatch hplain.2.symm.trans hcontainer
    cases container with
    | sequence => exact iff_of_false (fun h => nomatch h) hname
    | table => exact iff_of_false (fun h => nomatch h) hname

theorem writtenType_eq_nil_iff {e : Element} :
    writtenType home e = .nil ↔
      e.attribute? "name" = some "none" ∨ e.attribute? "name" = some "None" := by
  rw [writtenType_eq]
  cases e.attribute? "name" with
  | none => exact iff_of_false unknown_ne_nil (by simp)
  | some name => simpa using typeAround_eq_nil_iff

/-- The element holds the type of nothing, and no array. -/
def IsVoid (value : Element) : Prop :=
  value.child? "array" = none ∧
    ∃ type ∈ value.child? "type",
      type.attribute? "name" = some "none" ∨ type.attribute? "name" = some "None"

instance (value : Element) : Decidable (IsVoid value) := inferInstanceAs (Decidable (_ ∧ _))

/-- **The type nil is written in one way**, whatever the namespace. -/
theorem heldType_eq_nil_iff {value : Element} : heldType home value = .nil ↔ IsVoid value := by
  rw [heldType_eq, IsVoid]
  cases value.child? "array" with
  | some array => exact iff_of_false (fun h => nomatch h) fun h => nomatch h.1
  | none =>
    cases value.child? "type" with
    | none => exact iff_of_false unknown_ne_nil (by simp)
    | some type => simpa using writtenType_eq_nil_iff

/-! ## Values -/

/-- Nothing stands for the value of the element, or what does is void. -/
def GivesNothing (e : Element) : Prop := ∀ value ∈ e.child? "return-value", IsVoid value

instance (e : Element) : Decidable (GivesNothing e) :=
  inferInstanceAs (Decidable (∀ _ ∈ _, _))

section Value

open Api

variable {home : String} {e value : Element}

theorem result_of_function? {owner : Option String} {kind : FunctionKind} {f : Function}
    (h : function? home owner kind e = some f) : f.result = returnValue? home e := by
  obtain ⟨-, name, -, rfl⟩ := of_function? h
  rfl

theorem result_of_callback? {c : Callback} (h : callback? home e = some c) :
    c.result = (returnValue? home e).map ReturnValue.type := by
  obtain ⟨name, -, rfl⟩ := Option.map_eq_some_iff.mp h
  rfl

theorem returnValue?_eq_none_iff : returnValue? home e = none ↔ GivesNothing e := by
  unfold returnValue? GivesNothing
  cases e.child? "return-value" with
  | none => simp
  | some value => simpa using heldType_eq_nil_iff

theorem returnValue?_eq_some (hvalue : e.child? "return-value" = some value)
    (h : ¬IsVoid value) :
    returnValue? home e = some ⟨heldType (some home) value, documentation value⟩ := by
  have hne : ¬heldType (some home) value = .nil := mt heldType_eq_nil_iff.mp h
  unfold returnValue?
  rw [hvalue]
  exact if_neg hne

end Value

end GirStubs.Gir
