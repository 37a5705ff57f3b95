import GirStubs.Proofs.Gir.Inversion
import Mathlib.Data.List.Forall2

/-!
# Parameters and arguments

A function has one parameter for each child that stands for one in the first list of parameters, in
document order (`forall₂_parameters`). What a parameter is follows from its child (`ParameterOf`),
and so does its name, but for the first parameter of a method: that one is the receiver, whatever
the child is called (`names_parameters`). A caller writes all of them but the receiver
(`names_arguments`).
-/

namespace GirStubs.Gir

open Api
open Lua (safeIdentifier)
open Markup

/-- The children that stand for a parameter, in the first list of parameters. -/
def parameterChildren (e : Element) : List Element :=
  (e.child? "parameters").toList.flatMap fun list => list.children.filter isParameter

/-- The name that a child gives to its parameter; without one it is an underscore. -/
def nameInList (child : Element) : String := safeIdentifier ((child.attribute? "name").getD "_")

/-- The names of the parameters: the first parameter of a method is the receiver. -/
def parameterNames : FunctionKind → List Element → List String
  | .method, _ :: rest => receiverName :: rest.map nameInList
  | _, children => children.map nameInList

/-- The names that a caller writes: all but that of the receiver. -/
def argumentNames : FunctionKind → List String → List String
  | .static, names => names
  | .method, names => names.tail

/-- The parameter is what a child describes, apart from its name. -/
structure ParameterOf (home : String) (child : Element) (p : Parameter) : Prop where
  type : p.type = heldType (some home) child
  nilable : p.nilable ↔
    child.attribute? "nullable" = some "1" ∨ child.attribute? "allow-none" = some "1"
  doc : p.doc = documentation child

variable {home : String} {e : Element}

theorem parameters_eq (home : String) (e : Element) :
    parameters home e = (parameterChildren e).map (parameter home) := by
  unfold parameters parameterChildren
  cases e.child? "parameters" with
  | none => rfl
  | some list => simp

theorem parameterOf_parameter (home : String) (child : Element) :
    ParameterOf home child (parameter home child) :=
  ⟨rfl, by simp [parameter, Element.flag], rfl⟩

/-- A parameter says the same under another name. -/
theorem ParameterOf.rename {child : Element} {p : Parameter} (h : ParameterOf home child p)
    (name : String) : ParameterOf home child { p with name } :=
  ⟨h.type, h.nilable, h.doc⟩

theorem forall₂_withReceiver {children : List Element} {list : List Parameter}
    (h : List.Forall₂ (ParameterOf home) children list) :
    List.Forall₂ (ParameterOf home) children (withReceiver list) := by
  cases h with
  | nil => exact .nil
  | cons hfirst hrest => exact .cons (hfirst.rename receiverName) hrest

section Function

variable {owner : Option String} {kind : FunctionKind} {f : Function}
  (h : function? home owner kind e = some f)

include h in
theorem kind_of_function? : f.kind = kind := by
  obtain ⟨-, name, -, rfl⟩ := of_function? h
  rfl

include h in
/-- **One parameter a child**, in document order. -/
theorem forall₂_parameters :
    List.Forall₂ (ParameterOf home) (parameterChildren e) f.parameters := by
  have hread : List.Forall₂ (ParameterOf home) (parameterChildren e) (parameters home e) := by
    rw [parameters_eq, List.forall₂_map_right_iff]
    exact List.forall₂_same.mpr fun child _ => parameterOf_parameter home child
  -- The receiver of a method has another name, and is what its child describes all the same.
  obtain ⟨-, name, -, rfl⟩ := of_function? h
  cases kind with
  | static => exact hread
  | method => exact forall₂_withReceiver hread

include h in
theorem names_parameters :
    f.parameters.map Parameter.name = parameterNames kind (parameterChildren e) := by
  obtain ⟨-, name, -, rfl⟩ := of_function? h
  rw [parameters_eq]
  cases kind with
  | static => simp [parameterNames, parameter, nameInList, Function.comp_def]
  | method =>
    cases parameterChildren e with
    | nil => rfl
    | cons first rest =>
      simp [parameterNames, withReceiver, parameter, nameInList, Function.comp_def]

include h in
/-- The arguments are the parameters without the receiver. -/
theorem names_arguments :
    f.arguments.map Parameter.name =
      argumentNames kind (parameterNames kind (parameterChildren e)) := by
  rw [← names_parameters h, Function.arguments, kind_of_function? h]
  cases kind with
  | static => rfl
  | method =>
    rw [List.map_drop, List.drop_one]
    rfl

end Function

end GirStubs.Gir
