import GirStubs.Gir.Namespace
import Mathlib.Data.List.Forall2

/-!
# What the options of a module decide

A reader of declarations looks at the options in one place only, the namespace that qualifies the
target of an alias (`declarationOfKind?_congr`). So two modules of one namespace element, with any
options that name its home alike, hold the same declarations but for the targets of aliases
(`sameButTarget_moduleOf`), and where that qualifying namespace is the same as well they hold the
same declarations (`declarations_congr`). The target namespace can come in a second way, as the
name of an element without one; it does not where the element has a name (`homeOf_of_name`).
-/

namespace GirStubs.Gir

open Api
open Lua (TypeExpr)
open Markup

/-- Equal declarations, or two aliases that have different targets and nothing else apart. -/
inductive SameButTarget : Declaration → Declaration → Prop where
  | refl (d : Declaration) : SameButTarget d d
  | target (name home : String) (type type' : TypeExpr) :
      SameButTarget (.typeAlias ⟨name, type, home⟩) (.typeAlias ⟨name, type', home⟩)

section

variable {options options' : Options} {home : String} {e : Element}

theorem declarationOfKind?_congr (h : options.aliasHome home = options'.aliasHome home)
    (kind : DeclarationKind) :
    declarationOfKind? options home e kind = declarationOfKind? options' home e kind := by
  cases kind with
  | typeAlias => rw [declarationOfKind?, declarationOfKind?, h]
  | _ => rfl

theorem declaration?_congr (h : options.aliasHome home = options'.aliasHome home) :
    declaration? options home e = declaration? options' home e := by
  unfold declaration?
  rw [funext (declarationOfKind?_congr h)]

theorem rel_refl (d : Option Declaration) : Option.Rel SameButTarget d d := by
  cases d with
  | none => exact .none
  | some d => exact .some (.refl d)

theorem sameButTarget_declarationOfKind? (kind : DeclarationKind) :
    Option.Rel SameButTarget (declarationOfKind? options home e kind)
      (declarationOfKind? options' home e kind) := by
  cases kind with
  | typeAlias =>
    unfold declarationOfKind? typeAlias?
    cases name? e with
    | none => exact .none
    | some name => exact .some (.target name home _ _)
  | _ => exact rel_refl _

theorem sameButTarget_declaration? :
    Option.Rel SameButTarget (declaration? options home e) (declaration? options' home e) := by
  unfold declaration?
  split
  · exact .none
  · cases DeclarationKind.ofTag? e.tag with
    | none => exact .none
    | some kind => exact sameButTarget_declarationOfKind? kind

theorem sameButTarget_moduleOf (h : homeOf options e = homeOf options' e) :
    List.Forall₂ SameButTarget (moduleOf options e).declarations
      (moduleOf options' e).declarations := by
  have hself : List.Forall₂ Eq e.children e.children := by
    rw [List.forall₂_eq_eq_eq]
  unfold moduleOf
  rw [h]
  refine List.rel_filterMap (fun child child' heq => ?_) hself
  cases heq
  exact sameButTarget_declaration?

theorem declarations_congr (h : homeOf options e = homeOf options' e)
    (htarget : options.aliasHome (homeOf options e) = options'.aliasHome (homeOf options e)) :
    (moduleOf options e).declarations = (moduleOf options' e).declarations := by
  have hread : declaration? options (homeOf options e) =
      declaration? options' (homeOf options e) :=
    funext fun child => declaration?_congr htarget
  unfold moduleOf
  rw [← h, hread]

end

theorem homeOf_of_name {options : Options} {e : Element} {name : String}
    (hname : e.attribute? "name" = some name) (hne : name ≠ "") : homeOf options e = name := by
  unfold homeOf name? Element.nonEmpty?
  rw [hname, Option.filter_some, if_pos (by simpa using hne), Option.getD_some]

theorem homeOf_of_nameless {options : Options} {e : Element}
    (h : e.attribute? "name" = none ∨ e.attribute? "name" = some "" ∨
      e.attribute? "name" = some options.target) : homeOf options e = options.target := by
  unfold homeOf name? Element.nonEmpty?
  rcases h with h | h | h
  · rw [h]
    rfl
  · rw [h]
    rfl
  · rw [h, Option.filter_some]
    split <;> rfl

/-- **The options reach the targets of aliases and nothing else.** The two policies read the same
declarations but for those targets, and the same module where the element has no name or the one
of the target namespace. An element with a name of its own gives under one policy the same
declarations for every target namespace, and under the other the same but for those targets. -/
theorem declarations_moduleOf (e : Element) (target target' : String) :
    List.Forall₂ SameButTarget (moduleOf ⟨target, .target⟩ e).declarations
        (moduleOf ⟨target, .enclosing⟩ e).declarations ∧
      (e.attribute? "name" = none ∨ e.attribute? "name" = some "" ∨
          e.attribute? "name" = some target →
        moduleOf ⟨target, .target⟩ e = moduleOf ⟨target, .enclosing⟩ e) ∧
      (∀ name, e.attribute? "name" = some name → name ≠ "" →
        (moduleOf ⟨target, .enclosing⟩ e).declarations =
            (moduleOf ⟨target', .enclosing⟩ e).declarations ∧
          List.Forall₂ SameButTarget (moduleOf ⟨target, .target⟩ e).declarations
            (moduleOf ⟨target', .target⟩ e).declarations) := by
  refine ⟨sameButTarget_moduleOf rfl, fun hnameless => ?_, fun name hname hne => ⟨?_, ?_⟩⟩
  · have hhome : homeOf ⟨target, .target⟩ e = target := homeOf_of_nameless hnameless
    have hdeclarations : (moduleOf ⟨target, .target⟩ e).declarations =
        (moduleOf ⟨target, .enclosing⟩ e).declarations :=
      declarations_congr rfl hhome.symm
    exact congrArg (Api.Module.mk target) hdeclarations
  · have hhome : homeOf ⟨target, .enclosing⟩ e = homeOf ⟨target', .enclosing⟩ e := by
      rw [homeOf_of_name hname hne, homeOf_of_name hname hne]
    exact declarations_congr hhome rfl
  · refine sameButTarget_moduleOf ?_
    rw [homeOf_of_name hname hne, homeOf_of_name hname hne]

/-- A namespace with an alias of a type of its own and a callback that takes that type. -/
def innerNamespace : Element :=
  let opaqueType : Element := { tag := "type", attributes := .ofList [("name", "Opaque")] }
  { tag := "namespace"
    attributes := .ofList [("name", "Inner")]
    children := [
      { tag := "alias", attributes := .ofList [("name", "Handle")], children := [opaqueType] },
      { tag := "callback"
        attributes := .ofList [("name", "Visit")]
        children := [{ tag := "return-value", children := [opaqueType] }] }] }

theorem declarations_innerNamespace :
    innerNamespace.attribute? "name" = some "Inner" ∧ "Inner" ≠ "" ∧
      moduleOf ⟨"Inner", .target⟩ innerNamespace = moduleOf ⟨"Inner", .enclosing⟩ innerNamespace ∧
      (moduleOf ⟨"Inner", .enclosing⟩ innerNamespace).declarations =
        (moduleOf ⟨"Outer", .enclosing⟩ innerNamespace).declarations ∧
      List.Forall₂ SameButTarget (moduleOf ⟨"Inner", .target⟩ innerNamespace).declarations
        (moduleOf ⟨"Outer", .target⟩ innerNamespace).declarations ∧
      (moduleOf ⟨"Outer", .target⟩ innerNamespace).declarations =
        [.typeAlias ⟨"Handle", .name "Outer.Opaque", "Inner"⟩,
          .callback ⟨"Visit", [], some (.name "Inner.Opaque"), "Inner"⟩] := by
  have hname : innerNamespace.attribute? "name" = some "Inner" := by decide
  have hne : "Inner" ≠ "" := by decide
  obtain ⟨-, hsame, hnamed⟩ := declarations_moduleOf innerNamespace "Inner" "Outer"
  obtain ⟨henclosing, htarget⟩ := hnamed "Inner" hname hne
  exact ⟨hname, hne, hsame (Or.inr (Or.inr hname)), henclosing, htarget, by decide +kernel⟩

end GirStubs.Gir
