import GirStubs.Proofs.FirstOccurrences
import GirStubs.Proofs.Gir.TypeLeaves

/-!
# Parents of compound types

What a compound type inherits from and implements is qualified first and deduplicated then, so a
bare and a qualified spelling of one parent count once. Each parent stands where it is declared for
the first time (`pairwise_idxOf_eraseDups`), and as the type that a bare use of its name stands for,
unless the name is built in (`parents_compound?`).
-/

namespace GirStubs.Gir

open Api
open Lua (TypeExpr)
open Markup

section Parents

variable {home name : String} {e : Element}

theorem named_qualify (home name : String) :
    TypeExpr.named (qualify home name) = .name (qualify home name) :=
  if_neg (qualify_ne (by decide))

/-- A bare name means one thing where a parent is declared and where a type is used. -/
theorem typeNamed_eq_qualify (hhome : home ≠ "") (hname : primitive? name = none) :
    typeNamed (some home) name = .name (qualify home name) := by
  unfold typeNamed
  rw [hname, namespaceOf_of_ne hhome]
  exact named_qualify home name

/-- The qualified names of the parents of an element, as they are declared. -/
def declaredParents (home : String) (e : Element) : List String :=
  (parentNames e).map (qualify home)

theorem parents_eq (home : String) (e : Element) :
    parents home e = (declaredParents home e).eraseDups.map .name := by
  refine List.map_congr_left fun text htext => ?_
  obtain ⟨name, -, rfl⟩ := List.mem_map.mp (List.mem_eraseDups.mp htext)
  exact named_qualify home name

theorem render_parents (home : String) (e : Element) :
    (parents home e).map TypeExpr.render = (declaredParents home e).eraseDups := by
  rw [parents_eq, List.map_map]
  exact List.map_id _

/-- **Each parent is listed once, where it is declared for the first time.** The parents of a
compound type are those that its element declares, by their qualified names, and in the order of
their first declarations. In a namespace with a name each of them is the type that its declared name
stands for elsewhere, unless that one is built in. -/
theorem parents_compound? {kind : CompoundKind} {c : Compound}
    (h : compound? home kind e = some c) :
    (c.parents.map TypeExpr.render).Nodup ∧
    (∀ text, text ∈ c.parents.map TypeExpr.render ↔
      ∃ name ∈ parentNames e, text = if isQualified name then name else home ++ "." ++ name) ∧
    ((c.parents.map TypeExpr.render).Pairwise fun text other =>
      (declaredParents home e).idxOf text < (declaredParents home e).idxOf other) ∧
    ∀ name ∈ parentNames e, ∀ entry ∈ c.parents, entry.render = qualify home name →
      home ≠ "" → primitive? name = none → entry = typeNamed (some home) name := by
  have hparents : c.parents = parents home e := by
    obtain ⟨name, -, rfl⟩ := Option.map_eq_some_iff.mp h
    rfl
  rw [hparents, render_parents]
  refine ⟨nodup_eraseDups _, fun text => ?_, pairwise_idxOf_eraseDups _, ?_⟩
  · rw [List.mem_eraseDups, declaredParents, List.mem_map]
    exact exists_congr fun name => and_congr_right' eq_comm
  · intro name _ entry hentry hsame hhome hname
    rw [parents_eq] at hentry
    obtain ⟨text, -, rfl⟩ := List.mem_map.mp hentry
    rw [typeNamed_eq_qualify hhome hname]
    exact congrArg TypeExpr.name hsame

end Parents

/-- A class with two spellings of one interface, and with its superclass again behind them. -/
def listStore : Element where
  tag := "class"
  attributes := .ofList [("name", "ListStore"), ("parent", "GObject.Object")]
  children := [
    { tag := "implements", attributes := .ofList [("name", "ListModel")] },
    { tag := "implements", attributes := .ofList [("name", "Gio.ListModel")] },
    { tag := "implements", attributes := .ofList [("name", "GObject.Object")] }]

theorem parents_compound?_listStore :
    ∃ c, compound? "Gio" .object listStore = some c ∧
      c.parents.map TypeExpr.render = ["GObject.Object", "Gio.ListModel"] ∧
      (c.parents.map TypeExpr.render).Nodup ∧
      ∀ entry ∈ c.parents, entry.render = "Gio.ListModel" →
        entry = typeNamed (some "Gio") "ListModel" := by
  obtain ⟨c, hc, hnames⟩ : ∃ c, compound? "Gio" .object listStore = some c ∧
      c.parents.map TypeExpr.render = ["GObject.Object", "Gio.ListModel"] :=
    ⟨_, rfl, by decide⟩
  obtain ⟨hnodup, -, -, htype⟩ := parents_compound? hc
  refine ⟨c, hc, hnames, hnodup, fun entry hentry hsame => ?_⟩
  exact htype "ListModel" (by decide) entry hentry hsame (by decide) (by decide)

end GirStubs.Gir
