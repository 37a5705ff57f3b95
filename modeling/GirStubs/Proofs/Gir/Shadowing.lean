import GirStubs.Proofs.Gir.Pruning
import GirStubs.Proofs.Lua.Identifier
import Mathlib.Data.List.Nodup
import Mathlib.Data.List.Pairwise

/-!
# Functions under the names of others

A function can be seen under the name of another one, which has to be shadowed then. Siblings shadow
each other consistently when no two of them have one name or take over one name, and each name that
is taken over is that of a shadowed sibling. Of such siblings no two are seen under one name
(`nodup_seenNames`): the owner of a name that is taken over is skipped. The names come out distinct
in a compound type and in a module, and so do the names on the lines that define the functions,
unless one of them looks like another one with its mark (`nodup_boundNames`).
-/

namespace GirStubs.Gir

open Api
open Lua (IsMarked isSafe_safeIdentifier safeIdentifier safeIdentifier_inj safeIdentifier_of_isSafe)
open Markup

/-- The name under which an element gives a function, unless it gives none. -/
def seenName? (e : Element) : Option String := if isSkipped e then none else publicName? e

/-- The siblings take over each other's names without a clash. -/
structure ShadowConsistently (siblings : List Element) : Prop where
  names_distinct : (siblings.filterMap name?).Nodup
  shadows_distinct : (siblings.filterMap (·.nonEmpty? "shadows")).Nodup
  /-- A name that is taken over is the name of a shadowed sibling. -/
  owner_shadowed : ∀ e ∈ siblings, ∀ name ∈ e.nonEmpty? "shadows",
    ∃ owner ∈ siblings, name? owner = some name ∧ isShadowed owner
  unmarked : ∀ e ∈ siblings, ∀ key ∈ ["name", "shadows"], ∀ name ∈ e.attribute? key, ¬IsMarked name

/-! ## Siblings -/

theorem eq_of_nodup_filterMap {α β : Type} {read : α → Option β} {l : List α}
    (h : (l.filterMap read).Nodup) {a a' : α} {b : β} (ha : a ∈ l) (ha' : a' ∈ l)
    (hread : read a = some b) (hread' : read a' = some b) : a = a' := by
  have hsymm : Std.Symm fun a a' => ∀ b, read a = some b → ∀ b', read a' = some b' → b ≠ b' :=
    ⟨fun a a' hapart b hb b' hb' heq => hapart b' hb' b hb heq.symm⟩
  by_contra hne
  exact (List.pairwise_filterMap.mp h).forall ha ha' hne b hread b hread' rfl

section Siblings

variable {siblings : List Element} {e other : Element} {name : String}

theorem seenName?_eq_some (h : seenName? e = some name) :
    isSkipped e = false ∧ (e.nonEmpty? "shadows" = some name ∨ name? e = some name) := by
  unfold seenName? at h
  split at h
  · cases h
  · next hskipped =>
    refine ⟨by simpa using hskipped, ?_⟩
    rcases Option.or_eq_some_iff.mp h with h | ⟨-, h⟩
    · exact Or.inl h
    · exact Or.inr h

variable (h : ShadowConsistently siblings)

include h in
/-- A sibling whose name is taken over gives no function. -/
theorem isSkipped_of_taken (he : e ∈ siblings) (hother : other ∈ siblings)
    (htaken : e.nonEmpty? "shadows" = some name) (hname : name? other = some name) :
    isSkipped other := by
  obtain ⟨owner, howner, hsame, hshadowed⟩ := h.owner_shadowed e he name htaken
  obtain rfl := eq_of_nodup_filterMap h.names_distinct howner hother hsame hname
  exact Bool.or_eq_true_iff.mpr (Or.inr hshadowed)

include h in
/-- **No two siblings are seen under one name.** -/
theorem nodup_seenNames : (siblings.filterMap seenName?).Nodup := by
  have hnames := List.pairwise_filterMap.mp h.names_distinct
  have hshadows := List.pairwise_filterMap.mp h.shadows_distinct
  refine List.pairwise_filterMap.mpr ((hnames.and hshadows).imp_of_mem ?_)
  rintro e other he hother ⟨hnames, hshadows⟩ name hname _ hsame rfl
  obtain ⟨hvisible, hname⟩ := seenName?_eq_some hname
  obtain ⟨hvisible', hsame⟩ := seenName?_eq_some hsame
  rcases hname with htaken | hown
  · rcases hsame with htaken' | hown'
    · exact hshadows name htaken name htaken' rfl
    · exact Bool.false_ne_true (hvisible'.symm.trans (isSkipped_of_taken h he hother htaken hown'))
  · rcases hsame with htaken' | hown'
    · exact Bool.false_ne_true (hvisible.symm.trans (isSkipped_of_taken h hother he htaken' hown))
    · exact hnames name hown name hown' rfl

include h in
theorem not_isMarked_of_seen (hname : name ∈ siblings.filterMap seenName?) : ¬IsMarked name := by
  obtain ⟨e, he, hseen⟩ := List.mem_filterMap.mp hname
  have hunmarked := h.unmarked e he
  rcases (seenName?_eq_some hseen).2 with hname | hname
  · exact hunmarked "shadows" (by decide) name (Option.filter_eq_some_iff.mp hname).1
  · exact hunmarked "name" (by decide) name (Option.filter_eq_some_iff.mp hname).1

include h in
theorem nodup_safeNames : ((siblings.filterMap seenName?).map safeIdentifier).Nodup := by
  refine List.Nodup.map_on (fun name hname other hother hsame => ?_) (nodup_seenNames h)
  exact safeIdentifier_inj (not_isMarked_of_seen h hname) (not_isMarked_of_seen h hother) hsame

end Siblings

/-! ## Members of a compound type -/

/-- The children of a compound type that may stand for its functions and methods. -/
def memberChildren (e : Element) : List Element := e.children.filter fun c => c.tag ∈ functionTags

/-- Children chosen tag by tag are those that are chosen at once, in another order. -/
theorem perm_childrenTagged (e : Element) {tags : List String} (h : tags.Nodup) :
    (tags.flatMap e.childrenTagged).Perm (e.children.filter fun c => c.tag ∈ tags) := by
  induction tags with
  | nil => simp
  | cons tag tags ih =>
    obtain ⟨hfresh, htags⟩ := List.nodup_cons.mp h
    let chosen := e.children.filter fun c => c.tag ∈ tag :: tags
    have hfirst : chosen.filter (·.tag = tag) = e.childrenTagged tag := by
      rw [List.filter_filter]
      exact List.filter_congr fun c _ => by by_cases hc : c.tag = tag <;> simp [hc]
    have hothers : chosen.filter (fun c => !(c.tag = tag)) =
        e.children.filter fun c => c.tag ∈ tags := by
      rw [List.filter_filter]
      refine List.filter_congr fun c _ => ?_
      by_cases hc : c.tag = tag <;> simp [hc, hfresh]
    have hsplit := List.filter_append_perm (fun c => c.tag = tag) chosen
    rw [hfirst, hothers] at hsplit
    exact ((ih htags).append_left (e.childrenTagged tag)).trans hsplit

theorem map_name_function? (home : String) (owner : Option String) (kind : FunctionKind)
    (e : Element) :
    (function? home owner kind e).map Function.name =
      (seenName? e).map fun name => if owner.isSome then safeIdentifier name else name := by
  unfold function? seenName?
  split
  · rfl
  · rw [Option.map_map]
    rfl

theorem map_name_members (home owner : String) (kind : FunctionKind) (tag : String) (e : Element) :
    (members home owner kind tag e).map Function.name =
      ((e.childrenTagged tag).filterMap seenName?).map safeIdentifier := by
  rw [members, List.map_filterMap, List.map_filterMap]
  exact List.filterMap_congr fun c _ => map_name_function? home (some owner) kind c

theorem map_name_compound? {home : String} {kind : CompoundKind} {e : Element} {c : Compound}
    (h : compound? home kind e = some c) :
    (c.functions ++ c.methods).map Function.name =
      ((functionTags.flatMap e.childrenTagged).filterMap seenName?).map safeIdentifier := by
  obtain ⟨name, -, rfl⟩ := Option.map_eq_some_iff.mp h
  simp [functionTags, map_name_members]

/-! ## Free functions -/

/-- The function that a declaration is, if it is one. -/
def asFunction? : Declaration → Option Function
  | .function f => some f
  | _ => none

/-- The functions that a module declares outside of its compound types. -/
def freeFunctions (m : Module) : List Function := m.declarations.filterMap asFunction?

theorem asFunction?_declarationOfKind? (options : Options) (home : String) (e : Element)
    (kind : DeclarationKind) :
    (declarationOfKind? options home e kind).bind asFunction? =
      if kind = .function then function? home none .static e else none := by
  cases kind with
  | function =>
    cases h : function? home none .static e with
    | none => simp [declarationOfKind?, h]
    | some f => simp [declarationOfKind?, h, asFunction?]
  | _ => simp [declarationOfKind?, Option.bind_map, Function.comp_def, asFunction?]

/-- The free functions are those of the children with that tag. -/
theorem asFunction?_declaration? (options : Options) (home : String) (e : Element) :
    (declaration? options home e).bind asFunction? =
      if e.tag = "function" then function? home none .static e else none := by
  unfold declaration?
  split
  · next hhidden =>
    have hnone : function? home none .static e = none := by simp [function?, isSkipped, hhidden]
    rw [hnone, ite_self]
    rfl
  · by_cases htag : e.tag ∈ declarationTags
    · obtain ⟨kind, hkind, hfunction⟩ := ofTag?_of_mem htag
      simp only [hkind, Option.bind_some, asFunction?_declarationOfKind?, hfunction]
    · have hname : e.tag ≠ "function" := fun h => htag (by rw [h]; decide)
      rw [ofTag?_eq_none htag, if_neg hname]
      rfl

theorem map_name_freeFunctions (options : Options) (e : Element) :
    (freeFunctions (moduleOf options e)).map Function.name =
      (e.childrenTagged "function").filterMap seenName? := by
  rw [freeFunctions, moduleOf, List.filterMap_filterMap, List.map_filterMap, Element.childrenTagged,
    List.filterMap_filter]
  refine List.filterMap_congr fun c _ => ?_
  rw [asFunction?_declaration?]
  by_cases htag : c.tag = "function"
  · rw [if_pos htag, map_name_function?]
    simp [htag]
  · simp [htag]

/-! ## Lines -/

/-- The name that the line of a function defines in its table. -/
def boundName (f : Function) : String := safeIdentifier f.name

theorem definition_eq (f : Function) :
    Stub.definition f = "function " ++ Stub.qualifier f ++ boundName f ++ "(" ++
      Stub.commas (f.arguments.map Parameter.name) ++ ") end" := rfl

/-- A name that is fit for programs is not marked again. -/
theorem map_boundName {fs : List Function} {names : List String}
    (h : fs.map Function.name = names.map safeIdentifier) :
    fs.map boundName = names.map safeIdentifier := by
  have hbound : fs.map boundName = (fs.map Function.name).map safeIdentifier := by
    rw [List.map_map]
    rfl
  rw [hbound, h, List.map_map]
  exact List.map_congr_left fun name _ => Lua.safeIdentifier_idem name

/-- **Shadowing never gives two functions of one name.** When the children that may stand for
members of a compound type shadow each other consistently, its functions and methods have distinct
names, and the lines that define them define distinct names. The same holds of the free functions of
a module. -/
theorem nodup_boundNames :
    (∀ (home : String) (kind : CompoundKind) (e : Element) (c : Compound),
      compound? home kind e = some c → ShadowConsistently (memberChildren e) →
      ((c.functions ++ c.methods).map Function.name).Nodup ∧
        ((c.functions ++ c.methods).map boundName).Nodup) ∧
    (∀ (options : Options) (e : Element), ShadowConsistently (e.childrenTagged "function") →
      ((freeFunctions (moduleOf options e)).map Function.name).Nodup ∧
        ((freeFunctions (moduleOf options e)).map boundName).Nodup) ∧
    ∀ f : Function, Stub.definition f = "function " ++ Stub.qualifier f ++ boundName f ++ "(" ++
      Stub.commas (f.arguments.map Parameter.name) ++ ") end" := by
  refine ⟨?_, ?_, definition_eq⟩
  · intro home kind e c hc h
    have hnames := map_name_compound? hc
    have hperm := ((perm_childrenTagged e (by decide : functionTags.Nodup)).filterMap
      seenName?).map safeIdentifier
    have hnodup := hperm.nodup_iff.mpr (nodup_safeNames h)
    rw [map_boundName hnames, hnames]
    exact ⟨hnodup, hnodup⟩
  · intro options e h
    have hnames := map_name_freeFunctions options e
    have hbound : (freeFunctions (moduleOf options e)).map boundName =
        ((e.childrenTagged "function").filterMap seenName?).map safeIdentifier := by
      rw [← hnames, List.map_map]
      rfl
    rw [hnames, hbound]
    exact ⟨nodup_seenNames h, nodup_safeNames h⟩

/-- A function and what takes over its name, with a tag. -/
def spawning (tag : String) : List Element := [
  { tag := "function", attributes := .ofList [("name", "spawn"), ("shadowed-by", "spawn_full")] },
  { tag, attributes := .ofList [("name", "spawn_full"), ("shadows", "spawn")] }]

/-- A type with a constructor in the place of a function, and with a method. -/
def spawningType : Element where
  tag := "class"
  attributes := .ofList [("name", "Process")]
  children := spawning "constructor" ++
    [{ tag := "method", attributes := .ofList [("name", "end")] }]

/-- A namespace with a function in the place of another one. -/
def spawningNamespace : Element where
  tag := "namespace"
  attributes := .ofList [("name", "GLib")]
  children := spawning "function"

theorem nodup_boundNames_spawning :
    (ShadowConsistently (memberChildren spawningType) ∧
      ∃ c, compound? "GLib" .object spawningType = some c ∧
        (c.functions ++ c.methods).map Function.name = ["spawn", "end__"] ∧
        ((c.functions ++ c.methods).map boundName).Nodup) ∧
    ShadowConsistently (spawningNamespace.childrenTagged "function") ∧
      (freeFunctions (moduleOf { target := "GLib" } spawningNamespace)).map Function.name =
        ["spawn"] ∧
      ((freeFunctions (moduleOf { target := "GLib" } spawningNamespace)).map boundName).Nodup := by
  have htype : ShadowConsistently (memberChildren spawningType) :=
    ⟨by decide, by decide, by decide, by decide⟩
  have hspace : ShadowConsistently (spawningNamespace.childrenTagged "function") :=
    ⟨by decide, by decide, by decide, by decide⟩
  obtain ⟨hmembers, hfree, -⟩ := nodup_boundNames
  obtain ⟨c, hc, hnames⟩ : ∃ c, compound? "GLib" .object spawningType = some c ∧
      (c.functions ++ c.methods).map Function.name = ["spawn", "end__"] :=
    ⟨_, rfl, by decide⟩
  refine ⟨⟨htype, c, hc, hnames, (hmembers _ _ _ _ hc htype).2⟩, hspace, ?_, (hfree _ _ hspace).2⟩
  decide

end GirStubs.Gir
