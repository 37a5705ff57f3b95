import GirStubs.Proofs.Gir.WellFormed
import GirStubs.Stub.Render
import Mathlib.Data.List.Basic

/-!
# Skipped elements leave nothing behind

An element that is hidden, shadowed, nameless or of no known kind contributes nothing, whether it
stands in a namespace or in a compound type. `prune` deletes all of them from a namespace. Each
reader gives a result for exactly the elements that are kept (`isSome_function?`, `isSome_field?`,
`isSome_declaration?`), and those are looked up by tag, so a deleted neighbour does not shift what
is found: the module stays the same (`moduleOf_prune`).
-/

namespace GirStubs.Gir

open Api
open Markup

/-! ## What is kept -/

def declarationTags : List String :=
  ["alias", "enumeration", "bitfield", "callback", "function", "record", "class", "union",
   "interface"]

def compoundTags : List String := ["record", "class", "union", "interface"]

def functionTags : List String := ["function", "constructor", "method"]

/-- A function is visible, and has a name of its own or of what it shadows. -/
def keepsFunction (e : Element) : Bool :=
  !isHidden e && !isShadowed e && ((e.nonEmpty? "shadows").isSome || (name? e).isSome)

/-- A field is visible, and has a name of its own or of its first callback. -/
def keepsField (e : Element) : Bool :=
  !isHidden e && ((name? e).isSome || ((e.child? "callback").bind name?).isSome)

/-- A child of a compound type contributes to it. -/
def keepsMember (e : Element) : Bool :=
  if e.tag ∈ functionTags then keepsFunction e
  else if e.tag = "field" then keepsField e
  else e.tag ∈ ["doc", "implements"]

/-- A child of a namespace contributes to it. -/
def keepsDeclaration (e : Element) : Bool :=
  if e.tag = "function" then keepsFunction e
  else !isHidden e && e.tag ∈ declarationTags && (name? e).isSome

/-- The element without the children that contribute nothing to a compound type. -/
def withKeptMembers (e : Element) : Element := { e with children := e.children.filter keepsMember }

/-- A compound type without the children that contribute nothing to it; other elements as they
are. -/
def pruneMembers (e : Element) : Element :=
  if e.tag ∈ compoundTags then withKeptMembers e else e

/-- A namespace without the children that contribute nothing, at either level. -/
def prune (e : Element) : Element :=
  { e with children := (e.children.filter keepsDeclaration).map pruneMembers }

/-! ## What gives a result -/

theorem isSome_function? (home : String) (owner : Option String) (kind : FunctionKind)
    (e : Element) : (function? home owner kind e).isSome = keepsFunction e := by
  unfold function? keepsFunction isSkipped publicName?
  cases isHidden e <;> cases isShadowed e <;> simp

theorem isSome_callback? (home : String) (e : Element) :
    (callback? home e).isSome = (name? e).isSome :=
  Option.isSome_map

theorem name?_setAttribute {name : String} (e : Element) (h : name ≠ "") :
    name? (e.setAttribute "name" name) = some name := by
  simp [name?, Element.nonEmpty?, Element.attribute?_setAttribute, h]

theorem isSome_fieldCallback? (home : String) (field callback : Element) :
    (fieldCallback? home field callback).isSome =
      ((name? field).isSome || (name? callback).isSome) := by
  unfold fieldCallback?
  cases hname : name? field with
  | none => simp [isSome_callback?]
  | some name => simp [isSome_callback?, name?_setAttribute callback (name?_ne hname)]

theorem isSome_field? (home : String) (e : Element) :
    (field? home e).isSome = ((name? e).isSome || ((e.child? "callback").bind name?).isSome) := by
  unfold field?
  cases e.child? "callback" with
  | none => simp
  | some callback => simp [isSome_fieldCallback?]

/-! ## Compound types -/

theorem filterMap_filter_of_isSome {α β : Type} {f : α → Option β} {kept : α → Bool} {l : List α}
    (h : ∀ a ∈ l, (f a).isSome → kept a) : (l.filter kept).filterMap f = l.filterMap f := by
  rw [List.filterMap_filter]
  refine List.filterMap_congr fun a ha => ?_
  cases hkept : kept a with
  | true => rfl
  | false =>
    have hnone : ¬(f a).isSome := fun hsome => by simp [h a ha hsome] at hkept
    simpa using (Option.not_isSome_iff_eq_none.mp hnone).symm

section Members

variable {e : Element} {tag : String}

/-- Deleting children commutes with choosing those of a tag. -/
theorem childrenTagged_withKeptMembers (e : Element) (tag : String) :
    (withKeptMembers e).childrenTagged tag = (e.childrenTagged tag).filter keepsMember := by
  unfold withKeptMembers Element.childrenTagged
  rw [List.filter_filter, List.filter_filter]
  simp only [Bool.and_comm]

theorem childrenTagged_of_keeps (h : ∀ c ∈ e.childrenTagged tag, keepsMember c) :
    (withKeptMembers e).childrenTagged tag = e.childrenTagged tag := by
  rw [childrenTagged_withKeptMembers, List.filter_eq_self.mpr h]

theorem tag_of_mem_childrenTagged {c : Element} (h : c ∈ e.childrenTagged tag) : c.tag = tag :=
  of_decide_eq_true (List.mem_filter.mp h).2

theorem documentation_withKeptMembers (e : Element) :
    documentation (withKeptMembers e) = documentation e := by
  have hdoc : (withKeptMembers e).childrenTagged "doc" = e.childrenTagged "doc" :=
    childrenTagged_of_keeps fun c hc => by
      simp [keepsMember, tag_of_mem_childrenTagged hc, functionTags]
  unfold documentation
  rw [Element.child?_eq_head?, Element.child?_eq_head?, hdoc]

theorem members_withKeptMembers {tag : String} (htag : tag ∈ functionTags) (home owner : String)
    (kind : FunctionKind) (e : Element) :
    members home owner kind tag (withKeptMembers e) = members home owner kind tag e := by
  unfold members
  rw [childrenTagged_withKeptMembers]
  refine filterMap_filter_of_isSome fun c hc hsome => ?_
  rw [isSome_function?] at hsome
  rwa [keepsMember, tag_of_mem_childrenTagged hc, if_pos htag]

theorem fields_withKeptMembers (home : String) (e : Element) :
    fields home (withKeptMembers e) = fields home e := by
  unfold fields
  rw [childrenTagged_withKeptMembers, List.filter_comm]
  refine filterMap_filter_of_isSome fun c hc hsome => ?_
  obtain ⟨hfield, hvisible⟩ := List.mem_filter.mp hc
  have htag := tag_of_mem_childrenTagged hfield
  rw [isSome_field?] at hsome
  simp [keepsMember, htag, functionTags, keepsField, hsome, hvisible]

theorem parents_withKeptMembers (home : String) (e : Element) :
    parents home (withKeptMembers e) = parents home e := by
  have himplements : (withKeptMembers e).childrenTagged "implements" =
      e.childrenTagged "implements" :=
    childrenTagged_of_keeps fun c hc => by
      simp [keepsMember, tag_of_mem_childrenTagged hc, functionTags]
  unfold parents parentNames
  rw [himplements]
  rfl

/-- A compound type reads its children by tag, and of each tag only those that are kept. -/
theorem compound?_withKeptMembers (home : String) (kind : CompoundKind) (e : Element) :
    compound? home kind (withKeptMembers e) = compound? home kind e := by
  unfold compound?
  simp only [documentation_withKeptMembers, fields_withKeptMembers, parents_withKeptMembers,
    members_withKeptMembers (show "function" ∈ functionTags by decide),
    members_withKeptMembers (show "constructor" ∈ functionTags by decide),
    members_withKeptMembers (show "method" ∈ functionTags by decide)]
  rfl

end Members

/-! ## Namespaces -/

theorem ofTag?_eq_none {tag : String} (h : tag ∉ declarationTags) :
    DeclarationKind.ofTag? tag = none := by
  simp only [declarationTags, List.mem_cons, List.not_mem_nil, or_false, not_or] at h
  simp [DeclarationKind.ofTag?, h]

theorem ofTag?_of_mem {tag : String} (h : tag ∈ declarationTags) :
    ∃ kind, DeclarationKind.ofTag? tag = some kind ∧ (kind = .function ↔ tag = "function") := by
  simp only [declarationTags, List.mem_cons, List.not_mem_nil, or_false] at h
  rcases h with rfl | rfl | rfl | rfl | rfl | rfl | rfl | rfl | rfl <;>
    exact ⟨_, rfl, by decide⟩

theorem ofTag?_of_compound {tag : String} (h : tag ∈ compoundTags) :
    ∃ kind, DeclarationKind.ofTag? tag = some (.compound kind) := by
  simp only [compoundTags, List.mem_cons, List.not_mem_nil, or_false] at h
  rcases h with rfl | rfl | rfl | rfl <;> exact ⟨_, rfl⟩

theorem isSome_declarationOfKind? (options : Options) (home : String) (e : Element)
    (kind : DeclarationKind) :
    (declarationOfKind? options home e kind).isSome =
      if kind = .function then keepsFunction e else (name? e).isSome := by
  cases kind with
  | function => simp [declarationOfKind?, isSome_function?]
  | callback => simp [declarationOfKind?, isSome_callback?]
  | typeAlias => simp [declarationOfKind?, typeAlias?]
  | enumeration kind => simp [declarationOfKind?, enumeration?]
  | compound kind => simp [declarationOfKind?, compound?]

/-- The elements that give a declaration are those that are kept. -/
theorem isSome_declaration? (options : Options) (home : String) (e : Element) :
    (declaration? options home e).isSome = keepsDeclaration e := by
  unfold declaration? keepsDeclaration
  by_cases htag : e.tag ∈ declarationTags
  · obtain ⟨kind, hkind, hfunction⟩ := ofTag?_of_mem htag
    cases hhidden : isHidden e <;>
      simp [hkind, isSome_declarationOfKind?, hfunction, htag, keepsFunction, hhidden]
  · have hname : e.tag ≠ "function" := fun h => htag (by rw [h]; decide)
    simp [ofTag?_eq_none htag, hname, htag]

theorem declaration?_pruneMembers (options : Options) (home : String) (e : Element) :
    declaration? options home (pruneMembers e) = declaration? options home e := by
  unfold pruneMembers
  split
  · next htag =>
    obtain ⟨kind, hkind⟩ := ofTag?_of_compound htag
    have htags : (withKeptMembers e).tag = e.tag := rfl
    have hhidden : isHidden (withKeptMembers e) = isHidden e := rfl
    simp only [declaration?, htags, hhidden, hkind, Option.bind_some, declarationOfKind?,
      compound?_withKeptMembers]
  · rfl

/-- **Skipped elements leave nothing behind**, neither in the module nor in its text; and what is
kept of a namespace makes one declaration each. -/
theorem moduleOf_prune (options : Options) (e : Element) :
    moduleOf options (prune e) = moduleOf options e ∧
      Stub.moduleText (moduleOf options (prune e)) = Stub.moduleText (moduleOf options e) ∧
      (moduleOf options e).declarations.length = (prune e).children.length := by
  let read := declaration? options (homeOf options e)
  have hkept : (e.children.filter keepsDeclaration).filterMap read = e.children.filterMap read :=
    filterMap_filter_of_isSome fun child _ hsome => by rwa [isSome_declaration?] at hsome
  have hpruned : (prune e).children.filterMap read = e.children.filterMap read := by
    rw [← hkept, prune, List.filterMap_map]
    exact List.filterMap_congr fun child _ => declaration?_pruneMembers options _ child
  have hmodule : moduleOf options (prune e) = moduleOf options e :=
    congrArg (Api.Module.mk options.target) hpruned
  refine ⟨hmodule, by rw [hmodule], ?_⟩
  show (e.children.filterMap read).length = _
  rw [← hkept, prune, List.length_map, List.length_filterMap_eq_countP, List.countP_eq_length]
  intro child hchild
  rw [isSome_declaration?]
  exact (List.mem_filter.mp hchild).2

end GirStubs.Gir
