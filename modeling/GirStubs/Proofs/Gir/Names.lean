import GirStubs.Proofs.Api.Worded
import GirStubs.Proofs.Gir.TypeLeaves
import GirStubs.Proofs.Gir.WellFormed

/-!
# Names made of words

When every name in a tree is a word, what is read from the tree is worded (`worded_moduleOf`). A
type is one line however deep its containers nest (`oneLine_heldType`). Only the parent of a
compound type is not among the names, and is copied as it stands, so it has to be one line itself.
-/

namespace GirStubs.Gir

open Api Text
open Lua (TypeExpr IsWord isWord_safeIdentifier oneLine_of_isWord)
open Markup

/-- The texts that name an element are words, throughout a tree. -/
def NamesAreWords (e : Element) : Prop :=
  ∀ d ∈ e.subtree, ∀ key ∈ ["name", "shadows"], ∀ value ∈ d.attribute? key, IsWord value

instance (e : Element) : Decidable (NamesAreWords e) := inferInstanceAs (Decidable (∀ _ ∈ _, _))

/-- The parents that the children of an element inherit from are named on one line. -/
def ParentsOnOneLine (e : Element) : Prop :=
  ∀ c ∈ e.children, ∀ parent ∈ c.attribute? "parent", OneLine parent

instance (e : Element) : Decidable (ParentsOnOneLine e) :=
  inferInstanceAs (Decidable (∀ _ ∈ _, _))

namespace NamesAreWords

variable {e c : Element} {name : String} (h : NamesAreWords e)

include h in
theorem own {key value : String} (hkey : key ∈ ["name", "shadows"])
    (hvalue : e.attribute? key = some value) : IsWord value :=
  (Element.forall_subtree_iff.mp h).1 key hkey value hvalue

include h in
theorem child (hc : c ∈ e.children) : NamesAreWords c :=
  (Element.forall_subtree_iff.mp h).2 c hc

include h in
theorem ofNonEmpty {key : String} (hkey : key ∈ ["name", "shadows"])
    (hname : e.nonEmpty? key = some name) : IsWord name :=
  h.own hkey (Option.filter_eq_some_iff.mp hname).1

include h in
theorem ofName (hname : name? e = some name) : IsWord name := h.ofNonEmpty (by decide) hname

include h in
theorem ofPublicName (hname : publicName? e = some name) : IsWord name := by
  rcases Option.or_eq_some_iff.mp hname with hname | ⟨_, hname⟩
  · exact h.ofNonEmpty (by decide) hname
  · exact h.ofName hname

include h in
theorem setName (hname : IsWord name) : NamesAreWords (e.setAttribute "name" name) := by
  refine Element.forall_subtree_iff.mpr ⟨fun key hkey value hvalue => ?_, fun c hc => h.child hc⟩
  rw [Option.mem_def, Element.attribute?_setAttribute] at hvalue
  split at hvalue
  · exact Option.some.inj hvalue ▸ hname
  · exact h.own hkey hvalue

end NamesAreWords

/-! ## Types -/

theorem oneLine_render {t : TypeExpr} (h : t.Over OneLine) : OneLine t.render := by
  induction t with
  | name text => exact TypeExpr.over_name.mp h
  | array element ih =>
    rw [TypeExpr.render, oneLine_append]
    exact ⟨ih (TypeExpr.over_array.mp h), by decide⟩
  | table key value ihkey ihvalue =>
    obtain ⟨hkey, hvalue⟩ := TypeExpr.over_table.mp h
    simp only [TypeExpr.render, oneLine_append]
    exact ⟨⟨⟨⟨by decide, ihkey hkey⟩, by decide⟩, ihvalue hvalue⟩, by decide⟩

theorem oneLine_join (first second : String) (hfirst : OneLine first) (hsecond : OneLine second) :
    OneLine (first ++ "." ++ second) := by
  simp only [oneLine_append]
  exact ⟨⟨hfirst, by decide⟩, hsecond⟩

theorem oneLine_heldType {home : String} (hhome : OneLine home) {e : Element}
    (h : NamesAreWords e) : OneLine (heldType (some home) e).render := by
  apply oneLine_render
  apply over_heldType oneLine_join hhome (by decide) (by decide)
  intro d hd name hname
  exact oneLine_of_isWord (h d hd "name" (by decide) name hname)

/-! ## Functions and callbacks -/

section Signature

variable {home : String} (hhome : OneLine home) {e : Element} (h : NamesAreWords e)

include hhome h in
theorem worded_parameter : (parameter home e).Worded where
  name := by
    refine isWord_safeIdentifier ?_
    cases hname : e.attribute? "name" with
    | none => exact (by decide : IsWord "_")
    | some name => exact h.own (by decide) hname
  type := oneLine_heldType hhome h

include hhome h in
theorem worded_parameters : ∀ p ∈ parameters home e, p.Worded := by
  unfold parameters
  split
  · exact List.forall_mem_nil _
  · next list hlist =>
    have hwords := h.child (Element.mem_children_of_child? hlist)
    rw [List.forall_mem_map]
    exact fun c hc => worded_parameter hhome (hwords.child (List.mem_filter.mp hc).1)

theorem worded_withReceiver {list : List Parameter} (h : ∀ p ∈ list, p.Worded) :
    ∀ p ∈ withReceiver list, p.Worded := by
  cases list with
  | nil => exact h
  | cons first rest =>
    have hreceiver : IsWord receiverName := by
      decide
    rw [List.forall_mem_cons] at h
    exact List.forall_mem_cons.mpr ⟨⟨hreceiver, h.1.type⟩, h.2⟩

include hhome h in
theorem oneLine_returnValue? {value : ReturnValue} (hvalue : returnValue? home e = some value) :
    OneLine value.type.render := by
  unfold returnValue? at hvalue
  split at hvalue
  · cases hvalue
  · next c hc =>
    dsimp only at hvalue
    split at hvalue
    · cases hvalue
    · cases hvalue
      exact oneLine_heldType hhome (h.child (Element.mem_children_of_child? hc))

include hhome h in
theorem worded_function? {owner : Option String} (howner : OneLine (tableOf home owner))
    {kind : FunctionKind} {f : Function} (hf : function? home owner kind e = some f) :
    f.Worded := by
  obtain ⟨-, name, hname, rfl⟩ := of_function? hf
  have hword := h.ofPublicName hname
  refine ⟨?_, ?_, fun value hvalue => oneLine_returnValue? hhome h hvalue, ?_⟩
  · show IsWord (if owner.isSome then Lua.safeIdentifier name else name)
    split
    · exact isWord_safeIdentifier hword
    · exact hword
  · cases kind with
    | static => exact worded_parameters hhome h
    | method => exact worded_withReceiver (worded_parameters hhome h)
  · intro table htable
    exact Option.some.inj htable ▸ howner

include hhome h in
theorem worded_callback? {c : Callback} (hc : callback? home e = some c) : c.Worded := by
  obtain ⟨name, hname, rfl⟩ := Option.map_eq_some_iff.mp hc
  refine ⟨h.ofName hname, worded_parameters hhome h, fun type htype => ?_, hhome⟩
  obtain ⟨value, hvalue, rfl⟩ := Option.map_eq_some_iff.mp htype
  exact oneLine_returnValue? hhome h hvalue

end Signature

/-! ## Compound types -/

section Compound

variable {home : String} (hhome : OneLine home) {e : Element} (h : NamesAreWords e)

include hhome h in
/-- A callback without a name is read under the name of the field. -/
theorem worded_field? {field : Field} (hfield : field? home e = some field) : field.Worded := by
  rcases of_field? hfield with ⟨inner, c, hinner, hc, rfl⟩ | ⟨-, name, hname, rfl⟩
  · have hwords := h.child (Element.mem_children_of_child? hinner)
    rcases of_fieldCallback? hc with hown | ⟨name, hname, hnamed⟩
    · exact worded_callback? hhome hwords hown
    · exact worded_callback? hhome (hwords.setName (h.ofName hname)) hnamed
  · exact ⟨isWord_safeIdentifier (h.ofName hname), oneLine_heldType hhome h⟩

include hhome h in
theorem worded_fields : ∀ field ∈ fields home e, field.Worded := by
  intro field hfield
  obtain ⟨c, hc, hread⟩ := List.mem_filterMap.mp hfield
  have hmem := Element.mem_children_of_mem_childrenTagged (List.mem_filter.mp hc).1
  exact worded_field? hhome (h.child hmem) hread

include hhome h in
theorem worded_members {owner : String} (howner : OneLine owner) (kind : FunctionKind)
    (tag : String) : ∀ f ∈ members home owner kind tag e, f.Worded := by
  have htable : OneLine (tableOf home (some owner)) := by
    exact oneLine_join home owner hhome howner
  intro f hf
  obtain ⟨c, hc, hread⟩ := List.mem_filterMap.mp hf
  have hmem := Element.mem_children_of_mem_childrenTagged hc
  exact worded_function? hhome (h.child hmem) htable hread

include h in
theorem oneLine_parentNames (hparent : ∀ parent ∈ e.attribute? "parent", OneLine parent) :
    ∀ name ∈ parentNames e, OneLine name := by
  refine List.forall_mem_append.mpr ⟨fun name hname => ?_, fun name hname => ?_⟩
  · exact hparent name (Option.filter_eq_some_iff.mp (Option.mem_toList.mp hname)).1
  · obtain ⟨c, hc, hname⟩ := List.mem_filterMap.mp hname
    have hmem := Element.mem_children_of_mem_childrenTagged hc
    exact oneLine_of_isWord ((h.child hmem).ofName hname)

include hhome h in
theorem oneLine_parents (hparent : ∀ parent ∈ e.attribute? "parent", OneLine parent) :
    ∀ type ∈ parents home e, OneLine type.render := by
  intro type htype
  apply oneLine_render
  exact over_parents oneLine_join hhome (by decide) (oneLine_parentNames h hparent) type htype

include hhome h in
theorem worded_compound? (hparent : ∀ parent ∈ e.attribute? "parent", OneLine parent)
    {kind : CompoundKind} {c : Compound} (hc : compound? home kind e = some c) : c.Worded := by
  obtain ⟨name, hname, rfl⟩ := Option.map_eq_some_iff.mp hc
  have hword := h.ofName hname
  have hmembers := worded_members hhome h (oneLine_of_isWord hword)
  exact {
    name := hword
    home := hhome
    fields := worded_fields hhome h
    methods := hmembers .method "method"
    functions := List.forall_mem_append.mpr
      ⟨hmembers .static "function", hmembers .static "constructor"⟩
    parents := oneLine_parents hhome h hparent }

end Compound

/-! ## Declarations and modules -/

section Module

variable {options : Options} (htarget : OneLine options.target)

include htarget in
theorem oneLine_aliasHome {home : String} (hhome : OneLine home) :
    OneLine (options.aliasHome home) := by
  unfold Options.aliasHome
  split
  · exact htarget
  · exact hhome

include htarget in
theorem worded_declarationOfKind? {home : String} (hhome : OneLine home) {e : Element}
    (h : NamesAreWords e) (hparent : ∀ parent ∈ e.attribute? "parent", OneLine parent)
    {kind : DeclarationKind} {d : Declaration}
    (hd : declarationOfKind? options home e kind = some d) : d.Worded := by
  cases kind with
  | typeAlias =>
    obtain ⟨a, ha, rfl⟩ := Option.map_eq_some_iff.mp hd
    obtain ⟨name, hname, rfl⟩ := Option.map_eq_some_iff.mp ha
    exact ⟨h.ofName hname, oneLine_heldType (oneLine_aliasHome htarget hhome) h, hhome⟩
  | enumeration kind =>
    obtain ⟨a, ha, rfl⟩ := Option.map_eq_some_iff.mp hd
    obtain ⟨name, hname, rfl⟩ := Option.map_eq_some_iff.mp ha
    exact ⟨h.ofName hname, hhome⟩
  | callback =>
    obtain ⟨c, hc, rfl⟩ := Option.map_eq_some_iff.mp hd
    exact worded_callback? hhome h hc
  | function =>
    obtain ⟨f, hf, rfl⟩ := Option.map_eq_some_iff.mp hd
    have htable : OneLine (tableOf home none) := hhome
    exact worded_function? hhome h htable hf
  | compound kind =>
    obtain ⟨c, hc, rfl⟩ := Option.map_eq_some_iff.mp hd
    exact worded_compound? hhome h hparent hc

include htarget in
/-- **What is read from words is worded.** -/
theorem worded_moduleOf {e : Element} (hhome : OneLine (homeOf options e)) (h : NamesAreWords e)
    (hparents : ParentsOnOneLine e) : (moduleOf options e).Worded where
  name := htarget
  declarations := by
    intro d hd
    obtain ⟨c, hc, hread⟩ := List.mem_filterMap.mp hd
    unfold declaration? at hread
    split at hread
    · cases hread
    · obtain ⟨kind, _, hread⟩ := Option.bind_eq_some_iff.mp hread
      exact worded_declarationOfKind? htarget hhome (h.child hc) (hparents c hc) hread

end Module

end GirStubs.Gir
