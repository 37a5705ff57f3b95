import GirStubs.Proofs.Api.Labels
import GirStubs.Proofs.Gir.TypeLeaves
import GirStubs.Proofs.Gir.WellFormed
import GirStubs.Proofs.Lua.CarriageReturn
import GirStubs.Proofs.Markup.Absence

/-!
# Modules without carriage returns

All labels and all documentation of a module come from attribute values and texts of the tree, from
the target namespace, and from words that the reader knows. Where the tree has no carriage return,
the module has none (`not_anyReturn_moduleOf`).
-/

namespace GirStubs.Gir

open Api Text
open Lua (TypeExpr)
open Markup

section Element

variable {home : String} (hhome : ¬HasReturn home) {e : Element} (h : e.Lacks '\r')

include h in
theorem not_hasReturn_attribute? {key value : String} (hvalue : e.attribute? key = some value) :
    ¬HasReturn value := by
  have hself : e ∈ e.subtree := by
    rw [Element.subtree_eq]
    exact List.mem_cons_self
  exact h.attribute hself hvalue

include h in
theorem not_hasReturn_nonEmpty? {key value : String} (hvalue : e.nonEmpty? key = some value) :
    ¬HasReturn value :=
  not_hasReturn_attribute? h (Option.filter_eq_some_iff.mp hvalue).1

include h in
theorem not_hasReturn_publicName? {name : String} (hname : publicName? e = some name) :
    ¬HasReturn name := by
  rcases Option.or_eq_some_iff.mp hname with hname | ⟨_, hname⟩
  · exact not_hasReturn_nonEmpty? h hname
  · exact not_hasReturn_nonEmpty? h hname

include h in
theorem not_hasReturn_documentation : ¬HasReturn (documentation e) := by
  unfold documentation
  cases hdoc : e.child? "doc" with
  | none => decide
  | some doc =>
    cases htext : doc.text with
    | none => simp [htext, HasReturn]
    | some text =>
      have hplain : ¬HasReturn text := (h.child (Element.mem_children_of_child? hdoc)).text htext
      simpa [htext] using hplain

/-! ## Types -/

theorem not_hasReturn_render {t : TypeExpr} (hover : t.Over (¬HasReturn ·)) :
    ¬HasReturn t.render := by
  rw [Lua.hasReturn_render]
  rintro ⟨leaf, hleaf, hreturn⟩
  exact hover leaf hleaf hreturn

theorem not_hasReturn_join (first second : String) (hfirst : ¬HasReturn first)
    (hsecond : ¬HasReturn second) : ¬HasReturn (first ++ "." ++ second) := by
  have hdot : ¬HasReturn "." := by decide
  simp [hfirst, hsecond, hdot]

include hhome h in
theorem not_hasReturn_heldType : ¬HasReturn (heldType (some home) e).render := by
  apply not_hasReturn_render
  apply over_heldType (p := (¬HasReturn ·)) not_hasReturn_join hhome (by decide) (by decide)
  intro d hd name hname
  exact h.attribute hd hname

end Element

/-! ## Functions and callbacks -/

section Signature

variable {home : String} (hhome : ¬HasReturn home) {e : Element} (h : e.Lacks '\r')

include hhome h in
theorem not_anyReturn_parameter : ¬AnyReturn (parameter home e).labels := by
  have hname : ¬HasReturn ((e.attribute? "name").getD "_") := by
    cases hname : e.attribute? "name" with
    | none => simp [HasReturn]
    | some name => exact not_hasReturn_attribute? h hname
  simp [Parameter.labels, parameter, hname, not_hasReturn_heldType hhome h]

include hhome h in
theorem not_anyReturn_parameters : ∀ p ∈ parameters home e, ¬AnyReturn p.labels := by
  unfold parameters
  split
  · exact List.forall_mem_nil _
  · next list hlist =>
    have hclear := h.child (Element.mem_children_of_child? hlist)
    rw [List.forall_mem_map]
    intro c hc
    exact not_anyReturn_parameter hhome (hclear.child (List.mem_of_mem_filter hc))

theorem not_anyReturn_withReceiver {list : List Parameter} (h : ∀ p ∈ list, ¬AnyReturn p.labels) :
    ∀ p ∈ withReceiver list, ¬AnyReturn p.labels := by
  cases list with
  | nil => exact h
  | cons first rest =>
    have hreceiver : ¬HasReturn receiverName := by decide
    obtain ⟨hfirst, hrest⟩ := List.forall_mem_cons.mp h
    refine List.forall_mem_cons.mpr ⟨?_, hrest⟩
    simp only [Parameter.labels, anyReturn_cons, not_or] at hfirst ⊢
    exact ⟨hreceiver, hfirst.2⟩

include hhome h in
theorem not_hasReturn_returnValue? {value : ReturnValue}
    (hvalue : returnValue? home e = some value) : ¬HasReturn value.type.render := by
  unfold returnValue? at hvalue
  split at hvalue
  · cases hvalue
  · next c hc =>
    dsimp only at hvalue
    split at hvalue <;> cases hvalue
    exact not_hasReturn_heldType hhome (h.child (Element.mem_children_of_child? hc))

include hhome h in
theorem not_anyReturn_function? {owner : Option String} (howner : ¬HasReturn (tableOf home owner))
    {kind : FunctionKind} {f : Function} (hf : function? home owner kind e = some f) :
    ¬AnyReturn f.labels ∧ ¬HasReturn f.doc := by
  obtain ⟨-, name, hname, rfl⟩ := of_function? hf
  have hown := not_hasReturn_publicName? h hname
  have hshown : ¬HasReturn (if owner.isSome then Lua.safeIdentifier name else name) := by
    split
    · rwa [Lua.hasReturn_safeIdentifier]
    · exact hown
  have hparameters := not_anyReturn_parameters hhome h
  refine ⟨?_, not_hasReturn_documentation h⟩
  simp only [Function.labels, anyReturn_append, anyReturn_cons, anyReturn_flatMap, anyReturn_map,
    Option.toList_some, anyReturn_nil, not_or]
  refine ⟨⟨⟨hshown, howner, not_false⟩, ?_⟩, ?_⟩
  · rintro ⟨p, hp, hreturn⟩
    cases kind with
    | static => exact hparameters p hp hreturn
    | method => exact not_anyReturn_withReceiver hparameters p hp hreturn
  · rintro ⟨value, hvalue, hreturn⟩
    exact not_hasReturn_returnValue? hhome h (Option.mem_toList.mp hvalue) hreturn

include hhome h in
theorem not_anyReturn_callback? {c : Callback} (hc : callback? home e = some c) :
    ¬AnyReturn c.labels := by
  obtain ⟨name, hname, rfl⟩ := Option.map_eq_some_iff.mp hc
  simp only [Callback.labels, anyReturn_append, anyReturn_cons, anyReturn_flatMap, anyReturn_map,
    not_or]
  refine ⟨⟨not_hasReturn_nonEmpty? h hname, hhome, ?_⟩, ?_⟩
  · rintro ⟨p, hp, hreturn⟩
    exact not_anyReturn_parameters hhome h p hp hreturn
  · rintro ⟨type, htype, hreturn⟩
    obtain ⟨value, hvalue, rfl⟩ := Option.map_eq_some_iff.mp (Option.mem_toList.mp htype)
    exact not_hasReturn_returnValue? hhome h hvalue hreturn

end Signature

/-! ## Compound types -/

section Compound

variable {home : String} (hhome : ¬HasReturn home) {e : Element} (h : e.Lacks '\r')

include hhome h in
theorem not_anyReturn_field? {field : Field} (hfield : field? home e = some field) :
    ¬AnyReturn field.labels := by
  rcases of_field? hfield with ⟨inner, c, hinner, hc, rfl⟩ | ⟨-, name, hname, rfl⟩
  · have hclear := h.child (Element.mem_children_of_child? hinner)
    rcases of_fieldCallback? hc with hown | ⟨name, hname, hnamed⟩
    · exact not_anyReturn_callback? hhome hclear hown
    · have hrenamed := hclear.setAttribute "name" (not_hasReturn_nonEmpty? h hname)
      exact not_anyReturn_callback? hhome hrenamed hnamed
  · simp [Field.labels, not_hasReturn_nonEmpty? h hname, not_hasReturn_heldType hhome h]

include hhome h in
theorem not_anyReturn_fields : ∀ field ∈ fields home e, ¬AnyReturn field.labels := by
  intro field hfield
  obtain ⟨c, hc, hread⟩ := List.mem_filterMap.mp hfield
  have hmem := Element.mem_children_of_mem_childrenTagged (List.mem_of_mem_filter hc)
  exact not_anyReturn_field? hhome (h.child hmem) hread

include hhome h in
theorem not_anyReturn_members {owner : String} (howner : ¬HasReturn owner) (kind : FunctionKind)
    (tag : String) :
    ∀ f ∈ members home owner kind tag e, ¬AnyReturn f.labels ∧ ¬HasReturn f.doc := by
  have htable : ¬HasReturn (tableOf home (some owner)) :=
    not_hasReturn_join home owner hhome howner
  intro f hf
  obtain ⟨c, hc, hread⟩ := List.mem_filterMap.mp hf
  have hclear := h.child (Element.mem_children_of_mem_childrenTagged hc)
  exact not_anyReturn_function? hhome hclear htable hread

include hhome h in
theorem not_hasReturn_parents : ∀ type ∈ parents home e, ¬HasReturn type.render := by
  have hnames : ∀ name ∈ parentNames e, ¬HasReturn name := by
    refine List.forall_mem_append.mpr ⟨fun name hname => ?_, fun name hname => ?_⟩
    · exact not_hasReturn_nonEmpty? h (Option.mem_toList.mp hname)
    · obtain ⟨c, hc, hname⟩ := List.mem_filterMap.mp hname
      have hclear := h.child (Element.mem_children_of_mem_childrenTagged hc)
      exact not_hasReturn_nonEmpty? hclear hname
  intro type htype
  apply not_hasReturn_render
  exact over_parents (p := (¬HasReturn ·)) not_hasReturn_join hhome (by decide) hnames type htype

include hhome h in
theorem not_anyReturn_compound? {kind : CompoundKind} {c : Compound}
    (hc : compound? home kind e = some c) :
    ¬AnyReturn c.labels ∧ ¬AnyReturn (Declaration.compound c).longDocs := by
  obtain ⟨name, hname, rfl⟩ := Option.map_eq_some_iff.mp hc
  have hown := not_hasReturn_nonEmpty? h hname
  have hmembers := not_anyReturn_members hhome h hown
  have hall : ∀ f ∈ members home name .method "method" e ++
      (members home name .static "function" e ++ members home name .static "constructor" e),
      ¬AnyReturn f.labels ∧ ¬HasReturn f.doc := by
    simp only [List.forall_mem_append]
    exact ⟨hmembers .method "method", hmembers .static "function", hmembers .static "constructor"⟩
  constructor
  · simp only [Compound.labels, anyReturn_append, anyReturn_cons, anyReturn_flatMap, anyReturn_map,
      not_or]
    refine ⟨⟨⟨hown, hhome, ?_⟩, ?_⟩, ?_⟩
    · rintro ⟨field, hfield, hreturn⟩
      exact not_anyReturn_fields hhome h field hfield hreturn
    · rintro ⟨f, hf, hreturn⟩
      exact (hall f hf).1 hreturn
    · rintro ⟨type, htype, hreturn⟩
      exact not_hasReturn_parents hhome h type htype hreturn
  · simp only [Declaration.longDocs, anyReturn_cons, anyReturn_map, not_or]
    refine ⟨not_hasReturn_documentation h, ?_⟩
    rintro ⟨f, hf, hreturn⟩
    exact (hall f hf).2 hreturn

end Compound

/-! ## Declarations and modules -/

section Module

variable {options : Options} (htarget : ¬HasReturn options.target)

include htarget in
theorem not_hasReturn_aliasHome {home : String} (hhome : ¬HasReturn home) :
    ¬HasReturn (options.aliasHome home) := by
  unfold Options.aliasHome
  split
  · exact htarget
  · exact hhome

include htarget in
theorem not_anyReturn_declarationOfKind? {home : String} (hhome : ¬HasReturn home) {e : Element}
    (h : e.Lacks '\r') {kind : DeclarationKind} {d : Declaration}
    (hd : declarationOfKind? options home e kind = some d) :
    ¬AnyReturn d.labels ∧ ¬AnyReturn d.longDocs := by
  cases kind with
  | typeAlias =>
    obtain ⟨a, ha, rfl⟩ := Option.map_eq_some_iff.mp hd
    obtain ⟨name, hname, rfl⟩ := Option.map_eq_some_iff.mp ha
    have htype := not_hasReturn_heldType (not_hasReturn_aliasHome htarget hhome) h
    simp [Declaration.labels, Declaration.longDocs, not_hasReturn_nonEmpty? h hname, htype, hhome]
  | enumeration kind =>
    obtain ⟨a, ha, rfl⟩ := Option.map_eq_some_iff.mp hd
    obtain ⟨name, hname, rfl⟩ := Option.map_eq_some_iff.mp ha
    simp [Declaration.labels, Declaration.longDocs, not_hasReturn_nonEmpty? h hname, hhome]
  | callback =>
    obtain ⟨c, hc, rfl⟩ := Option.map_eq_some_iff.mp hd
    exact ⟨not_anyReturn_callback? hhome h hc, anyReturn_nil⟩
  | function =>
    obtain ⟨f, hf, rfl⟩ := Option.map_eq_some_iff.mp hd
    have htable : ¬HasReturn (tableOf home none) := hhome
    obtain ⟨hlabels, hdoc⟩ := not_anyReturn_function? hhome h htable hf
    exact ⟨hlabels, by simpa [Declaration.longDocs] using hdoc⟩
  | compound kind =>
    obtain ⟨c, hc, rfl⟩ := Option.map_eq_some_iff.mp hd
    exact not_anyReturn_compound? hhome h hc

include htarget in
/-- **What is read from a tree without carriage returns has none.** -/
theorem not_anyReturn_moduleOf {e : Element} (h : e.Lacks '\r') :
    ¬AnyReturn (moduleOf options e).labels ∧ ¬AnyReturn (moduleOf options e).longDocs := by
  have hhome : ¬HasReturn (homeOf options e) := by
    unfold homeOf
    cases hname : name? e with
    | none => exact htarget
    | some name => exact not_hasReturn_nonEmpty? h hname
  have hall : ∀ d ∈ (moduleOf options e).declarations,
      ¬AnyReturn d.labels ∧ ¬AnyReturn d.longDocs := by
    intro d hd
    obtain ⟨c, hc, hread⟩ := List.mem_filterMap.mp hd
    unfold declaration? at hread
    split at hread
    · cases hread
    · obtain ⟨kind, _, hread⟩ := Option.bind_eq_some_iff.mp hread
      exact not_anyReturn_declarationOfKind? htarget hhome (h.child hc) hread
  simp only [Module.labels, Module.longDocs, anyReturn_cons, anyReturn_flatMap, not_or]
  refine ⟨⟨htarget, ?_⟩, ?_⟩
  · rintro ⟨d, hd, hreturn⟩
    exact (hall d hd).1 hreturn
  · rintro ⟨d, hd, hreturn⟩
    exact (hall d hd).2 hreturn

end Module

end GirStubs.Gir
