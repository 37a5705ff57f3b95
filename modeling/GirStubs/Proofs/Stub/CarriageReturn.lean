import GirStubs.Proofs.Gir.CarriageReturn
import GirStubs.Proofs.Stub.Entries
import GirStubs.Stub.Document

/-!
# Carriage returns in a stub

A stub has a carriage return exactly where a label of its module has one or a long comment keeps
one, and nowhere else: documentation behind an annotation is folded (`hasReturn_moduleText`). The
line ends of a document are unified before it is read, so only a reference brings a carriage return
into a stub (`hasReturn_generate`).
-/

namespace GirStubs.Stub

open Api Text
open Lua (safeIdentifier)
open Lua.Comment (linesText trailingText)

/-! ## Functions -/

@[simp]
theorem not_hasReturn_nilMark (nilable : Bool) : ¬HasReturn (nilMark nilable) := by
  cases nilable <;> decide

theorem hasReturn_parameter (p : Parameter) : HasReturn (parameter p) ↔ AnyReturn p.labels := by
  have hword : ¬HasReturn "---@param " := by decide
  have hblank : ¬HasReturn " " := by decide
  unfold parameter Parameter.labels
  simp [hword, hblank]

theorem hasReturn_returnValue (r : ReturnValue) :
    HasReturn (returnValue r) ↔ HasReturn r.type.render := by
  have hword : ¬HasReturn "---@return " := by decide
  unfold returnValue
  simp [hword]

theorem anyReturn_documentation (doc : String) :
    AnyReturn (documentation doc) ↔ HasReturn (linesText doc) := by
  have hrule : ¬HasReturn "---\n--- ---\n---" := by decide
  by_cases hdoc : doc = ""
  · subst hdoc
    exact iff_of_false anyReturn_nil (by decide)
  · simp [documentation, hdoc, hrule]

theorem hasReturn_qualifier (f : Function) :
    HasReturn (qualifier f) ↔ ∃ table ∈ f.table, HasReturn table := by
  unfold qualifier
  cases f.table with
  | none => simp [HasReturn]
  | some table =>
    have hseparator : ¬HasReturn (separator f.kind) := by cases f.kind <;> decide
    simp [hseparator]

theorem hasReturn_commas (entries : List String) : HasReturn (commas entries) ↔ AnyReturn entries :=
  hasReturn_intercalate (by decide) entries

theorem anyReturn_toList {α : Type} (f : α → String) (o : Option α) :
    AnyReturn (o.map f).toList ↔ ∃ a ∈ o.toList, HasReturn (f a) := by
  cases o <;> simp

theorem anyReturn_function_labels (f : Function) :
    AnyReturn f.labels ↔ HasReturn (qualifier f) ∨ HasReturn f.name ∨
      (∃ p ∈ f.parameters, AnyReturn p.labels) ∨
      ∃ r ∈ f.result.toList, HasReturn r.type.render := by
  have htable : AnyReturn f.table.toList ↔ HasReturn (qualifier f) := by
    rw [hasReturn_qualifier]
    cases f.table <;> simp
  simp only [Function.labels, anyReturn_append, anyReturn_cons, anyReturn_flatMap, anyReturn_map,
    htable]
  grind

theorem hasReturn_definition {f : Function} (h : HasReturn (definition f)) :
    AnyReturn f.labels := by
  have hword : ¬HasReturn "function " := by decide
  have hopen : ¬HasReturn "(" := by decide
  have hclose : ¬HasReturn ") end" := by decide
  simp only [definition, hasReturn_append, hasReturn_commas, anyReturn_map, hword, hopen, hclose,
    Lua.hasReturn_safeIdentifier, false_or, or_false] at h
  rw [anyReturn_function_labels]
  obtain (h | h) | ⟨p, hp, h⟩ := h
  · exact Or.inl h
  · exact Or.inr (Or.inl h)
  · refine Or.inr (Or.inr (Or.inl ⟨p, mem_parameters_of_mem_arguments hp, ?_⟩))
    exact ⟨p.name, by simp [Parameter.labels], h⟩

theorem anyReturn_functionEntries (f : Function) :
    AnyReturn (functionEntries f) ↔ AnyReturn f.labels ∨ HasReturn (linesText f.doc) := by
  have hword : ¬HasReturn "--- # " := by decide
  have hblank : ¬HasReturn " " := by decide
  have hparens : ¬HasReturn "()" := by decide
  have hrule : ¬HasReturn "---" := by decide
  have hkind : ¬HasReturn (kindWord f.kind) := by cases f.kind <;> decide
  have hcomments : AnyReturn (functionComments f) ↔
      AnyReturn f.labels ∨ HasReturn (linesText f.doc) := by
    simp only [functionComments, anyReturn_append, anyReturn_cons, hasReturn_append,
      anyReturn_documentation, anyReturn_map, hasReturn_parameter, anyReturn_toList,
      hasReturn_returnValue, anyReturn_function_labels, hword, hblank, hparens, hrule, hkind,
      anyReturn_nil, false_or, or_false]
    grind
  rw [functionEntries_eq, anyReturn_append, anyReturn_cons, hcomments]
  constructor
  · rintro (h | h | h)
    · exact h
    · -- The definition only repeats what the comments have said.
      exact Or.inl (hasReturn_definition h)
    · exact (anyReturn_nil h).elim
  · exact Or.inl

theorem hasReturn_unlines (entries : List String) :
    HasReturn (unlines entries) ↔ AnyReturn entries :=
  hasReturn_intercalate (by decide) entries

theorem hasReturn_function (f : Function) :
    HasReturn (function f) ↔ AnyReturn f.labels ∨ HasReturn (linesText f.doc) :=
  (hasReturn_unlines _).trans (anyReturn_functionEntries f)

/-! ## Callbacks and fields -/

theorem hasReturn_typedName (p : Parameter) : HasReturn (typedName p) ↔ AnyReturn p.labels := by
  have hcolon : ¬HasReturn ": " := by decide
  simp [typedName, Parameter.labels, hcolon]

theorem hasReturn_signature (c : Callback) :
    HasReturn (signature c) ↔ (∃ p ∈ c.parameters, AnyReturn p.labels) ∨
      ∃ type ∈ c.result.toList, HasReturn type.render := by
  have hopen : ¬HasReturn "fun(" := by decide
  have hclose : ¬HasReturn ")" := by decide
  have hcolon : ¬HasReturn ": " := by decide
  have hnone : ¬HasReturn "" := by decide
  simp only [signature, hasReturn_append, hasReturn_commas, anyReturn_map, hasReturn_typedName,
    hopen, hclose, false_or, or_false]
  cases c.result with
  | none => simp [hnone]
  | some type => simp [hcolon]

theorem anyReturn_callback_labels (c : Callback) :
    AnyReturn c.labels ↔ HasReturn c.name ∨ HasReturn c.home ∨ HasReturn (signature c) := by
  simp only [Callback.labels, anyReturn_append, anyReturn_cons, anyReturn_flatMap, anyReturn_map,
    hasReturn_signature]
  grind

theorem hasReturn_callbackAlias (c : Callback) :
    HasReturn (callbackAlias c) ↔ AnyReturn c.labels := by
  have hword : ¬HasReturn "---@alias " := by decide
  have hdot : ¬HasReturn "." := by decide
  have hblank : ¬HasReturn " " := by decide
  unfold callbackAlias
  simp only [hasReturn_append, anyReturn_callback_labels, hword, hdot, hblank, false_or, or_false]
  grind

theorem hasReturn_field_value (f : ValueField) :
    HasReturn (field (.value f)) ↔ AnyReturn (Field.value f).labels := by
  have hword : ¬HasReturn "---@field " := by decide
  have hblank : ¬HasReturn " " := by decide
  unfold field Field.labels
  simp [hword, hblank]

/-- A field does not say which namespace its callback belongs to. -/
theorem hasReturn_field_callback (c : Callback) :
    HasReturn (field (.callback c)) ↔ HasReturn c.name ∨ HasReturn (signature c) := by
  have hword : ¬HasReturn "---@field " := by decide
  have hblank : ¬HasReturn " " := by decide
  unfold field callbackField
  simp [hword, hblank]

/-! ## Compound types -/

/-- The namespace of a callback in a field is that of the compound type. -/
def HomeShared (c : Compound) : Prop :=
  ∀ callback, Field.callback callback ∈ c.fields → callback.home = c.home

section Compound

variable {c : Compound}

theorem hasReturn_fullName (c : Compound) :
    HasReturn c.fullName ↔ HasReturn c.home ∨ HasReturn c.name := by
  have hdot : ¬HasReturn "." := by decide
  simp [Compound.fullName, hdot]

theorem hasReturn_classLine (c : Compound) :
    HasReturn (classLine c) ↔ HasReturn c.fullName ∨ ∃ type ∈ c.parents, HasReturn type.render := by
  have hword : ¬HasReturn "---@class " := by decide
  have hcolon : ¬HasReturn " : " := by decide
  by_cases hparents : c.parents = []
  · simp [classLine, hparents, HasReturn]
  · simp [classLine, hparents, hword, hcolon, hasReturn_commas]

/-- Between them, the name of the compound type and its fields have what the labels of the fields
have. -/
theorem hasReturn_fields (h : HomeShared c) :
    (HasReturn c.fullName ∨ ∃ f ∈ c.fields, HasReturn (field f)) ↔
      HasReturn c.fullName ∨ ∃ f ∈ c.fields, AnyReturn f.labels := by
  constructor
  · rintro (hname | ⟨f, hf, hfield⟩)
    · exact Or.inl hname
    · refine Or.inr ⟨f, hf, ?_⟩
      cases f with
      | value f => exact (hasReturn_field_value f).mp hfield
      | callback callback =>
        have hparts := (hasReturn_field_callback callback).mp hfield
        exact (anyReturn_callback_labels callback).mpr (by grind)
  · rintro (hname | ⟨f, hf, hlabels⟩)
    · exact Or.inl hname
    · cases f with
      | value f => exact Or.inr ⟨_, hf, (hasReturn_field_value f).mpr hlabels⟩
      | callback callback =>
        obtain hparts | hhome | hparts := (anyReturn_callback_labels callback).mp hlabels
        · exact Or.inr ⟨_, hf, (hasReturn_field_callback callback).mpr (Or.inl hparts)⟩
        · exact Or.inl ((hasReturn_fullName c).mpr (Or.inl (h callback hf ▸ hhome)))
        · exact Or.inr ⟨_, hf, (hasReturn_field_callback callback).mpr (Or.inr hparts)⟩

theorem anyReturn_compoundEntries (h : HomeShared c) :
    AnyReturn (compoundEntries c) ↔ HasReturn (linesText c.doc) ∨ HasReturn c.fullName ∨
      (∃ f ∈ c.fields, AnyReturn f.labels) ∨ ∃ type ∈ c.parents, HasReturn type.render := by
  have hword : ¬HasReturn "--- # " := by decide
  have hblank : ¬HasReturn " " := by decide
  have hrule : ¬HasReturn "---" := by decide
  have hbraces : ¬HasReturn " = \x7b\x7d" := by decide
  have hcall : ¬HasReturn "---@operator call: " := by decide
  have hkind : ¬HasReturn c.kind.word := by cases c.kind <;> decide
  have hoperator : AnyReturn (if c.callable then ["---@operator call: " ++ c.fullName] else []) →
      HasReturn c.fullName := by
    split <;> simp [hcall]
  have hfields := hasReturn_fields h
  simp only [compoundEntries, anyReturn_append, anyReturn_cons, hasReturn_append,
    anyReturn_documentation, hasReturn_classLine, anyReturn_map, hword, hblank, hrule, hbraces,
    hkind, anyReturn_nil, false_or, or_false]
  grind

theorem anyReturn_compound_labels (c : Compound) :
    AnyReturn c.labels ↔ HasReturn c.fullName ∨ (∃ f ∈ c.fields, AnyReturn f.labels) ∨
      (∃ f ∈ c.methods ++ c.functions, AnyReturn f.labels) ∨
      ∃ type ∈ c.parents, HasReturn type.render := by
  simp only [Compound.labels, anyReturn_append, anyReturn_cons, anyReturn_flatMap, anyReturn_map,
    hasReturn_fullName]
  grind

theorem anyReturn_compoundBlocks (h : HomeShared c) :
    AnyReturn (compoundBlocks c) ↔
      AnyReturn c.labels ∨ AnyReturn ((Declaration.compound c).longDocs.map linesText) := by
  have hmembers : AnyReturn ((c.methods ++ c.functions).map function) ↔
      (∃ f ∈ c.methods ++ c.functions, AnyReturn f.labels) ∨
        ∃ f ∈ c.methods ++ c.functions, HasReturn (linesText f.doc) := by
    simp only [anyReturn_map, hasReturn_function, and_or_left, exists_or]
  have hdocs : AnyReturn ((Declaration.compound c).longDocs.map linesText) ↔
      HasReturn (linesText c.doc) ∨
        ∃ f ∈ c.methods ++ c.functions, HasReturn (linesText f.doc) := by
    simp only [Declaration.longDocs, List.map_cons, List.map_map, anyReturn_cons, anyReturn_map,
      Function.comp_apply]
  simp only [compoundBlocks, anyReturn_cons, hmembers, hasReturn_unlines,
    anyReturn_compoundEntries h, anyReturn_compound_labels, hdocs]
  grind

end Compound

/-! ## Modules -/

theorem hasReturn_unblocks (blocks : List String) :
    HasReturn (unblocks blocks) ↔ AnyReturn blocks :=
  hasReturn_intercalate (by decide) blocks

/-- In every compound type the fields share its namespace. -/
def HomesShared (d : Declaration) : Prop := ∀ c, d = .compound c → HomeShared c

theorem hasReturn_declaration {d : Declaration} (h : HomesShared d) :
    HasReturn (declaration d) ↔ AnyReturn d.labels ∨ AnyReturn (d.longDocs.map linesText) := by
  have hdot : ¬HasReturn "." := by decide
  have hblank : ¬HasReturn " " := by decide
  rw [declaration, hasReturn_unblocks]
  cases d with
  | typeAlias a =>
    have hword : ¬HasReturn "---@alias " := by decide
    unfold declarationBlocks typeAlias
    simp only [Declaration.labels, Declaration.longDocs, hasReturn_append, anyReturn_cons,
      anyReturn_nil, List.map_nil, hdot, hblank, hword, false_or, or_false]
    grind
  | enumeration e =>
    have hword : ¬HasReturn "---@enum " := by decide
    have hbraces : ¬HasReturn " = \x7b\x7d" := by decide
    simp only [declarationBlocks, enumeration, hasReturn_unlines, Declaration.labels,
      Declaration.longDocs, hasReturn_append, anyReturn_cons, anyReturn_nil, List.map_nil,
      hdot, hbraces, hword, false_or, or_false]
    grind
  | callback c =>
    simp [declarationBlocks, Declaration.labels, Declaration.longDocs, hasReturn_callbackAlias]
  | function f =>
    simp [declarationBlocks, Declaration.labels, Declaration.longDocs, hasReturn_function]
  | compound c => exact anyReturn_compoundBlocks (h c rfl)

theorem hasReturn_moduleText {m : Module} (h : ∀ d ∈ m.declarations, HomesShared d) :
    HasReturn (moduleText m) ↔ AnyReturn m.labels ∨ AnyReturn (m.longDocs.map linesText) := by
  have hmeta : ¬HasReturn "---@meta " := by decide
  have hclass : ¬HasReturn "---@class " := by decide
  have hlocal : ¬HasReturn "local " := by decide
  have hbraces : ¬HasReturn " = \x7b\x7d" := by decide
  have hreturn : ¬HasReturn "return " := by decide
  have hend : ¬HasReturn "\n" := by decide
  have hdocs : AnyReturn (m.longDocs.map linesText) ↔
      ∃ d ∈ m.declarations, AnyReturn (d.longDocs.map linesText) := by
    simp only [Module.longDocs, List.map_flatMap, anyReturn_flatMap]
  have hdeclarations : AnyReturn (m.declarations.map declaration) ↔
      (∃ d ∈ m.declarations, AnyReturn d.labels) ∨ AnyReturn (m.longDocs.map linesText) := by
    rw [anyReturn_map, hdocs, ← exists_or]
    refine exists_congr fun d => ?_
    rw [← and_or_left]
    exact and_congr_right fun hd => hasReturn_declaration (h d hd)
  simp only [moduleText, hasReturn_unblocks, hasReturn_unlines, openingBlocks, anyReturn_append,
    anyReturn_cons, anyReturn_nil, hdeclarations, hasReturn_append, hmeta, hclass, hlocal, hbraces,
    hreturn, hend, Module.labels, anyReturn_flatMap]
  grind

/-! ## Documents -/

theorem homesShared_of_wellFormed {home : String} {d : Declaration} (h : d.WellFormed home) :
    HomesShared d := by
  rintro c rfl callback hcallback
  have hfield : callback.WellFormed home := h.fields _ hcallback
  rw [hfield.home_eq, h.home_eq]

theorem return_not_mem_characters (document : String) :
    '\r' ∉ Markup.Document.characters document := by
  intro hmem
  apply not_mem_unifyLineEnds document.toList
  unfold Markup.Document.characters at hmem
  split at hmem
  · cases hmem
  · next c rest hrest =>
    rw [hrest]
    split at hmem
    · exact List.mem_cons_of_mem c hmem
    · exact hmem

theorem lacks_namespaceElement? {document : String} {root e : Markup.Element}
    (hroot : Gir.readTree document = .ok root) (he : Gir.namespaceElement? root = some e)
    (h : ¬Markup.RefersTo '\r' (Markup.Document.characters document)) : e.Lacks '\r' := by
  have htext : Markup.Lacks '\r' (Markup.Document.characters document) :=
    ⟨return_not_mem_characters document, h⟩
  have hlacks : root.Lacks '\r' := by
    unfold Gir.readTree at hroot
    cases hparse : Markup.Document.parse document with
    | error refusal =>
      rw [hparse] at hroot
      cases hroot
    | ok tree =>
      rw [hparse] at hroot
      cases hroot
      exact (Markup.lacks_of_parse hparse htext).localized
  unfold Gir.namespaceElement? at he
  split at he
  · cases he
    exact hlacks
  · exact hlacks.child (Markup.Element.mem_children_of_child? he)

theorem generate_eq_ok {options : Gir.Options} {document stub : String}
    (h : generate options document = .ok stub) :
    ∃ m, Gir.readModule options document = .ok m ∧ moduleText m = stub := by
  unfold generate at h
  cases hread : Gir.readModule options document with
  | error failure =>
    rw [hread] at h
    cases h
  | ok m =>
    rw [hread] at h
    exact ⟨m, rfl, Except.ok.inj h⟩

/-- **Only references bring carriage returns into a stub**, and there they come into labels and into
comments of whole lines. -/
theorem hasReturn_generate (options : Gir.Options) (document stub : String)
    (htarget : ¬HasReturn options.target) (h : generate options document = .ok stub) :
    (HasReturn stub ↔ ∃ m, Gir.readModule options document = .ok m ∧
      (AnyReturn m.labels ∨ AnyReturn (m.longDocs.map linesText))) ∧
    (HasReturn stub → Markup.RefersTo '\r' (Markup.Document.characters document)) := by
  obtain ⟨m, hread, rfl⟩ := generate_eq_ok h
  obtain ⟨root, e, hroot, he, rfl⟩ := Gir.readModule_eq_ok_iff.mp hread
  have hhomes : ∀ d ∈ (Gir.moduleOf options e).declarations, HomesShared d := by
    intro d hd
    exact homesShared_of_wellFormed (Gir.wellFormed_moduleOf options e d hd)
  have htext := hasReturn_moduleText hhomes
  constructor
  · rw [htext]
    constructor
    · intro hparts
      exact ⟨_, hread, hparts⟩
    · rintro ⟨m, hm, hparts⟩
      cases hread.symm.trans hm
      exact hparts
  · intro hreturn
    by_contra hnone
    obtain ⟨hlabels, hdocs⟩ :=
      Gir.not_anyReturn_moduleOf htarget (lacks_namespaceElement? hroot he hnone)
    obtain hparts | hparts := htext.mp hreturn
    · exact hlabels hparts
    · rw [anyReturn_map] at hparts
      obtain ⟨doc, hdoc, hline⟩ := hparts
      exact hdocs ⟨doc, hdoc, Lua.Comment.hasReturn_of_linesText hline⟩

/-- A documentation text with a reference to a carriage return. -/
def returnDocument : String :=
  "<repository><namespace name='Demo'><function name='f'><doc>a&#13;b</doc></function>" ++
    "</namespace></repository>"

/-- Its stub, where a Lua program reads `b` on a line of its own. -/
def returnStub : String :=
  "---@meta Demo\n\n---@class Demo\nlocal Demo = \x7b\x7d\n\n--- # function Demo.f()\n---\n" ++
    "--- a\rb\n---\n--- ---\n---\nfunction Demo.f() end\n\nreturn Demo\n"

theorem return_mem_returnStub : HasReturn returnStub := by
  decide +kernel

theorem generate_returnDocument : generate { target := "Demo" } returnDocument = .ok returnStub :=
  eq_ok_of_toOption (by decide +kernel)

theorem hasReturn_returnStub :
    ¬HasReturn "Demo" ∧ generate { target := "Demo" } returnDocument = .ok returnStub ∧
      HasReturn returnStub ∧ Markup.RefersTo '\r' (Markup.Document.characters returnDocument) := by
  have htarget : ¬HasReturn "Demo" := by decide
  obtain ⟨-, hrefers⟩ := hasReturn_generate { target := "Demo" } returnDocument returnStub htarget
    generate_returnDocument
  exact ⟨htarget, generate_returnDocument, return_mem_returnStub, hrefers return_mem_returnStub⟩

/-- **A carriage return can come into a stub.** -/
theorem not_forall_not_hasReturn_generate :
    ¬∀ (options : Gir.Options) (document stub : String), ¬HasReturn options.target →
      generate options document = .ok stub → ¬HasReturn stub := by
  intro h
  exact h { target := "Demo" } returnDocument returnStub (by decide) generate_returnDocument
    return_mem_returnStub

end GirStubs.Stub
