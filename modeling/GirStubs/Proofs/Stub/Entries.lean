import GirStubs.Proofs.Api.Labels
import GirStubs.Proofs.Lua.Comment
import GirStubs.Stub.Render

/-!
# The entries of a block

A block is a list of entries: first comments, then at most one definition. Whatever documentation
a declaration has, each of its annotations is one comment line (`IsCommentLine.append`) and each of
its documentation entries consists of comment lines, provided that its labels are one-line texts.
So a function is comments with its definition behind them (`functionEntries_eq`), and so is a
compound type (`compoundEntries_eq`).
-/

namespace GirStubs.Stub

open Api Text
open Lua (safeIdentifier)
open Lua.Comment (CommentLines MarkedLines commentMark linesText trailingText)

/-- Every line of the text is a comment. -/
def IsComment (text : String) : Prop := CommentLines text.toList

/-- The definition of an empty table. -/
def tableDefinition (name : String) : String := name ++ " = \x7b\x7d"

/-- The text is a comment on one line. -/
structure IsCommentLine (text : String) : Prop where
  mark : commentMark <+: text.toList
  oneLine : OneLine text

instance (text : String) : Decidable (IsCommentLine text) :=
  decidable_of_iff (commentMark <+: text.toList ∧ OneLine text)
    ⟨fun h => ⟨h.1, h.2⟩, fun h => ⟨h.mark, h.oneLine⟩⟩

theorem IsCommentLine.isComment {text : String} (h : IsCommentLine text) : IsComment text :=
  ⟨h.mark, .of_not_mem h.oneLine⟩

/-- What stands behind the first word of an annotation belongs to the comment. -/
theorem IsCommentLine.append {text rest : String} (h : IsCommentLine text) (hrest : OneLine rest) :
    IsCommentLine (text ++ rest) where
  mark := by
    rw [String.toList_append]
    exact h.mark.trans (List.prefix_append _ _)
  oneLine := (oneLine_append _ _).mpr ⟨h.oneLine, hrest⟩

theorem isComment_rule : IsComment "---" :=
  IsCommentLine.isComment (by decide)

theorem isComment_documentation (doc : String) : ∀ entry ∈ documentation doc, IsComment entry := by
  unfold documentation
  split
  · exact List.forall_mem_nil _
  · next hdoc =>
    have htext : IsComment (linesText doc) := by
      unfold IsComment
      rw [linesText, String.toList_ofList]
      exact Lua.Comment.commentLines_lines fun h => hdoc (String.toList_eq_nil_iff.mp h)
    have hrule : IsComment "---\n--- ---\n---" := by
      refine ⟨⟨"\n--- ---\n---".toList, rfl⟩, ?_⟩
      simp [MarkedLines, commentMark]
    simpa using ⟨htext, hrule⟩

theorem oneLine_trailingText (doc : String) : OneLine (trailingText doc) := by
  rw [OneLine, trailingText, String.toList_ofList]
  exact Lua.Comment.not_mem_trailing (by decide) (by decide) (by decide) doc.toList

theorem oneLine_safeIdentifier {name : String} (h : OneLine name) :
    OneLine (safeIdentifier name) := by
  unfold safeIdentifier
  split
  · exact (oneLine_append _ _).mpr ⟨h, by decide⟩
  · split
    · exact (oneLine_append _ _).mpr ⟨by decide, h⟩
    · exact h

theorem oneLine_nilMark (nilable : Bool) : OneLine (nilMark nilable) := by
  cases nilable <;> decide

theorem oneLine_tableDefinition {name : String} (h : OneLine name) :
    OneLine (tableDefinition name) :=
  (oneLine_append _ _).mpr ⟨h, by decide⟩

/-! ## Functions -/

section Function

variable {f : Function} (h : ∀ label ∈ f.labels, OneLine label)

include h in
theorem oneLine_parameter {p : Parameter} (hp : p ∈ f.parameters) :
    OneLine p.name ∧ OneLine p.type.render := by
  have hlabels : ∀ label ∈ p.labels, OneLine label := fun label hlabel =>
    h label (by simp only [Function.labels, List.mem_append, List.mem_flatMap]; grind)
  simpa [Parameter.labels] using hlabels

include h in
theorem oneLine_qualifier : OneLine (qualifier f) := by
  unfold qualifier
  cases htable : f.table with
  | none => exact List.not_mem_nil
  | some table =>
    have hline : OneLine table := h table (by simp [Function.labels, htable])
    refine (oneLine_append _ _).mpr ⟨hline, ?_⟩
    cases f.kind <;> decide

theorem mem_parameters_of_mem_arguments {p : Parameter} (hp : p ∈ f.arguments) :
    p ∈ f.parameters := by
  unfold Function.arguments at hp
  split at hp
  · exact hp
  · exact List.mem_of_mem_drop hp

include h in
theorem oneLine_definition : OneLine (definition f) := by
  have hname : OneLine f.name := h f.name (by simp [Function.labels])
  have harguments : ∀ name ∈ f.arguments.map Parameter.name, OneLine name := by
    intro name hmem
    obtain ⟨p, hp, rfl⟩ := List.mem_map.mp hmem
    exact (oneLine_parameter h (mem_parameters_of_mem_arguments hp)).1
  have hcommas : OneLine (commas (f.arguments.map Parameter.name)) :=
    oneLine_intercalate (by decide) harguments
  simp only [definition, oneLine_append]
  exact ⟨⟨⟨⟨⟨by decide, oneLine_qualifier h⟩, oneLine_safeIdentifier hname⟩, by decide⟩, hcommas⟩,
    by decide⟩

/-- The entries of a function in front of its definition. -/
def functionComments (f : Function) : List String :=
  ["--- # " ++ kindWord f.kind ++ " " ++ qualifier f ++ f.name ++ "()", "---"] ++
    documentation f.doc ++ f.parameters.map parameter ++ (f.result.map returnValue).toList

theorem functionEntries_eq (f : Function) :
    functionEntries f = functionComments f ++ [definition f] := rfl

include h in
theorem isComment_parameter {p : Parameter} (hp : p ∈ f.parameters) : IsComment (parameter p) := by
  obtain ⟨hname, htype⟩ := oneLine_parameter h hp
  have hword : IsCommentLine "---@param " := by
    decide
  have hnamed : IsCommentLine ("---@param " ++ p.name ++ nilMark p.nilable) :=
    (hword.append hname).append (oneLine_nilMark p.nilable)
  have htyped : IsCommentLine
      ("---@param " ++ p.name ++ nilMark p.nilable ++ " " ++ p.type.render) :=
    (hnamed.append (by decide)).append htype
  exact (htyped.append (oneLine_trailingText p.doc)).isComment

include h in
theorem isComment_returnValue {r : ReturnValue} (hr : f.result = some r) :
    IsComment (returnValue r) := by
  have htype : OneLine r.type.render := h _ (by simp [Function.labels, hr])
  have hword : IsCommentLine "---@return " := by
    decide
  exact ((hword.append htype).append (oneLine_trailingText r.doc)).isComment

include h in
theorem isComment_functionComments : ∀ entry ∈ functionComments f, IsComment entry := by
  have hname : OneLine f.name := h f.name (by simp [Function.labels])
  have hkind : OneLine (kindWord f.kind) := by cases f.kind <;> decide
  have hmark : IsCommentLine "--- # " := by
    decide
  have hplace : IsCommentLine ("--- # " ++ kindWord f.kind ++ " " ++ qualifier f) :=
    ((hmark.append hkind).append (by decide)).append (oneLine_qualifier h)
  have hhead : IsComment ("--- # " ++ kindWord f.kind ++ " " ++ qualifier f ++ f.name ++ "()") :=
    ((hplace.append hname).append (by decide)).isComment
  simp only [functionComments, List.forall_mem_append, List.forall_mem_cons, List.forall_mem_map]
  refine ⟨⟨⟨⟨hhead, isComment_rule, List.forall_mem_nil _⟩, isComment_documentation f.doc⟩,
    fun p hp => isComment_parameter h hp⟩, ?_⟩
  intro entry hentry
  obtain ⟨r, hr, rfl⟩ := Option.map_eq_some_iff.mp (Option.mem_toList.mp hentry)
  exact isComment_returnValue h hr

end Function

/-! ## Callbacks and fields -/

section Callback

variable {c : Callback} (h : ∀ label ∈ c.labels, OneLine label)

include h in
theorem oneLine_signature : OneLine (signature c) := by
  have hparameters : ∀ text ∈ c.parameters.map typedName, OneLine text := by
    intro text hmem
    obtain ⟨p, hp, rfl⟩ := List.mem_map.mp hmem
    have hlabels : ∀ label ∈ p.labels, OneLine label := fun label hlabel =>
      h label (by
        simp only [Callback.labels, List.mem_append, List.mem_cons, List.mem_flatMap]
        grind)
    simp only [Parameter.labels, List.mem_cons, List.not_mem_nil, or_false, forall_eq_or_imp,
      forall_eq] at hlabels
    simp only [typedName, oneLine_append]
    exact ⟨⟨⟨hlabels.1, oneLine_nilMark _⟩, by decide⟩, hlabels.2⟩
  unfold signature
  simp only [oneLine_append]
  refine ⟨⟨⟨by decide, oneLine_intercalate (by decide) hparameters⟩, by decide⟩, ?_⟩
  cases hresult : c.result with
  | none => exact List.not_mem_nil
  | some type =>
    have htype : OneLine type.render := h _ (by simp [Callback.labels, hresult])
    exact (oneLine_append _ _).mpr ⟨by decide, htype⟩

include h in
theorem isComment_callbackAlias : IsComment (callbackAlias c) := by
  have hname : OneLine c.name := h c.name (by simp [Callback.labels])
  have hhome : OneLine c.home := h c.home (by simp [Callback.labels])
  have hword : IsCommentLine "---@alias " := by
    decide
  have hnamed : IsCommentLine ("---@alias " ++ c.home ++ "." ++ c.name) :=
    ((hword.append hhome).append (by decide)).append hname
  exact ((hnamed.append (by decide)).append (oneLine_signature h)).isComment

include h in
theorem oneLine_callbackField : OneLine (callbackField c) := by
  have hname : OneLine c.name := h c.name (by simp [Callback.labels])
  simp only [callbackField, oneLine_append]
  exact ⟨⟨oneLine_safeIdentifier hname, by decide⟩, oneLine_signature h⟩

end Callback

theorem isComment_field {f : Field} (h : ∀ label ∈ f.labels, OneLine label) :
    IsComment (field f) := by
  have hword : IsCommentLine "---@field " := by
    decide
  cases f with
  | value f =>
    have hname : OneLine f.name := h f.name (by simp [Field.labels])
    have htype : OneLine f.type.render := h f.type.render (by simp [Field.labels])
    have htyped : IsCommentLine ("---@field " ++ f.name ++ " " ++ f.type.render) :=
      ((hword.append hname).append (by decide)).append htype
    exact (htyped.append (oneLine_trailingText f.doc)).isComment
  | callback c => exact (hword.append (oneLine_callbackField h)).isComment

/-! ## Compound types -/

section Compound

variable {c : Compound} (h : ∀ label ∈ c.labels, OneLine label)

include h in
theorem oneLine_fullName : OneLine c.fullName := by
  have hname : OneLine c.name := h c.name (by simp [Compound.labels])
  have hhome : OneLine c.home := h c.home (by simp [Compound.labels])
  simp only [Compound.fullName, oneLine_append]
  exact ⟨⟨hhome, by decide⟩, hname⟩

include h in
theorem oneLine_labels_of_mem_members {f : Function} (hf : f ∈ c.methods ++ c.functions) :
    ∀ label ∈ f.labels, OneLine label := by
  intro label hlabel
  refine h label ?_
  simp only [Compound.labels, List.mem_append, List.mem_flatMap]
  exact Or.inl (Or.inr ⟨f, List.mem_append.mp hf, hlabel⟩)

/-- The entries of a compound type in front of its table. -/
def compoundComments (c : Compound) : List String :=
  ["--- # " ++ c.kind.word ++ " " ++ c.fullName, "---"] ++ documentation c.doc ++
    [classLine c] ++ c.fields.map field ++
    (if c.callable then ["---@operator call: " ++ c.fullName] else [])

theorem compoundEntries_eq (c : Compound) :
    compoundEntries c = compoundComments c ++ [tableDefinition c.fullName] := rfl

include h in
theorem isComment_classLine : IsComment (classLine c) := by
  have hparents : ∀ text ∈ c.parents.map Lua.TypeExpr.render, OneLine text := fun text hmem =>
    h text (by simp only [Compound.labels, List.mem_append]; exact Or.inr hmem)
  have hword : IsCommentLine "---@class " := by
    decide
  refine ((hword.append (oneLine_fullName h)).append ?_).isComment
  split
  · exact List.not_mem_nil
  · exact (oneLine_append _ _).mpr ⟨by decide, oneLine_intercalate (by decide) hparents⟩

include h in
theorem isComment_fields : ∀ entry ∈ c.fields.map field, IsComment entry := by
  rw [List.forall_mem_map]
  intro f hf
  refine isComment_field fun label hlabel => h label ?_
  simp only [Compound.labels, List.mem_append, List.mem_cons, List.mem_flatMap]
  exact Or.inl (Or.inl (Or.inr (Or.inr ⟨f, hf, hlabel⟩)))

include h in
theorem isComment_compoundComments : ∀ entry ∈ compoundComments c, IsComment entry := by
  have hname := oneLine_fullName h
  have hkind : OneLine c.kind.word := by cases c.kind <;> decide
  have hmark : IsCommentLine "--- # " := by
    decide
  have hhead : IsComment ("--- # " ++ c.kind.word ++ " " ++ c.fullName) :=
    (((hmark.append hkind).append (by decide)).append hname).isComment
  have hcallWord : IsCommentLine "---@operator call: " := by
    decide
  have hcall : ∀ entry ∈ if c.callable then ["---@operator call: " ++ c.fullName] else [],
      IsComment entry := by
    split
    · exact List.forall_mem_singleton.mpr (hcallWord.append hname).isComment
    · exact List.forall_mem_nil _
  simp only [compoundComments, List.forall_mem_append, List.forall_mem_cons]
  exact ⟨⟨⟨⟨⟨hhead, isComment_rule, List.forall_mem_nil _⟩, isComment_documentation c.doc⟩,
    isComment_classLine h, List.forall_mem_nil _⟩, isComment_fields h⟩, hcall⟩

end Compound

/-! ## Other declarations -/

theorem isComment_typeAlias {a : Alias}
    (h : ∀ label ∈ (Declaration.typeAlias a).labels, OneLine label) : IsComment (typeAlias a) := by
  simp only [Declaration.labels, List.forall_mem_cons] at h
  have hword : IsCommentLine "---@alias " := by
    decide
  have hnamed : IsCommentLine ("---@alias " ++ a.home ++ "." ++ a.name) :=
    ((hword.append h.2.2.1).append (by decide)).append h.1
  exact ((hnamed.append (by decide)).append h.2.1).isComment

theorem oneLine_enumerationName {e : Enumeration}
    (h : ∀ label ∈ (Declaration.enumeration e).labels, OneLine label) :
    OneLine (e.home ++ "." ++ e.name) := by
  simp only [Declaration.labels, List.forall_mem_cons] at h
  simp only [oneLine_append]
  exact ⟨⟨h.2.1, by decide⟩, h.1⟩

theorem isComment_enumLine {e : Enumeration}
    (h : ∀ label ∈ (Declaration.enumeration e).labels, OneLine label) :
    IsComment ("---@enum " ++ (e.home ++ "." ++ e.name)) := by
  have hword : IsCommentLine "---@enum " := by
    decide
  exact (hword.append (oneLine_enumerationName h)).isComment

/-- The annotations that open a module. -/
theorem isComment_opening {name : String} (h : OneLine name) :
    IsComment ("---@meta " ++ name) ∧ IsComment ("---@class " ++ name) := by
  have hmeta : IsCommentLine "---@meta " := by
    decide
  have hclass : IsCommentLine "---@class " := by
    decide
  exact ⟨(hmeta.append h).isComment, (hclass.append h).isComment⟩

theorem enumeration_eq (e : Enumeration) :
    enumeration e = unlines (["---@enum " ++ (e.home ++ "." ++ e.name)] ++
      [tableDefinition (e.home ++ "." ++ e.name)]) := rfl

end GirStubs.Stub
