import GirStubs.Proofs.Api.Labels
import GirStubs.Proofs.Lua.Statement

/-!
# Modules made of words

In a worded module every name is a word, and what is put together from names, a type or the path
of a table, is one line. So every label is one line (`Module.Worded.labels`).
-/

namespace GirStubs.Api

open Lua (IsWord oneLine_of_isWord)
open Text

structure Parameter.Worded (p : Parameter) : Prop where
  name : IsWord p.name
  type : OneLine p.type.render

structure Function.Worded (f : Function) : Prop where
  name : IsWord f.name
  parameters : ∀ p ∈ f.parameters, p.Worded
  result : ∀ value ∈ f.result, OneLine value.type.render
  table : ∀ table ∈ f.table, OneLine table

structure Callback.Worded (c : Callback) : Prop where
  name : IsWord c.name
  parameters : ∀ p ∈ c.parameters, p.Worded
  result : ∀ type ∈ c.result, OneLine type.render
  home : OneLine c.home

def Field.Worded : Field → Prop
  | .value f => IsWord f.name ∧ OneLine f.type.render
  | .callback c => c.Worded

structure Compound.Worded (c : Compound) : Prop where
  name : IsWord c.name
  home : OneLine c.home
  fields : ∀ field ∈ c.fields, field.Worded
  methods : ∀ f ∈ c.methods, f.Worded
  functions : ∀ f ∈ c.functions, f.Worded
  parents : ∀ type ∈ c.parents, OneLine type.render

def Declaration.Worded : Declaration → Prop
  | .typeAlias a => IsWord a.name ∧ OneLine a.target.render ∧ OneLine a.home
  | .enumeration e => IsWord e.name ∧ OneLine e.home
  | .callback c => c.Worded
  | .function f => f.Worded
  | .compound c => c.Worded

structure Module.Worded (m : Module) : Prop where
  name : OneLine m.name
  declarations : ∀ d ∈ m.declarations, d.Worded

/-! ## Labels -/

theorem oneLine_labels_parameters {parameters : List Parameter}
    (h : ∀ p ∈ parameters, p.Worded) :
    ∀ label ∈ parameters.flatMap Parameter.labels, OneLine label := by
  rw [List.forall_mem_flatMap]
  intro p hp
  have hword := h p hp
  exact List.forall_mem_cons.mpr
    ⟨oneLine_of_isWord hword.name, List.forall_mem_singleton.mpr hword.type⟩

theorem Function.Worded.labels {f : Function} (h : f.Worded) :
    ∀ label ∈ f.labels, OneLine label := by
  simp only [Function.labels, List.forall_mem_append, List.forall_mem_cons, List.forall_mem_map,
    Option.mem_toList]
  exact ⟨⟨⟨oneLine_of_isWord h.name, h.table⟩, oneLine_labels_parameters h.parameters⟩, h.result⟩

theorem Callback.Worded.labels {c : Callback} (h : c.Worded) :
    ∀ label ∈ c.labels, OneLine label := by
  simp only [Callback.labels, List.forall_mem_append, List.forall_mem_cons, List.forall_mem_map,
    Option.mem_toList]
  exact ⟨⟨oneLine_of_isWord h.name, h.home, oneLine_labels_parameters h.parameters⟩, h.result⟩

theorem Field.Worded.labels {field : Field} (h : field.Worded) :
    ∀ label ∈ field.labels, OneLine label := by
  cases field with
  | value f =>
    exact List.forall_mem_cons.mpr ⟨oneLine_of_isWord h.1, List.forall_mem_singleton.mpr h.2⟩
  | callback c => exact Callback.Worded.labels h

theorem Compound.Worded.labels {c : Compound} (h : c.Worded) :
    ∀ label ∈ c.labels, OneLine label := by
  simp only [Compound.labels, List.forall_mem_append, List.forall_mem_cons, List.forall_mem_map,
    List.forall_mem_flatMap]
  exact ⟨⟨⟨oneLine_of_isWord h.name, h.home, fun field hfield => (h.fields field hfield).labels⟩,
    fun f hf => (h.methods f hf).labels, fun f hf => (h.functions f hf).labels⟩, h.parents⟩

theorem Declaration.Worded.labels {d : Declaration} (h : d.Worded) :
    ∀ label ∈ d.labels, OneLine label := by
  cases d with
  | typeAlias a =>
    exact List.forall_mem_cons.mpr ⟨oneLine_of_isWord h.1,
      List.forall_mem_cons.mpr ⟨h.2.1, List.forall_mem_singleton.mpr h.2.2⟩⟩
  | enumeration e =>
    exact List.forall_mem_cons.mpr ⟨oneLine_of_isWord h.1, List.forall_mem_singleton.mpr h.2⟩
  | callback c => exact Callback.Worded.labels h
  | function f => exact Function.Worded.labels h
  | compound c => exact Compound.Worded.labels h

/-- The labels of a worded module are one line each. -/
theorem Module.Worded.labels {m : Module} (h : m.Worded) : ∀ label ∈ m.labels, OneLine label := by
  rw [Module.labels, List.forall_mem_cons, List.forall_mem_flatMap]
  exact ⟨h.name, fun d hd => (h.declarations d hd).labels⟩

end GirStubs.Api
