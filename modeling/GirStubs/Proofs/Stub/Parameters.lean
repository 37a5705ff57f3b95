import GirStubs.Proofs.Gir.Parameters
import GirStubs.Proofs.Stub.Annotations

/-!
# Parameters in stubs

The text of a function has one annotation for each parameter, in order, in front of the annotation
of its value and its definition, and no other entry looks like one. The definition lists the names
that are annotated, without that of the receiver (`function_parameters`).
-/

namespace GirStubs.Stub

open Api Gir
open Lua (safeIdentifier)
open Lua.Comment (marker trailingText)
open Markup (Element)

/-- What the annotation of a parameter starts with. -/
def parameterMark : List Char := "---@param".toList

def IsParameterEntry (entry : String) : Prop := parameterMark <+: entry.toList

instance (entry : String) : Decidable (IsParameterEntry entry) :=
  inferInstanceAs (Decidable (_ <+: _))

theorem IsParameterEntry.isAnnotationEntry {entry : String} (h : IsParameterEntry entry) :
    IsAnnotationEntry entry :=
  List.IsPrefix.trans (by decide) h

theorem isParameterEntry_parameter (p : Parameter) : IsParameterEntry (parameter p) :=
  List.IsPrefix.trans (by decide) (prefix_parameter p)

/-- The entry says the name and the type of a parameter, whether it may be nil, and its
documentation as a note on the same line, which a marker opens if there is one. -/
def Annotates (p : Parameter) (entry : String) : Prop :=
  entry = "---@param " ++ p.name ++ (if p.nilable then "?" else "") ++ " " ++ p.type.render ++
      trailingText p.doc ∧
    (p.doc = "" → trailingText p.doc = "") ∧ (p.doc ≠ "" → marker <+: (trailingText p.doc).toList)

theorem annotates_parameter (p : Parameter) : Annotates p (parameter p) := by
  refine ⟨rfl, fun hdoc => ?_, fun hdoc => ?_⟩
  · rw [hdoc]
    rfl
  · rw [trailingText, String.toList_ofList, Lua.Comment.trailing,
      if_neg fun h => hdoc (String.toList_eq_nil_iff.mp h)]
    exact List.prefix_append _ _

/-- The parameters leave the entries no choice. -/
theorem eq_map_of_annotates {parameters : List Parameter} {entries : List String}
    (h : List.Forall₂ Annotates parameters entries) : entries = parameters.map parameter := by
  induction h with
  | nil => rfl
  | cons hentry _ ih => exact congrArg₂ List.cons hentry.1 ih

theorem function_eq_heading (f : Function) :
    function f = unlines (headingEntries f ++ f.parameters.map parameter ++
      (f.result.map returnValue).toList ++ [definition f]) := rfl

/-- The entries around the annotations of the parameters are none themselves. -/
theorem not_isParameterEntry_around (f : Function) :
    ∀ entry ∈ headingEntries f ++ (f.result.map returnValue).toList ++ [definition f],
      ¬IsParameterEntry entry := by
  rw [List.forall_mem_append, List.forall_mem_append, List.forall_mem_singleton]
  refine ⟨⟨fun entry hentry hmark => ?_, fun entry hentry => ?_⟩, fun hmark => ?_⟩
  · exact not_isAnnotationEntry_headingEntries f entry hentry hmark.isAnnotationEntry
  · obtain ⟨r, -, rfl⟩ := Option.map_eq_some_iff.mp (Option.mem_toList.mp hentry)
    exact not_prefix_of_lead (prefix_returnValue r) (by decide)
  · exact not_isAnnotationEntry_definition f hmark.isAnnotationEntry

/-- **Annotations and arguments agree.** A function has one parameter for each child that stands for
one, as that child describes it. Its text ends with their annotations, that of the value and the
definition, which lists the names that are annotated, without the receiver. -/
theorem function_parameters {home : String} {owner : Option String} {kind : FunctionKind}
    {e : Element} {f : Function} (h : function? home owner kind e = some f) :
    f.parameters.map Parameter.name = parameterNames kind (parameterChildren e) ∧
      List.Forall₂ (ParameterOf home) (parameterChildren e) f.parameters ∧
      ∃ front annotations : List String,
        function f = unlines (front ++ annotations ++ (f.result.map returnValue).toList ++
          [definition f]) ∧
        List.Forall₂ Annotates f.parameters annotations ∧
        (∀ entry ∈ annotations, IsParameterEntry entry) ∧
        (∀ entry ∈ front ++ (f.result.map returnValue).toList ++ [definition f],
          ¬IsParameterEntry entry) ∧
        definition f = "function " ++ qualifier f ++ safeIdentifier f.name ++ "(" ++
          ", ".intercalate (argumentNames kind (parameterNames kind (parameterChildren e))) ++
          ") end" := by
  refine ⟨names_parameters h, forall₂_parameters h, headingEntries f, f.parameters.map parameter,
    function_eq_heading f, ?_, ?_, not_isParameterEntry_around f, ?_⟩
  · rw [List.forall₂_map_right_iff]
    exact List.forall₂_same.mpr fun p _ => annotates_parameter p
  · exact List.forall_mem_map.mpr fun p _ => isParameterEntry_parameter p
  · rw [definition, names_arguments h]
    rfl

/-- A method whose instance has no name, with a keyword for a name, another child in the list, and a
second list that is not read. -/
def crowdedMethod : Element where
  tag := "method"
  attributes := .ofList [("name", "pack")]
  children := [
    { tag := "parameters"
      children := [
        { tag := "instance-parameter", attributes := .ofList [("nullable", "1")] },
        { tag := "doc", text := "Packs." },
        { tag := "parameter"
          attributes := .ofList [("name", "end"), ("allow-none", "1")]
          children := [{ tag := "doc", text := "the end" }] },
        { tag := "parameter" }] },
    { tag := "parameters", children := [{ tag := "parameter" }] }]

theorem function_parameters_crowdedMethod :
    ∃ f, function? "Gtk" (some "Box") .method crowdedMethod = some f ∧
      f.parameters.map Parameter.name = ["self", "end__", "_"] ∧
      definition f = "function Gtk.Box:pack(end__, _) end" ∧
      ∃ front : List String, function f = unlines (front ++
        ["---@param self? unknown", "---@param end__? unknown # the end", "---@param _ unknown"] ++
          [definition f]) := by
  obtain ⟨f, hf⟩ := Option.isSome_iff_exists.mp
    (show (function? "Gtk" (some "Box") .method crowdedMethod).isSome by decide)
  have hresult : (function? "Gtk" (some "Box") .method crowdedMethod).map
      (fun f => (f.result, qualifier f, safeIdentifier f.name, f.parameters.map parameter)) =
      some (none, "Gtk.Box:", "pack",
        ["---@param self? unknown", "---@param end__? unknown # the end",
          "---@param _ unknown"]) := by
    decide +kernel
  rw [hf, Option.map_some, Option.some.injEq, Prod.mk.injEq, Prod.mk.injEq, Prod.mk.injEq]
    at hresult
  obtain ⟨hnothing, hqualifier, hname, hentries⟩ := hresult
  have hnames : parameterNames .method (parameterChildren crowdedMethod) =
      ["self", "end__", "_"] := by
    decide +kernel
  obtain ⟨hparameters, -, front, annotations, htext, hannotations, -, -, hdefinition⟩ :=
    function_parameters hf
  rw [hnames] at hparameters hdefinition
  rw [hnothing, eq_map_of_annotates hannotations, hentries] at htext
  refine ⟨f, hf, hparameters, ?_, front, by simpa using htext⟩
  rw [hdefinition, hqualifier, hname]
  decide +kernel

end GirStubs.Stub
