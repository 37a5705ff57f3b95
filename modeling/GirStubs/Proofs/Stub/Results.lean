import GirStubs.Proofs.Gir.TypeTerm
import GirStubs.Proofs.Gir.Void
import GirStubs.Proofs.Stub.Annotations

/-!
# Values in stubs

Whether a function or a callback has a value shows in its stub (`result_eq_none_iff`). The
annotation of a value stands in front of the definition of a function, and no other entry looks like
one, whatever the documentation holds (`not_isReturnEntry_leadingEntries`). The type of a value
stands behind the parameters of a callback.
-/

namespace GirStubs.Stub

open Api Gir
open Markup (Element)

/-! ## Annotations of values -/

/-- What the annotation of a value starts with. -/
def returnMark : List Char := "---@return".toList

def IsReturnEntry (entry : String) : Prop := returnMark <+: entry.toList

instance (entry : String) : Decidable (IsReturnEntry entry) :=
  inferInstanceAs (Decidable (_ <+: _))

theorem IsReturnEntry.isAnnotationEntry {entry : String} (h : IsReturnEntry entry) :
    IsAnnotationEntry entry :=
  List.IsPrefix.trans (by decide) h

/-- The entries of a function in front of the annotation of its value. -/
def leadingEntries (f : Function) : List String :=
  ["--- # " ++ kindWord f.kind ++ " " ++ qualifier f ++ f.name ++ "()", "---"] ++
    documentation f.doc ++ f.parameters.map parameter

theorem leadingEntries_eq (f : Function) :
    leadingEntries f = headingEntries f ++ f.parameters.map parameter := rfl

theorem not_isReturnEntry_leadingEntries (f : Function) :
    ∀ entry ∈ leadingEntries f, ¬IsReturnEntry entry := by
  rw [leadingEntries_eq, List.forall_mem_append, List.forall_mem_map]
  refine ⟨fun entry hentry hreturn => ?_, fun p _ => ?_⟩
  · exact not_isAnnotationEntry_headingEntries f entry hentry hreturn.isAnnotationEntry
  · exact not_prefix_of_lead (prefix_parameter p) (by decide)

theorem not_isReturnEntry_definition (f : Function) : ¬IsReturnEntry (definition f) :=
  fun hreturn => not_isAnnotationEntry_definition f hreturn.isAnnotationEntry

theorem isReturnEntry_returnValue (r : ReturnValue) : IsReturnEntry (returnValue r) :=
  List.IsPrefix.trans (by decide) (prefix_returnValue r)

theorem function_eq_leading (f : Function) :
    function f =
      unlines (leadingEntries f ++ ((f.result.map returnValue).toList ++ [definition f])) :=
  congrArg unlines (List.append_assoc ..)

/-- **Void is told exactly.** A function or a callback has no value when its element describes none
or describes it as void, and otherwise it has the value that the element describes. The stub
annotates a value in front of the definition of a function and nowhere else, and writes its type
behind the parameters of a callback, just when there is a value. -/
theorem result_eq_none_iff (home : String) (e : Element) :
    (∀ owner kind f, function? home owner kind e = some f →
      (f.result = none ↔ GivesNothing e) ∧
      ∃ front : List String, (∀ entry ∈ front ++ [definition f], ¬IsReturnEntry entry) ∧
        (GivesNothing e → function f = unlines (front ++ [definition f])) ∧
        ∀ value ∈ e.child? "return-value", ¬IsVoid value →
          let result : ReturnValue := ⟨heldType (some home) value, Gir.documentation value⟩
          f.result = some result ∧
            function f = unlines (front ++ [returnValue result, definition f]) ∧
            IsReturnEntry (returnValue result)) ∧
    ∀ c, callback? home e = some c →
      (c.result = none ↔ GivesNothing e) ∧
      (GivesNothing e → signature c = "fun(" ++ commas (c.parameters.map typedName) ++ ")") ∧
      ∀ value ∈ e.child? "return-value", ¬IsVoid value →
        c.result = some (heldType (some home) value) ∧
          signature c = "fun(" ++ commas (c.parameters.map typedName) ++ ")" ++
            (": " ++ (heldType (some home) value).render) := by
  constructor
  · intro owner kind f hf
    have hresult : f.result = returnValue? home e := result_of_function? hf
    refine ⟨hresult ▸ returnValue?_eq_none_iff, leadingEntries f, ?_, ?_, ?_⟩
    · exact List.forall_mem_append.mpr ⟨not_isReturnEntry_leadingEntries f,
        List.forall_mem_singleton.mpr (not_isReturnEntry_definition f)⟩
    · intro hnothing
      rw [function_eq_leading, hresult, returnValue?_eq_none_iff.mpr hnothing]
      rfl
    · intro value hvalue hvoid
      have hsome := hresult.trans (returnValue?_eq_some hvalue hvoid)
      refine ⟨hsome, ?_, isReturnEntry_returnValue _⟩
      rw [function_eq_leading, hsome]
      rfl
  · intro c hc
    have hresult : c.result = (returnValue? home e).map ReturnValue.type := result_of_callback? hc
    refine ⟨?_, ?_, ?_⟩
    · rw [hresult, Option.map_eq_none_iff]
      exact returnValue?_eq_none_iff
    · intro hnothing
      have hnone : c.result = none := by
        rw [hresult, returnValue?_eq_none_iff.mpr hnothing]
        rfl
      rw [signature, hnone]
      simp
    · intro value hvalue hvoid
      have hsome : c.result = some (heldType (some home) value) := by
        rw [hresult, returnValue?_eq_some hvalue hvoid]
        rfl
      refine ⟨hsome, ?_⟩
      rw [signature, hsome]

open TypeTerm (typeElement)

/-- An element whose value has types. -/
def visiting (types : List Element) : Element where
  tag := "function"
  attributes := .ofList [("name", "visit")]
  children := [{ tag := "return-value", children := types }]

/-- An array of nothing is something. -/
def arrayOfNothing : Element := { tag := "array", children := [typeElement "none" []] }

theorem result_eq_none_iff_visiting :
    (∃ f, function? "Gtk" (some "Iter") .method (visiting [typeElement "None" []]) = some f ∧
      GivesNothing (visiting [typeElement "None" []]) ∧ f.result = none) ∧
    ∃ c, callback? "Gtk" (visiting [typeElement "none" [], arrayOfNothing]) = some c ∧
      ¬GivesNothing (visiting [typeElement "none" [], arrayOfNothing]) ∧
      c.result = some (.array .nil) ∧ signature c = "fun(): nil[]" := by
  have hf : function? "Gtk" (some "Iter") .method (visiting [typeElement "None" []]) =
      some ⟨"visit", "", [], none, some "Gtk.Iter", .method⟩ := by
    decide
  have hc : callback? "Gtk" (visiting [typeElement "none" [], arrayOfNothing]) =
      some ⟨"visit", [], some (.array .nil), "Gtk"⟩ := by
    decide
  have hnothing : GivesNothing (visiting [typeElement "None" []]) := by
    decide
  have hsomething : ¬GivesNothing (visiting [typeElement "none" [], arrayOfNothing]) := by
    decide
  obtain ⟨hvoid, -⟩ := (result_eq_none_iff "Gtk" (visiting [typeElement "None" []])).1 _ _ _ hf
  obtain ⟨-, -, hvalue⟩ :=
    (result_eq_none_iff "Gtk" (visiting [typeElement "none" [], arrayOfNothing])).2 _ hc
  obtain ⟨hresult, hsignature⟩ := hvalue _ rfl (by decide)
  exact ⟨⟨_, hf, hnothing, hvoid.mpr hnothing⟩, _, hc, hsomething, hresult, hsignature⟩

end GirStubs.Stub
