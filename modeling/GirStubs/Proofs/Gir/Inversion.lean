import GirStubs.Gir.Compound

/-!
# What a result tells of its element

A function comes from an element that is not skipped, and is all that the element says under the
name that is seen (`of_function?`). A field holds a callback, which is named by itself or by the
field, or else a value (`of_field?`, `of_fieldCallback?`).
-/

namespace GirStubs.Gir

open Api
open Lua (safeIdentifier)
open Markup

variable {home : String} {e : Element}

theorem of_function? {owner : Option String} {kind : FunctionKind} {f : Function} :
    function? home owner kind e = some f →
    isSkipped e = false ∧ ∃ name, publicName? e = some name ∧ f =
      { name := if owner.isSome then safeIdentifier name else name
        doc := documentation e
        parameters :=
          match kind with
          | .static => parameters home e
          | .method => withReceiver (parameters home e)
        result := returnValue? home e
        table := some (match owner with | some owner => home ++ "." ++ owner | none => home)
        kind } := by
  intro h
  unfold function? at h
  split at h
  · cases h
  · next hskipped =>
    obtain ⟨name, hname, rfl⟩ := Option.map_eq_some_iff.mp h
    exact ⟨by simpa using hskipped, name, hname, rfl⟩

theorem of_fieldCallback? {inner : Element} {c : Callback}
    (h : fieldCallback? home e inner = some c) :
    callback? home inner = some c ∨
      ∃ name, name? e = some name ∧ callback? home (inner.setAttribute "name" name) = some c := by
  rcases Option.or_eq_some_iff.mp h with hown | ⟨-, hnamed⟩
  · exact Or.inl hown
  · exact Or.inr (Option.bind_eq_some_iff.mp hnamed)

theorem of_field? {field : Field} (h : field? home e = some field) :
    (∃ inner c, e.child? "callback" = some inner ∧ fieldCallback? home e inner = some c ∧
      field = .callback c) ∨
    e.child? "callback" = none ∧ ∃ name, name? e = some name ∧
      field = .value ⟨safeIdentifier name, heldType (some home) e, documentation e⟩ := by
  unfold field? at h
  split at h
  · next inner hinner =>
    obtain ⟨c, hc, rfl⟩ := Option.map_eq_some_iff.mp h
    exact Or.inl ⟨inner, c, hinner, hc, rfl⟩
  · next hplain =>
    obtain ⟨name, hname, rfl⟩ := Option.map_eq_some_iff.mp h
    exact Or.inr ⟨hplain, name, hname, rfl⟩

end GirStubs.Gir
