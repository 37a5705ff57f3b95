import GirStubs.Proofs.Gir.Inversion
import GirStubs.Proofs.Lua.Identifier
import GirStubs.Stub.Render

/-!
# Headings and definitions

The text of a function opens with a heading and ends in a definition, and each of them has a name
for the function: the heading has the name as it is, the definition makes it safe. So the two agree
just when the name is safe already (`called_eq_iff`). The names of members are made safe when they
are read, and a safe name is left alone, so a member has one name (`function_member`).
-/

namespace GirStubs.Stub

open Api Gir
open Lua (IsSafe MarkedAs safeIdentifier)
open Markup (Element)

/-- The heading of a function that is called so. -/
def heading (kind : FunctionKind) (called : String) : String :=
  "--- # " ++ kindWord kind ++ " " ++ called ++ "()"

/-- The empty definition of a function that is called so. -/
def emptyDefinition (called : String) (arguments : List String) : String :=
  "function " ++ called ++ "(" ++ commas arguments ++ ") end"

theorem heading_eq (f : Function) :
    heading f.kind (qualifier f ++ f.name) =
      "--- # " ++ kindWord f.kind ++ " " ++ qualifier f ++ f.name ++ "()" :=
  congrArg (· ++ "()") String.append_assoc.symm

theorem definition_eq_emptyDefinition (f : Function) :
    definition f =
      emptyDefinition (qualifier f ++ safeIdentifier f.name) (f.arguments.map Parameter.name) :=
  congrArg (· ++ "(" ++ commas (f.arguments.map Parameter.name) ++ ") end") String.append_assoc

theorem exists_functionEntries (f : Function) :
    ∃ between, functionEntries f =
      heading f.kind (qualifier f ++ f.name) ::
        (between ++ [emptyDefinition (qualifier f ++ safeIdentifier f.name)
          (f.arguments.map Parameter.name)]) := by
  refine ⟨"---" :: (documentation f.doc ++ f.parameters.map parameter ++
    (f.result.map returnValue).toList), ?_⟩
  rw [heading_eq, ← definition_eq_emptyDefinition]
  simp only [functionEntries, List.cons_append, List.nil_append, List.append_assoc]

/-- A function has one name in its heading and its definition just when its name is safe. -/
theorem called_eq_iff (f : Function) :
    qualifier f ++ safeIdentifier f.name = qualifier f ++ f.name ↔ IsSafe f.name := by
  rw [String.append_right_inj, Lua.safeIdentifier_eq_self_iff]

/-- **A member has one name**, behind its table: the safe form of the name that is seen. -/
theorem function_member {home owner : String} {kind : FunctionKind} {e : Element} {f : Function}
    (h : function? home (some owner) kind e = some f) :
    ∃ name between, publicName? e = some name ∧
      function f = unlines
        (heading kind (home ++ "." ++ owner ++ separator kind ++ safeIdentifier name) ::
          (between ++ [emptyDefinition
            (home ++ "." ++ owner ++ separator kind ++ safeIdentifier name)
            (f.arguments.map Parameter.name)])) := by
  obtain ⟨between, hentries⟩ := exists_functionEntries f
  obtain ⟨-, name, hname, hf⟩ := of_function? h
  have hsafe : f.name = safeIdentifier name := hf ▸ rfl
  have hkind : f.kind = kind := hf ▸ rfl
  have hqualifier : qualifier f = home ++ "." ++ owner ++ separator kind := hf ▸ rfl
  rw [(called_eq_iff f).mpr (hsafe ▸ Lua.isSafe_safeIdentifier name), hsafe, hkind,
    hqualifier] at hentries
  exact ⟨name, between, hname, congrArg unlines hentries⟩

/-- **Safe names**: they are no keywords and start with no digit, they are left alone, and two names
have the same safe form just when one is the other with its mark. So the heading of a member and its
definition agree. -/
theorem safe_names :
    (∀ name, IsSafe (safeIdentifier name) ∧
      safeIdentifier (safeIdentifier name) = safeIdentifier name) ∧
    (∀ name other, name ≠ other →
      (safeIdentifier name = safeIdentifier other ↔ MarkedAs name other ∨ MarkedAs other name)) ∧
    ∀ home owner kind e f, function? home (some owner) kind e = some f →
      ∃ name between, publicName? e = some name ∧
        function f = unlines
          (heading kind (home ++ "." ++ owner ++ separator kind ++ safeIdentifier name) ::
            (between ++ [emptyDefinition
              (home ++ "." ++ owner ++ separator kind ++ safeIdentifier name)
              (f.arguments.map Parameter.name)])) :=
  ⟨fun name => ⟨Lua.isSafe_safeIdentifier name, Lua.safeIdentifier_idem name⟩,
    fun _ _ hne => Lua.safeIdentifier_eq_safeIdentifier_iff hne,
    fun _ _ _ _ _ h => function_member h⟩

/-- A method with a keyword for a name. -/
def endMethod : Element where
  tag := "method"
  attributes := .ofList [("name", "end")]

theorem safe_names_endMethod :
    safeIdentifier "end" = safeIdentifier "end__" ∧
      ∃ f between, function? "X" (some "R") .method endMethod = some f ∧
        function f =
          unlines ("--- # method X.R:end__()" :: (between ++ ["function X.R:end__() end"])) := by
  obtain ⟨-, halike, hmember⟩ := safe_names
  obtain ⟨f, hf⟩ := Option.isSome_iff_exists.mp
    (show (function? "X" (some "R") .method endMethod).isSome by decide)
  refine ⟨(halike "end" "end__" (by decide)).mpr (Or.inl (Or.inl ⟨by decide, by decide⟩)), f, ?_⟩
  obtain ⟨name, between, hname, htext⟩ := hmember "X" "R" .method endMethod f hf
  have harguments : (function? "X" (some "R") .method endMethod).map
      (fun f => f.arguments.map Parameter.name) = some [] := by
    decide +kernel
  rw [hf, Option.map_some, Option.some.injEq] at harguments
  obtain rfl : name = "end" := Option.some.inj (hname.symm.trans (by decide +kernel))
  refine ⟨between, hf, htext.trans ?_⟩
  rw [harguments]
  rfl

end GirStubs.Stub
