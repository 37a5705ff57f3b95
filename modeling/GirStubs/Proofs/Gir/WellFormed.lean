import GirStubs.Gir.Document
import GirStubs.Proofs.Api.WellFormed
import GirStubs.Proofs.Gir.Inversion
import GirStubs.Proofs.Outcome

/-!
# Modules are well formed

Whatever a document says, the module that is read from it is well formed. Each reader of the
document is shown to give a well-formed part: a type that is held has a text
(`render_heldType_ne`), a value of type nil is none (`isValueType_of_returnValue?`), an empty
name is none (`name?_ne`), and the namespace is handed down from `moduleOf`
(`wellFormed_moduleOf`, `wellFormed_readModule`).
-/

namespace GirStubs.Gir

open Api
open Lua (TypeExpr IsSafe isSafe_safeIdentifier safeIdentifier_ne)
open Markup

/-! ## Types -/

theorem render_named_ne (text : String) : (TypeExpr.named text).render ≠ "" := by
  unfold TypeExpr.named
  split
  · decide
  · next h => exact h

theorem render_array_ne (element : TypeExpr) : element.array.render ≠ "" :=
  fun h => absurd (String.append_eq_empty_iff.mp h).2 (by decide)

theorem render_table_ne (key value : TypeExpr) : (TypeExpr.table key value).render ≠ "" :=
  fun h => absurd (String.append_eq_empty_iff.mp h).2 (by decide)

/-- Only the name nil is written like nil. -/
theorem eq_nil_of_render {type : TypeExpr} (h : type.render = "nil") : type = .nil := by
  cases type with
  | name text => exact congrArg TypeExpr.name h
  | array element =>
    have hlast := congrArg (fun text => text.toList.getLast?) h
    simp [TypeExpr.render] at hlast
  | table key value =>
    have hfirst := congrArg (fun text => text.toList.head?) h
    simp [TypeExpr.render] at hfirst

theorem render_typeAround_ne (home : Option String) (name : String) (content : List TypeExpr) :
    (typeAround home name content).render ≠ "" := by
  unfold typeAround
  split
  · exact render_array_ne _
  · exact render_table_ne _ _
  · unfold typeNamed
    split <;> exact render_named_ne _

theorem render_writtenType_ne (home : Option String) (e : Element) :
    (writtenType home e).render ≠ "" := by
  rw [writtenType_eq]
  have hunknown : TypeExpr.unknown.render ≠ "" := by
    decide
  split
  · exact hunknown
  · exact render_typeAround_ne _ _ _

/-- A type that is held has a text. -/
theorem render_heldType_ne (home : Option String) (e : Element) :
    (heldType home e).render ≠ "" := by
  rw [heldType_eq]
  split
  · exact render_array_ne _
  · cases e.child? "type" with
    | none => exact (by decide : TypeExpr.unknown.render ≠ "")
    | some type => exact render_writtenType_ne home type

/-! ## Names -/

theorem nonEmpty?_ne {e : Element} {key value : String} (h : e.nonEmpty? key = some value) :
    value ≠ "" := by
  have hvalue := (Option.filter_eq_some_iff.mp h).2
  exact of_decide_eq_true hvalue

theorem name?_ne {e : Element} {name : String} (h : name? e = some name) : name ≠ "" :=
  nonEmpty?_ne h

theorem publicName?_ne {e : Element} {name : String} (h : publicName? e = some name) :
    name ≠ "" := by
  rcases Option.or_eq_some_iff.mp h with h | ⟨_, h⟩
  · exact nonEmpty?_ne h
  · exact name?_ne h

/-! ## Functions and callbacks -/

theorem wellFormed_parameter (home : String) (e : Element) : (parameter home e).WellFormed :=
  ⟨isSafe_safeIdentifier _, render_heldType_ne _ e⟩

theorem wellFormed_parameters (home : String) (e : Element) :
    ∀ p ∈ parameters home e, p.WellFormed := by
  unfold parameters
  split
  · exact List.forall_mem_nil _
  · rw [List.forall_mem_map]
    exact fun child _ => wellFormed_parameter home child

/-- The receiver is renamed to a name that is safe. -/
theorem wellFormed_withReceiver {list : List Parameter} (h : ∀ p ∈ list, p.WellFormed) :
    ∀ p ∈ withReceiver list, p.WellFormed := by
  cases list with
  | nil => exact h
  | cons first rest =>
    have hreceiver : IsSafe receiverName := ⟨by decide, by decide⟩
    rw [List.forall_mem_cons] at h
    exact List.forall_mem_cons.mpr ⟨⟨hreceiver, h.1.type_ne⟩, h.2⟩

theorem name_of_head?_withReceiver {list : List Parameter} {p : Parameter}
    (h : (withReceiver list).head? = some p) : p.name = receiverName := by
  cases list with
  | nil => cases h
  | cons first rest =>
    cases h
    rfl

theorem isValueType_of_returnValue? {home : String} {e : Element} {value : ReturnValue}
    (h : returnValue? home e = some value) : IsValueType value.type := by
  unfold returnValue? at h
  split at h
  · cases h
  · next child _ =>
    dsimp only at h
    split at h
    · cases h
    · next hnil =>
      cases h
      exact ⟨render_heldType_ne _ child, fun hrender => hnil (eq_nil_of_render hrender)⟩

/-- The table of a function: the one of its owner, or the namespace itself. -/
def tableOf (home : String) (owner : Option String) : String :=
  match owner with
  | some owner => home ++ "." ++ owner
  | none => home

theorem wellFormed_function? {home : String} {owner : Option String} {kind : FunctionKind}
    {e : Element} {f : Function} (h : function? home owner kind e = some f) :
    f.WellFormed (tableOf home owner) kind ∧ (owner.isSome → IsSafe f.name) := by
  obtain ⟨-, name, hname, rfl⟩ := of_function? h
  have hne := publicName?_ne hname
  refine ⟨⟨?_, ?_, fun value => isValueType_of_returnValue?, rfl, rfl, ?_⟩, ?_⟩
  · show (if owner.isSome then Lua.safeIdentifier name else name) ≠ ""
    split
    · exact safeIdentifier_ne hne
    · exact hne
  · cases kind with
    | static => exact wellFormed_parameters home e
    | method => exact wellFormed_withReceiver (wellFormed_parameters home e)
  · rintro rfl p hp
    exact name_of_head?_withReceiver hp
  · intro howner
    show IsSafe (if owner.isSome then Lua.safeIdentifier name else name)
    rw [if_pos howner]
    exact isSafe_safeIdentifier name

theorem wellFormed_callback? {home : String} {e : Element} {c : Callback}
    (h : callback? home e = some c) : c.WellFormed home := by
  obtain ⟨name, hname, rfl⟩ := Option.map_eq_some_iff.mp h
  refine ⟨name?_ne hname, wellFormed_parameters home e, fun type htype => ?_, rfl⟩
  obtain ⟨value, hvalue, rfl⟩ := Option.map_eq_some_iff.mp htype
  exact isValueType_of_returnValue? hvalue

/-! ## Compound types -/

theorem wellFormed_fieldCallback? {home : String} {field callback : Element} {c : Callback}
    (h : fieldCallback? home field callback = some c) : c.WellFormed home := by
  rcases of_fieldCallback? h with hown | ⟨name, -, hnamed⟩
  · exact wellFormed_callback? hown
  · exact wellFormed_callback? hnamed

theorem wellFormed_field? {home : String} {e : Element} {field : Field}
    (h : field? home e = some field) : field.WellFormed home := by
  rcases of_field? h with ⟨inner, c, -, hc, rfl⟩ | ⟨-, name, hname, rfl⟩
  · exact wellFormed_fieldCallback? hc
  · exact ⟨safeIdentifier_ne (name?_ne hname), isSafe_safeIdentifier name, render_heldType_ne _ e⟩

theorem wellFormed_fields (home : String) (e : Element) :
    ∀ field ∈ fields home e, field.WellFormed home := by
  intro field hfield
  obtain ⟨child, _, h⟩ := List.mem_filterMap.mp hfield
  exact wellFormed_field? h

theorem wellFormed_members (home owner : String) (kind : FunctionKind) (tag : String)
    (e : Element) :
    ∀ f ∈ members home owner kind tag e,
      f.WellFormed (home ++ "." ++ owner) kind ∧ IsSafe f.name := by
  intro f hf
  obtain ⟨child, _, h⟩ := List.mem_filterMap.mp hf
  obtain ⟨hf, hsafe⟩ := wellFormed_function? h
  exact ⟨hf, hsafe rfl⟩

theorem render_parents_ne (home : String) (e : Element) :
    ∀ type ∈ parents home e, type.render ≠ "" := by
  unfold parents
  rw [List.forall_mem_map]
  exact fun name _ => render_named_ne name

theorem wellFormed_compound? {home : String} {kind : CompoundKind} {e : Element} {c : Compound}
    (h : compound? home kind e = some c) : c.WellFormed home := by
  obtain ⟨name, hname, rfl⟩ := Option.map_eq_some_iff.mp h
  have hmembers := wellFormed_members home name
  exact {
    name_ne := name?_ne hname
    fields := wellFormed_fields home e
    functions := List.forall_mem_append.mpr
      ⟨hmembers .static "function" e, hmembers .static "constructor" e⟩
    methods := hmembers .method "method" e
    parents := render_parents_ne home e
    home_eq := rfl }

/-! ## Declarations and modules -/

theorem wellFormed_declarationOfKind? {options : Options} {home : String} {e : Element}
    {kind : DeclarationKind} {declaration : Declaration}
    (h : declarationOfKind? options home e kind = some declaration) :
    declaration.WellFormed home := by
  cases kind with
  | typeAlias =>
    obtain ⟨a, ha, rfl⟩ := Option.map_eq_some_iff.mp h
    obtain ⟨name, hname, rfl⟩ := Option.map_eq_some_iff.mp ha
    exact ⟨name?_ne hname, render_heldType_ne _ e, rfl⟩
  | enumeration kind =>
    obtain ⟨a, ha, rfl⟩ := Option.map_eq_some_iff.mp h
    obtain ⟨name, hname, rfl⟩ := Option.map_eq_some_iff.mp ha
    exact ⟨name?_ne hname, rfl⟩
  | callback =>
    obtain ⟨c, hc, rfl⟩ := Option.map_eq_some_iff.mp h
    exact wellFormed_callback? hc
  | function =>
    obtain ⟨f, hf, rfl⟩ := Option.map_eq_some_iff.mp h
    exact (wellFormed_function? hf).1
  | compound kind =>
    obtain ⟨c, hc, rfl⟩ := Option.map_eq_some_iff.mp h
    exact wellFormed_compound? hc

theorem wellFormed_moduleOf (options : Options) (e : Element) :
    (moduleOf options e).WellFormed (homeOf options e) := by
  intro declaration hmem
  obtain ⟨child, _, h⟩ := List.mem_filterMap.mp hmem
  unfold declaration? at h
  split at h
  · cases h
  · obtain ⟨kind, _, h⟩ := Option.bind_eq_some_iff.mp h
    exact wellFormed_declarationOfKind? h

/-- A module is made of the first namespace of the tree. -/
theorem readModule_eq_ok_iff {options : Options} {text : String} {m : Module} :
    readModule options text = .ok m ↔
      ∃ root e, readTree text = .ok root ∧ namespaceElement? root = some e ∧
        m = moduleOf options e := by
  refine bind_eq_ok_iff.trans ?_
  constructor
  · rintro ⟨root, hroot, h⟩
    cases he : namespaceElement? root with
    | none =>
      rw [he] at h
      cases h
    | some e =>
      rw [he] at h
      cases h
      exact ⟨root, e, hroot, he, rfl⟩
  · rintro ⟨root, e, hroot, he, rfl⟩
    refine ⟨root, hroot, ?_⟩
    rw [he]
    rfl

/-- **What is read is well formed.** The namespace of every declaration is the one that the
document names first, or else the target. -/
theorem wellFormed_readModule {options : Options} {text : String} {m : Module}
    (h : readModule options text = .ok m) :
    ∃ root e, readTree text = .ok root ∧ namespaceElement? root = some e ∧
      m.WellFormed ((name? e).getD options.target) := by
  obtain ⟨root, e, hroot, he, rfl⟩ := readModule_eq_ok_iff.mp h
  exact ⟨root, e, hroot, he, wellFormed_moduleOf options e⟩

/-- A document with a keyword and a digit among its names, a parameter and a callback without
one, and a namespace without one. -/
def boxDocument : String :=
  "<namespace><record name='B'><field name='f'><callback/></field><method name='end'>" ++
    "<parameters><parameter/><parameter name='2'/></parameters></method></record></namespace>"

def boxModule : Module where
  name := "Demo"
  declarations := [.compound {
    name := "B"
    kind := .record
    fields := [.callback ⟨"f", [], none, "Demo"⟩]
    doc := ""
    callable := false
    functions := []
    methods := [{
      name := "end__"
      doc := ""
      parameters := [⟨receiverName, .unknown, false, ""⟩, ⟨"__2", .unknown, false, ""⟩]
      result := none
      table := some "Demo.B"
      kind := .method }]
    parents := []
    home := "Demo" }]

theorem wellFormed_boxModule :
    readModule { target := "Demo" } boxDocument = .ok boxModule ∧
      ∃ root e, readTree boxDocument = .ok root ∧ namespaceElement? root = some e ∧
        boxModule.WellFormed ((name? e).getD "Demo") := by
  have hread : (readModule { target := "Demo" } boxDocument).toOption = some boxModule := by
    decide +kernel
  have h : readModule { target := "Demo" } boxDocument = .ok boxModule := by
    cases hmodule : readModule { target := "Demo" } boxDocument with
    | error failure =>
      rw [hmodule] at hread
      cases hread
    | ok m =>
      rw [hmodule] at hread
      exact congrArg Except.ok (Option.some.inj hread)
  exact ⟨h, wellFormed_readModule h⟩

end GirStubs.Gir
