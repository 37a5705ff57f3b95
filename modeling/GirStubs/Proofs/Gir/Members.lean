import GirStubs.Proofs.Gir.Pruning
import GirStubs.Proofs.Lua.Identifier
import Mathlib.Data.List.Forall2

/-!
# What a compound type lists

A compound type has one function for each child that stands for a visible and named one, and one
field for each child that stands for a visible and named one, all in document order
(`contents_compound?`). What an entry is follows from its child alone: a member takes the name that
it is seen under in a form fit for programs (`MemberOf`), and a field with a callback in it is a
callback, named by that one or else by the field (`FieldOf`). The type can be called when one of
its static functions is seen as `new`; no other name turns into that one when it is made fit for
programs (`exists_member_iff`).
-/

namespace GirStubs.Gir

open Api
open Lua (IsMarked IsSafe safeIdentifier safeIdentifier_eq_iff_of_not_isMarked)
open Markup

/-- The children with a tag that stand for a function. -/
def functionChildren (tag : String) (e : Element) : List Element :=
  (e.childrenTagged tag).filter keepsFunction

/-- The children that stand for a field. -/
def fieldChildren (e : Element) : List Element := (e.childrenTagged "field").filter keepsField

/-- The function is what a child of a compound type describes, under the name that is seen. -/
structure MemberOf (home owner : String) (kind : FunctionKind) (child : Element) (f : Function) :
    Prop where
  read : function? home (some owner) kind child = some f
  named : ∃ name, publicName? child = some name ∧ f.name = safeIdentifier name

/-- The field that a child describes. -/
inductive FieldOf (home : String) (child : Element) : Field → Prop where
  /-- A callback, under its own name or else that of the field. -/
  | callback {inner : Element} {name : String} (holds : child.child? "callback" = some inner)
      (named : (name? inner).or (name? child) = some name) :
      FieldOf home child (.callback
        ⟨name, parameters home inner, (returnValue? home inner).map ReturnValue.type, home⟩)
  | value {name : String} (plain : child.child? "callback" = none)
      (named : name? child = some name) :
      FieldOf home child
        (.value ⟨safeIdentifier name, heldType (some home) child, documentation child⟩)

/-! ## One entry a child -/

/-- What is read from a list goes with the part of the list that gives something. -/
theorem forall₂_filterMap {α β : Type} {read : α → Option β} {kept : α → Bool} {l : List α}
    (h : ∀ a ∈ l, (read a).isSome = kept a) :
    List.Forall₂ (fun a b => read a = some b) (l.filter kept) (l.filterMap read) := by
  induction l with
  | nil => exact .nil
  | cons a l ih =>
    obtain ⟨ha, hl⟩ := List.forall_mem_cons.mp h
    cases hread : read a with
    | none =>
      rw [List.filterMap_cons_none hread, List.filter_cons_of_neg (by simp [← ha, hread])]
      exact ih hl
    | some b =>
      rw [List.filterMap_cons_some hread, List.filter_cons_of_pos (by simp [← ha, hread])]
      exact .cons hread (ih hl)

section Children

variable {home owner : String} {kind : FunctionKind} {e child : Element}

theorem memberOf_of_function? {f : Function} (h : function? home (some owner) kind child = some f) :
    MemberOf home owner kind child f := by
  obtain ⟨-, name, hname, rfl⟩ := of_function? h
  exact ⟨h, name, hname, rfl⟩

theorem forall₂_members (home owner : String) (kind : FunctionKind) (tag : String) (e : Element) :
    List.Forall₂ (MemberOf home owner kind) (functionChildren tag e)
      (members home owner kind tag e) := by
  have hread := forall₂_filterMap (l := e.childrenTagged tag) fun child _ =>
    isSome_function? home (some owner) kind child
  exact hread.imp fun child f => memberOf_of_function?

/-- A member has a name that looks like no marked one just when a child is seen under that name. -/
theorem exists_member_iff (home owner : String) (kind : FunctionKind) (tag : String) (e : Element)
    {name : String} (hsafe : IsSafe name) (hmarked : ¬IsMarked name) :
    (∃ f ∈ members home owner kind tag e, f.name = name) ↔
      ∃ child ∈ functionChildren tag e, publicName? child = some name := by
  constructor
  · rintro ⟨f, hf, rfl⟩
    obtain ⟨child, hchild, hread⟩ := List.mem_filterMap.mp hf
    obtain ⟨name, hname, heq⟩ := (memberOf_of_function? hread).named
    have hkept : keepsFunction child := by
      rw [← isSome_function? home (some owner) kind, hread]
      rfl
    obtain rfl := (safeIdentifier_eq_iff_of_not_isMarked hsafe hmarked).mp heq.symm
    exact ⟨child, List.mem_filter.mpr ⟨hchild, hkept⟩, hname⟩
  · rintro ⟨child, hchild, hname⟩
    obtain ⟨hmem, hkept⟩ := List.mem_filter.mp hchild
    rw [← isSome_function? home (some owner) kind] at hkept
    obtain ⟨f, hread⟩ := Option.isSome_iff_exists.mp hkept
    obtain ⟨other, hother, heq⟩ := (memberOf_of_function? hread).named
    obtain rfl := Option.some.inj (hname.symm.trans hother)
    refine ⟨f, List.mem_filterMap.mpr ⟨child, hmem, hread⟩, heq.trans ?_⟩
    exact (safeIdentifier_eq_iff_of_not_isMarked hsafe hmarked).mpr rfl

/-- The callback in a field reads as before when it is given another name. -/
theorem fieldCallback?_eq (home : String) (field inner : Element) :
    fieldCallback? home field inner =
      ((name? inner).or (name? field)).map fun name =>
        ⟨name, parameters home inner, (returnValue? home inner).map ReturnValue.type, home⟩ := by
  unfold fieldCallback?
  cases hinner : name? inner with
  | some name => simp [callback?, hinner]
  | none =>
    cases hfield : name? field with
    | none => simp [callback?, hinner]
    | some name =>
      have hrenamed := name?_setAttribute inner (name?_ne hfield)
      simp only [callback?, hinner, hrenamed, Option.map_none, Option.none_or, Option.bind_some,
        Option.map_some]
      rfl

theorem fieldOf_of_field? {field : Field} (h : field? home child = some field) :
    FieldOf home child field := by
  rcases of_field? h with ⟨inner, c, hinner, hc, rfl⟩ | ⟨hplain, name, hname, rfl⟩
  · rw [fieldCallback?_eq] at hc
    obtain ⟨name, hname, rfl⟩ := Option.map_eq_some_iff.mp hc
    exact .callback hinner hname
  · exact .value hplain hname

theorem forall₂_fields (home : String) (e : Element) :
    List.Forall₂ (FieldOf home) (fieldChildren e) (fields home e) := by
  let visible := (e.childrenTagged "field").filter fun f => !isHidden f
  have hkept : visible.filter keepsField = fieldChildren e := by
    rw [List.filter_filter]
    exact List.filter_congr fun child _ => by cases h : isHidden child <;> simp [keepsField, h]
  have hread : List.Forall₂ (fun child field => field? home child = some field)
      (visible.filter keepsField) (visible.filterMap (field? home)) := by
    apply forall₂_filterMap
    intro child hchild
    have hvisible := (List.mem_filter.mp hchild).2
    rw [isSome_field?, keepsField, hvisible, Bool.true_and]
  rw [hkept] at hread
  exact hread.imp fun child field => fieldOf_of_field?

end Children

/-- **A compound type lists what its children stand for**: its static functions, then its
constructors, its methods and its fields, one for each child that stands for one, in order. It can
be called just when one of the first two is seen as `new`. -/
theorem contents_compound? (home : String) (kind : CompoundKind) {e : Element} {name : String}
    (h : name? e = some name) :
    ∃ c, compound? home kind e = some c ∧
      List.Forall₂ (MemberOf home name .static)
        (functionChildren "function" e ++ functionChildren "constructor" e) c.functions ∧
      List.Forall₂ (MemberOf home name .method) (functionChildren "method" e) c.methods ∧
      List.Forall₂ (FieldOf home) (fieldChildren e) c.fields ∧
      (c.callable ↔
        ∃ child ∈ functionChildren "function" e ++ functionChildren "constructor" e,
          publicName? child = some "new") := by
  have hsafe : IsSafe "new" := ⟨by decide, by decide⟩
  have hmarked : ¬IsMarked "new" := by
    decide
  refine ⟨_, congrArg (Option.map _) h, ?_, forall₂_members .., forall₂_fields .., ?_⟩
  · exact List.rel_append (forall₂_members ..) (forall₂_members ..)
  · have hnew (tag : String) := exists_member_iff home name .static tag e hsafe hmarked
    simp only [List.mem_append, or_and_right, exists_or, ← hnew]
    simp

/-- The constructor that takes over the name of another one. -/
def fullConstructor : Element where
  tag := "constructor"
  attributes := .ofList [("name", "new_full"), ("shadows", "new")]

/-- A type with hidden, shadowed and nameless children among the others. -/
def crowdedType : Element where
  tag := "class"
  attributes := .ofList [("name", "Box")]
  children := [
    { tag := "field", attributes := .ofList [("name", "")], children := [{ tag := "callback" }] },
    { tag := "method", attributes := .ofList [("name", "end")] },
    fullConstructor,
    { tag := "constructor", attributes := .ofList [("name", "new"), ("shadowed-by", "new_full")] },
    { tag := "function", attributes := .ofList [("name", "new"), ("introspectable", "0")] },
    { tag := "field"
      attributes := .ofList [("name", "map")]
      children := [{ tag := "callback" }] }]

theorem contents_compound?_crowdedType :
    name? crowdedType = some "Box" ∧
      ∃ c, compound? "Gtk" .object crowdedType = some c ∧
        List.Forall₂ (MemberOf "Gtk" "Box" .static) [fullConstructor] c.functions ∧
        c.functions.map Function.name = ["new"] ∧ c.methods.map Function.name = ["end__"] ∧
        c.fields = [.callback ⟨"map", [], none, "Gtk"⟩] ∧ c.callable := by
  have hname : name? crowdedType = some "Box" := by
    decide
  have hlisted : functionChildren "function" crowdedType ++
      functionChildren "constructor" crowdedType = [fullConstructor] := by
    decide
  obtain ⟨c, hc, hfunctions, -, -, hcallable⟩ := contents_compound? "Gtk" .object hname
  rw [hlisted] at hfunctions hcallable
  have hentries : (compound? "Gtk" .object crowdedType).map (fun c =>
      (c.functions.map Function.name, c.methods.map Function.name, c.fields)) =
      some (["new"], ["end__"], [.callback ⟨"map", [], none, "Gtk"⟩]) := by
    decide +kernel
  rw [hc, Option.map_some, Option.some.injEq, Prod.mk.injEq, Prod.mk.injEq] at hentries
  obtain ⟨hnames, hmethods, hfields⟩ := hentries
  exact ⟨hname, c, hc, hfunctions, hnames, hmethods, hfields,
    hcallable.mpr ⟨fullConstructor, List.mem_singleton_self _, by decide⟩⟩

end GirStubs.Gir
