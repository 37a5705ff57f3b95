import GirStubs.Proofs.Gir.EmptyNames
import GirStubs.Proofs.Gir.Members
import GirStubs.Proofs.Gir.Parameters

/-!
# Names that are taken as they stand

A parameter takes its name as it stands, and so does a type; every other name that is empty counts
as missing. `TakenNames` lists, for each kind of element, the names that are taken in this way when
it is read: not that of a receiver, and none of what is hidden, skipped or nameless. Each reader
gives the same of an element without empty names just when none of those is empty (`Takes`), and so
does a namespace (`moduleOf_withoutEmptyNames`).
-/

namespace GirStubs.Gir

open Api
open Lua (safeIdentifier)
open Markup

/-! ## Lists of what is read -/

/-- The names are those that a reading takes as they stand: without empty names it gives something
of the same elements, and the same just when none of the names is empty. -/
structure Takes {α : Type} (read : Element → Option α) (names : Element → List String) : Prop where
  isSome : ∀ e, (read (withoutEmptyNames e)).isSome = (read e).isSome
  same : ∀ e, read (withoutEmptyNames e) = read e ↔ "" ∉ names e

section Lists

variable {α β : Type} {names : Element → List String}

theorem map_withoutEmptyNames {read : Element → β}
    (h : ∀ e, read (withoutEmptyNames e) = read e ↔ "" ∉ names e) (l : List Element) :
    (l.map withoutEmptyNames).map read = l.map read ↔ "" ∉ l.flatMap names := by
  rw [List.map_map, List.map_inj_left, List.mem_flatMap, not_exists]
  simp only [not_and]
  exact forall₂_congr fun e _ => h e

theorem Takes.filterMap {read : Element → Option β} (h : Takes read names) (l : List Element) :
    (l.map withoutEmptyNames).filterMap read = l.filterMap read ↔ "" ∉ l.flatMap names := by
  induction l with
  | nil => simp
  | cons e l ih =>
    have hsame := h.same e
    have hsome := h.isSome e
    rw [List.map_cons, List.filterMap_cons, List.filterMap_cons, List.flatMap_cons,
      List.mem_append, not_or, ← ih, ← hsame]
    -- Something is read of both elements or of neither, so the rest stays in step.
    cases hread : read e <;> cases hread' : read (withoutEmptyNames e) <;>
      simp [hread, hread'] at hsome ⊢

/-- The names, where there is one to list the reading under. -/
def listedUnder (name : Option String) (names : List String) : List String :=
  if name.isSome then names else []

theorem map_eq_map_iff_listedUnder {name : Option String} {f g : String → α} {names : List String}
    (h : ∀ text, f text = g text ↔ "" ∉ names) :
    name.map f = name.map g ↔ "" ∉ listedUnder name names := by
  cases name with
  | none => simp [listedUnder]
  | some text => simp [listedUnder, h]

end Lists

/-! ## Functions and callbacks -/

namespace TakenNames

/-- The names that are taken as they stand when a parameter is read. -/
def ofParameter (e : Element) : List String := (e.attribute? "name").toList ++ ofHolder e

/-- Those for the parameters: the first parameter of a method is the receiver, whatever the child
is called. -/
def ofParameters : FunctionKind → List Element → List String
  | .method, first :: rest => ofHolder first ++ rest.flatMap ofParameter
  | _, children => children.flatMap ofParameter

/-- Those for the value of a function-like element. -/
def ofResult (e : Element) : List String := (e.child? "return-value").toList.flatMap ofHolder

/-- Those for the parameters and the value. -/
def ofSignature (kind : FunctionKind) (e : Element) : List String :=
  ofParameters kind (parameterChildren e) ++ ofResult e

/-- Those for a function. -/
def ofFunction (kind : FunctionKind) (e : Element) : List String :=
  if isSkipped e then [] else listedUnder (publicName? e) (ofSignature kind e)

/-- Those for a callback. -/
def ofCallback (e : Element) : List String := listedUnder (name? e) (ofSignature .static e)

end TakenNames

@[simp]
theorem isSkipped_withoutEmptyNames (e : Element) :
    isSkipped (withoutEmptyNames e) = isSkipped e := by
  simp [isSkipped, isShadowed]

@[simp]
theorem publicName?_withoutEmptyNames (e : Element) :
    publicName? (withoutEmptyNames e) = publicName? e := by
  simp [publicName?]

theorem safeIdentifier_empty_ne : safeIdentifier "" ≠ safeIdentifier "_" := by decide

theorem nameInList_withoutEmptyNames (e : Element) :
    nameInList (withoutEmptyNames e) = nameInList e ↔ "" ∉ (e.attribute? "name").toList := by
  rw [nameInList, nameInList, attribute?_of_mem (by decide), Element.nonEmpty?]
  cases e.attribute? "name" with
  | none => simp
  | some name =>
    by_cases hname : name = ""
    · subst hname
      rw [Option.filter_some, if_neg (by simp)]
      simpa using safeIdentifier_empty_ne.symm
    · simp [Option.filter_some, hname, Ne.symm hname]

theorem parameter_withoutEmptyNames_eq (home : String) (e : Element) :
    parameter home (withoutEmptyNames e) =
      { parameter home e with
        name := nameInList (withoutEmptyNames e)
        type := heldType (some home) (withoutEmptyNames e) } := by
  simp [parameter, nameInList, flag_of_not_mem (show "nullable" ∉ nameKeys by decide),
    flag_of_not_mem (show "allow-none" ∉ nameKeys by decide)]

theorem parameter_withoutEmptyNames (home : String) (e : Element) :
    parameter home (withoutEmptyNames e) = parameter home e ↔ "" ∉ TakenNames.ofParameter e := by
  rw [TakenNames.ofParameter, List.mem_append, not_or, ← nameInList_withoutEmptyNames,
    ← heldType_withoutEmptyNames (some home), parameter_withoutEmptyNames_eq]
  simp [parameter, nameInList]

/-- A receiver shows its type, and no name of its own. -/
theorem receiver_withoutEmptyNames (home : String) (e : Element) :
    ({ parameter home (withoutEmptyNames e) with name := receiverName } : Parameter) =
      { parameter home e with name := receiverName } ↔ "" ∉ TakenNames.ofHolder e := by
  rw [← heldType_withoutEmptyNames (some home), parameter_withoutEmptyNames_eq]
  simp [parameter]

theorem parameterChildren_withoutEmptyNames (e : Element) :
    parameterChildren (withoutEmptyNames e) = (parameterChildren e).map withoutEmptyNames := by
  rw [parameterChildren, child?_withoutEmptyNames, parameterChildren]
  cases e.child? "parameters" with
  | none => rfl
  | some list =>
    have hparameter : isParameter ∘ withoutEmptyNames = isParameter :=
      funext fun c => by simp [isParameter]
    simp [List.filter_map, hparameter]

theorem parameters_withoutEmptyNames (home : String) (e : Element) :
    parameters home (withoutEmptyNames e) = parameters home e ↔
      "" ∉ TakenNames.ofParameters .static (parameterChildren e) := by
  rw [parameters_eq, parameters_eq, parameterChildren_withoutEmptyNames]
  exact map_withoutEmptyNames (parameter_withoutEmptyNames home) _

theorem withReceiver_withoutEmptyNames (home : String) (e : Element) :
    withReceiver (parameters home (withoutEmptyNames e)) = withReceiver (parameters home e) ↔
      "" ∉ TakenNames.ofParameters .method (parameterChildren e) := by
  rw [parameters_eq, parameters_eq, parameterChildren_withoutEmptyNames]
  cases parameterChildren e with
  | nil => simp [withReceiver, TakenNames.ofParameters]
  | cons first rest =>
    rw [TakenNames.ofParameters, List.mem_append, not_or, ← receiver_withoutEmptyNames home,
      ← map_withoutEmptyNames (parameter_withoutEmptyNames home), List.map_cons, List.map_cons,
      List.map_cons, withReceiver, withReceiver, List.cons.injEq]

/-- A value tells its type, be it that of nothing. -/
theorem returnValue?_withoutEmptyNames (home : String) (e : Element) :
    (returnValue? home (withoutEmptyNames e) = returnValue? home e ↔
      "" ∉ TakenNames.ofResult e) ∧
    ((returnValue? home (withoutEmptyNames e)).map ReturnValue.type =
        (returnValue? home e).map ReturnValue.type ↔ "" ∉ TakenNames.ofResult e) := by
  rw [returnValue?, child?_withoutEmptyNames, returnValue?, TakenNames.ofResult]
  cases e.child? "return-value" with
  | none => simp
  | some value =>
    have htype := heldType_withoutEmptyNames (some home) value
    simp only [Option.map_some, Option.toList_some, List.flatMap_singleton,
      documentation_withoutEmptyNames, ← htype]
    grind

/-- A callback lists its parameters and the type of its value under some name. -/
theorem callback_withoutEmptyNames (home name : String) (e : Element) :
    (⟨name, parameters home (withoutEmptyNames e),
        (returnValue? home (withoutEmptyNames e)).map ReturnValue.type, home⟩ : Callback) =
      ⟨name, parameters home e, (returnValue? home e).map ReturnValue.type, home⟩ ↔
      "" ∉ TakenNames.ofSignature .static e := by
  rw [TakenNames.ofSignature, List.mem_append, not_or, ← parameters_withoutEmptyNames home,
    ← (returnValue?_withoutEmptyNames home e).2]
  simp

theorem takes_function? (home : String) (owner : Option String) (kind : FunctionKind) :
    Takes (function? home owner kind) (TakenNames.ofFunction kind) where
  isSome e := by
    rw [isSome_function?, isSome_function?]
    simp [keepsFunction, isShadowed]
  same e := by
    unfold function? TakenNames.ofFunction
    rw [isSkipped_withoutEmptyNames, publicName?_withoutEmptyNames]
    cases isSkipped e with
    | true => simp
    | false =>
      refine map_eq_map_iff_listedUnder fun name => ?_
      rw [TakenNames.ofSignature, List.mem_append, not_or,
        ← (returnValue?_withoutEmptyNames home e).1]
      cases kind with
      | static => simp [← parameters_withoutEmptyNames home]
      | method => simp [← withReceiver_withoutEmptyNames home]

theorem takes_callback? (home : String) : Takes (callback? home) TakenNames.ofCallback where
  isSome e := by rw [isSome_callback?, isSome_callback?, name?_withoutEmptyNames]
  same e := by
    rw [callback?, callback?, name?_withoutEmptyNames]
    exact map_eq_map_iff_listedUnder fun name => callback_withoutEmptyNames home name e

/-! ## Declarations -/

namespace TakenNames

/-- The names that are taken as they stand when a field is read. -/
def ofField (e : Element) : List String :=
  match e.child? "callback" with
  | some callback => listedUnder ((name? callback).or (name? e)) (ofSignature .static callback)
  | none => listedUnder (name? e) (ofHolder e)

/-- Those for a compound type. -/
def ofCompound (e : Element) : List String :=
  listedUnder (name? e)
    (((e.childrenTagged "field").filter fun f => !isHidden f).flatMap ofField ++
      ((e.childrenTagged "function" ++ e.childrenTagged "constructor").flatMap
          (ofFunction .static) ++
        (e.childrenTagged "method").flatMap (ofFunction .method)))

/-- Those for a declaration of a kind. -/
def ofKind (e : Element) : DeclarationKind → List String
  | .typeAlias => listedUnder (name? e) (ofHolder e)
  | .enumeration _ => []
  | .callback => ofCallback e
  | .function => ofFunction .static e
  | .compound _ => ofCompound e

/-- Those for a declaration. -/
def ofDeclaration (e : Element) : List String :=
  if isHidden e then [] else (DeclarationKind.ofTag? e.tag).toList.flatMap (ofKind e)

/-- Those for a namespace. -/
def ofNamespace (e : Element) : List String := e.children.flatMap ofDeclaration

end TakenNames

theorem takes_field? (home : String) : Takes (field? home) TakenNames.ofField where
  isSome e := by
    rw [isSome_field?, isSome_field?, child?_withoutEmptyNames]
    cases e.child? "callback" <;> simp
  same e := by
    rw [field?, child?_withoutEmptyNames, field?, TakenNames.ofField]
    cases e.child? "callback" with
    | none =>
      simp only [Option.map_none, name?_withoutEmptyNames, documentation_withoutEmptyNames]
      refine map_eq_map_iff_listedUnder fun name => ?_
      rw [← heldType_withoutEmptyNames (some home)]
      simp
    | some callback =>
      simp only [Option.map_some, fieldCallback?_eq, name?_withoutEmptyNames, Option.map_map]
      refine map_eq_map_iff_listedUnder fun name => ?_
      rw [← callback_withoutEmptyNames home name callback]
      simp

theorem parents_withoutEmptyNames (home : String) (e : Element) :
    parents home (withoutEmptyNames e) = parents home e := by
  rw [parents, parentNames, childrenTagged_withoutEmptyNames, parents, parentNames]
  simp [List.filterMap_map]

theorem members_withoutEmptyNames (home owner : String) (kind : FunctionKind) (tag : String)
    (e : Element) :
    members home owner kind tag (withoutEmptyNames e) = members home owner kind tag e ↔
      "" ∉ (e.childrenTagged tag).flatMap (TakenNames.ofFunction kind) := by
  rw [members, childrenTagged_withoutEmptyNames, members]
  exact (takes_function? home (some owner) kind).filterMap _

theorem staticMembers_withoutEmptyNames (home owner : String) (e : Element) :
    members home owner .static "function" (withoutEmptyNames e) ++
        members home owner .static "constructor" (withoutEmptyNames e) =
      members home owner .static "function" e ++ members home owner .static "constructor" e ↔
      "" ∉ (e.childrenTagged "function" ++ e.childrenTagged "constructor").flatMap
        (TakenNames.ofFunction .static) := by
  rw [members, members, childrenTagged_withoutEmptyNames, childrenTagged_withoutEmptyNames,
    ← List.filterMap_append, ← List.map_append, members, members, ← List.filterMap_append]
  exact (takes_function? home (some owner) .static).filterMap _

theorem fields_withoutEmptyNames (home : String) (e : Element) :
    fields home (withoutEmptyNames e) = fields home e ↔
      "" ∉ ((e.childrenTagged "field").filter fun f => !isHidden f).flatMap TakenNames.ofField := by
  have hvisible : (fun f => !isHidden f) ∘ withoutEmptyNames = fun f => !isHidden f :=
    funext fun f => by simp
  rw [fields, childrenTagged_withoutEmptyNames, List.filter_map, hvisible, fields]
  exact (takes_field? home).filterMap _

theorem takes_compound? (home : String) (kind : CompoundKind) :
    Takes (compound? home kind) TakenNames.ofCompound where
  isSome e := by simp [compound?]
  same e := by
    rw [compound?, name?_withoutEmptyNames, compound?]
    refine map_eq_map_iff_listedUnder fun name => ?_
    rw [List.mem_append, List.mem_append, not_or, not_or, ← fields_withoutEmptyNames home,
      ← staticMembers_withoutEmptyNames home name, ← members_withoutEmptyNames home name,
      Compound.mk.injEq, documentation_withoutEmptyNames, parents_withoutEmptyNames]
    -- Whether the type can be called follows from its functions.
    grind

theorem takes_declarationOfKind? (options : Options) (home : String) (kind : DeclarationKind) :
    Takes (fun e => declarationOfKind? options home e kind) (TakenNames.ofKind · kind) where
  isSome e := by
    rw [isSome_declarationOfKind?, isSome_declarationOfKind?]
    simp [keepsFunction, isShadowed]
  same e := by
    cases kind with
    | typeAlias =>
      rw [declarationOfKind?, typeAlias?, name?_withoutEmptyNames, declarationOfKind?, typeAlias?,
        Option.map_map, Option.map_map]
      refine map_eq_map_iff_listedUnder fun name => ?_
      rw [← heldType_withoutEmptyNames (some (options.aliasHome home))]
      simp
    | enumeration kind => simp [declarationOfKind?, enumeration?, TakenNames.ofKind]
    | callback =>
      rw [TakenNames.ofKind, ← (takes_callback? home).same]
      exact (Option.map_injective fun _ _ h => Declaration.callback.inj h).eq_iff
    | function =>
      rw [TakenNames.ofKind, ← (takes_function? home none .static).same]
      exact (Option.map_injective fun _ _ h => Declaration.function.inj h).eq_iff
    | compound kind =>
      rw [TakenNames.ofKind, ← (takes_compound? home kind).same]
      exact (Option.map_injective fun _ _ h => Declaration.compound.inj h).eq_iff

theorem takes_declaration? (options : Options) (home : String) :
    Takes (declaration? options home) TakenNames.ofDeclaration where
  isSome e := by
    rw [isSome_declaration?, isSome_declaration?]
    simp [keepsDeclaration, keepsFunction, isShadowed]
  same e := by
    rw [declaration?, isHidden_withoutEmptyNames, tag_withoutEmptyNames, declaration?,
      TakenNames.ofDeclaration]
    cases isHidden e with
    | true => simp
    | false =>
      cases DeclarationKind.ofTag? e.tag with
      | none => simp
      | some kind => simpa using (takes_declarationOfKind? options home kind).same e

/-! ## Whose names are taken -/

/-- The names of the parameters and of the types in an element. -/
def plainNames (e : Element) : List String :=
  (e.subtree.filter fun d => isParameter d || d.tag = "type").filterMap (·.attribute? "name")

section Subset

variable {e c : Element} {tag : String}

theorem flatMap_subset {names : Element → List String} {l : List Element} {bound : List String}
    (h : ∀ c ∈ l, names c ⊆ bound) : l.flatMap names ⊆ bound := by
  intro name hname
  obtain ⟨c, hc, hmem⟩ := List.mem_flatMap.mp hname
  exact h c hc hmem

theorem listedUnder_subset {name : Option String} {names bound : List String}
    (h : names ⊆ bound) : listedUnder name names ⊆ bound := by
  cases name with
  | none => exact List.nil_subset bound
  | some text => exact h

/-- What is named below an element is named in it. -/
theorem subset_of_child {names : List String} (hc : c ∈ e.children) (h : names ⊆ plainNames c) :
    names ⊆ plainNames e := by
  have hbelow : c.subtree ⊆ e.subtree := fun d hd => by
    rw [Element.subtree_eq e]
    exact List.mem_cons_of_mem _ (List.mem_flatMap.mpr ⟨c, hc, hd⟩)
  exact List.Subset.trans h (List.filterMap_subset _ (List.filter_subset _ hbelow))

theorem subset_of_tagged {names : List String} (hc : c ∈ e.childrenTagged tag)
    (h : names ⊆ plainNames c) : names ⊆ plainNames e :=
  subset_of_child (Element.mem_children_of_mem_childrenTagged hc) h

theorem subset_of_child? {names : List String} (hc : c ∈ (e.child? tag).toList)
    (h : names ⊆ plainNames c) : names ⊆ plainNames e :=
  subset_of_child (Element.mem_children_of_child? (Option.mem_toList.mp hc)) h

theorem toList_attribute?_subset (h : isParameter e ∨ e.tag = "type") :
    (e.attribute? "name").toList ⊆ plainNames e := by
  intro name hname
  have hself : e ∈ e.subtree := by
    rw [Element.subtree_eq]
    exact List.mem_cons_self
  exact List.mem_filterMap.mpr
    ⟨e, List.mem_filter.mpr ⟨hself, by simpa using h⟩, Option.mem_toList.mp hname⟩

namespace TakenNames

theorem ofType_subset (h : e.tag = "type") : ofType e ⊆ plainNames e := by
  induction e using Element.induction with
  | step e ih =>
    have hown := toList_attribute?_subset (Or.inr h)
    rw [ofType_eq]
    cases hname : e.attribute? "name" with
    | none => exact List.nil_subset _
    | some name =>
      rw [hname] at hown
      refine List.cons_subset.mpr ⟨hown (List.mem_singleton_self name), flatMap_subset ?_⟩
      intro c hc
      have htagged := List.mem_of_mem_take hc
      have hchild := Element.mem_children_of_mem_childrenTagged htagged
      exact subset_of_tagged htagged (ih c hchild (tag_of_mem_childrenTagged htagged))

theorem ofHolder_subset (e : Element) : ofHolder e ⊆ plainNames e := by
  induction e using Element.induction with
  | step e ih =>
    rw [ofHolder_eq]
    cases harray : e.child? "array" with
    | some array =>
      have hchild := Element.mem_children_of_child? harray
      exact subset_of_child hchild (ih array hchild)
    | none =>
      refine flatMap_subset fun type htype => subset_of_child? htype (ofType_subset ?_)
      simpa using List.find?_some (Option.mem_toList.mp htype)

theorem ofParameter_subset (h : isParameter e) : ofParameter e ⊆ plainNames e :=
  List.append_subset.mpr ⟨toList_attribute?_subset (Or.inl h), ofHolder_subset e⟩

/-- A receiver has a type as any parameter. -/
theorem ofParameters_subset {children : List Element} {bound : List String}
    (h : ∀ c ∈ children, ofParameter c ⊆ bound) (kind : FunctionKind) :
    ofParameters kind children ⊆ bound := by
  cases kind with
  | static => exact flatMap_subset h
  | method =>
    cases children with
    | nil => exact List.nil_subset bound
    | cons first rest =>
      obtain ⟨hfirst, hrest⟩ := List.forall_mem_cons.mp h
      exact List.append_subset.mpr ⟨(List.append_subset.mp hfirst).2, flatMap_subset hrest⟩

theorem ofSignature_subset (kind : FunctionKind) (e : Element) :
    ofSignature kind e ⊆ plainNames e := by
  refine List.append_subset.mpr ⟨ofParameters_subset (fun c hc => ?_) kind, ?_⟩
  · obtain ⟨list, hlist, hchild⟩ := List.mem_flatMap.mp hc
    obtain ⟨hmem, hparameter⟩ := List.mem_filter.mp hchild
    exact subset_of_child? hlist (subset_of_child hmem (ofParameter_subset hparameter))
  · exact flatMap_subset fun value hvalue => subset_of_child? hvalue (ofHolder_subset value)

theorem ofFunction_subset (kind : FunctionKind) (e : Element) :
    ofFunction kind e ⊆ plainNames e := by
  unfold ofFunction
  split
  · exact List.nil_subset _
  · exact listedUnder_subset (ofSignature_subset kind e)

theorem ofField_subset (e : Element) : ofField e ⊆ plainNames e := by
  unfold ofField
  split
  · next callback hcallback =>
    have hchild := Element.mem_children_of_child? hcallback
    exact listedUnder_subset (subset_of_child hchild (ofSignature_subset .static callback))
  · exact listedUnder_subset (ofHolder_subset e)

theorem ofCompound_subset (e : Element) : ofCompound e ⊆ plainNames e := by
  have hmember : ∀ (kind : FunctionKind) (tag : String), ∀ c ∈ e.childrenTagged tag,
      ofFunction kind c ⊆ plainNames e := fun kind tag c hc =>
    subset_of_tagged hc (ofFunction_subset kind c)
  refine listedUnder_subset (List.append_subset.mpr ⟨?_, List.append_subset.mpr ⟨?_, ?_⟩⟩)
  · exact flatMap_subset fun c hc =>
      subset_of_tagged (List.mem_of_mem_filter hc) (ofField_subset c)
  · exact flatMap_subset fun c hc =>
      (List.mem_append.mp hc).elim (hmember .static _ c) (hmember .static _ c)
  · exact flatMap_subset (hmember .method "method")

theorem ofKind_subset (e : Element) (kind : DeclarationKind) : ofKind e kind ⊆ plainNames e := by
  cases kind with
  | typeAlias => exact listedUnder_subset (ofHolder_subset e)
  | enumeration kind => exact List.nil_subset _
  | callback => exact listedUnder_subset (ofSignature_subset .static e)
  | function => exact ofFunction_subset .static e
  | compound kind => exact ofCompound_subset e

theorem ofNamespace_subset (e : Element) : ofNamespace e ⊆ plainNames e := by
  refine flatMap_subset fun c hc => subset_of_child hc ?_
  unfold ofDeclaration
  split
  · exact List.nil_subset _
  · intro name hname
    obtain ⟨kind, -, hmem⟩ := List.mem_flatMap.mp hname
    exact ofKind_subset c kind hmem

end TakenNames

end Subset

/-! ## Modules -/

/-- **An empty name is a missing name, but for parameters and types.** Without the empty names in
its namespace a module is as it was just when none of the names that are taken as they stand is
empty, and these are names of parameters and of types. -/
theorem moduleOf_withoutEmptyNames (options : Options) (e : Element) :
    (moduleOf options (withoutEmptyNames e) = moduleOf options e ↔
      "" ∉ TakenNames.ofNamespace e) ∧
    TakenNames.ofNamespace e ⊆ plainNames e := by
  refine ⟨?_, TakenNames.ofNamespace_subset e⟩
  have hhome : homeOf options (withoutEmptyNames e) = homeOf options e := by
    rw [homeOf, name?_withoutEmptyNames, homeOf]
  rw [TakenNames.ofNamespace, ← (takes_declaration? options (homeOf options e)).filterMap,
    moduleOf, hhome, children_withoutEmptyNames, moduleOf, Module.mk.injEq]
  exact and_iff_right rfl

/-- A namespace with a function whose parameter is named by nothing. -/
def namelessArgument : Element where
  tag := "namespace"
  attributes := .ofList [("name", "Demo")]
  children :=
    [{ tag := "function"
       attributes := .ofList [("name", "f")]
       children :=
        [{ tag := "parameters"
           children :=
            [{ tag := "parameter"
               attributes := .ofList [("name", "")]
               children := [{ tag := "type", attributes := .ofList [("name", "utf8")] }] }] }] }]

/-- **Not every empty name is a missing name**: a parameter is then named by nothing. -/
theorem not_forall_moduleOf_withoutEmptyNames :
    ¬∀ (options : Options) (e : Element),
      moduleOf options (withoutEmptyNames e) = moduleOf options e := by
  intro h
  exact absurd (h ⟨"Demo", .target⟩ namelessArgument) (by decide +kernel)

end GirStubs.Gir
