import GirStubs.Proofs.Gir.Members

/-!
# Callbacks in fields

Of a callback in a visible field a compound type lists the name, or else that of the field, the
parameters and the type of the value (`listing`), and nothing else of the type depends on the
callback (`compound?_fill_eq_iff`). Whether the callback is hidden is no part of that: a hidden
function, a hidden field and a hidden declaration leave nothing behind, but a hidden callback in a
field is listed as any other (`compound?_fill`).
-/

namespace GirStubs.Gir

open Api
open Lua (TypeExpr)
open Markup

/-! ## Places for callbacks -/

/-- A place for a callback: the first one in a visible field of a compound type. The children of
`owner` and `field` do not count. -/
structure CallbackPlace where
  /-- The compound type. -/
  owner : Element
  /-- The children of the type around the field. -/
  before : List Element
  behind : List Element
  field : Element
  /-- The children of the field around the callback. -/
  fieldBefore : List Element
  fieldBehind : List Element
  isField : field.tag = "field"
  visible : isHidden field = false
  first : ∀ c ∈ fieldBefore, c.tag ≠ "callback"

namespace CallbackPlace

/-- The field with a callback in it. -/
def fieldWith (place : CallbackPlace) (callback : Element) : Element :=
  { place.field with children := place.fieldBefore ++ callback :: place.fieldBehind }

/-- The compound type with a callback in its field. -/
def fill (place : CallbackPlace) (callback : Element) : Element :=
  { place.owner with children := place.before ++ place.fieldWith callback :: place.behind }

end CallbackPlace

/-- What is listed of a callback in a field: a name, the parameters, and the type of the value. -/
def listing (home : String) (field callback : Element) :
    Option (String × List Parameter × Option TypeExpr) :=
  ((name? callback).or (name? field)).map fun name =>
    (name, parameters home callback, (returnValue? home callback).map ReturnValue.type)

theorem setChildren_self {e : Element} {children : List Element} (h : e.children = children) :
    { e with children } = e := by
  cases e
  cases h
  rfl

/-- A callback in a visible field of an element has a place there. -/
theorem exists_place {e field callback : Element} (hfield : field ∈ e.childrenTagged "field")
    (hvisible : isHidden field = false) (hcallback : field.child? "callback" = some callback) :
    ∃ place : CallbackPlace, place.fieldWith callback = field ∧ place.fill callback = e := by
  obtain ⟨hmem, htag⟩ := List.mem_filter.mp hfield
  obtain ⟨before, behind, hchildren⟩ := List.append_of_mem hmem
  obtain ⟨-, fieldBefore, fieldBehind, hinner, hfirst⟩ :=
    List.find?_eq_some_iff_append.mp hcallback
  let place : CallbackPlace :=
    { owner := e, before, behind, field, fieldBefore, fieldBehind
      isField := of_decide_eq_true htag
      visible := hvisible
      first := fun c hc => by simpa using hfirst c hc }
  have hwith : place.fieldWith callback = field := setChildren_self hinner
  refine ⟨place, hwith, ?_⟩
  rw [CallbackPlace.fill, hwith]
  exact setChildren_self hchildren

/-! ## What is listed -/

section Listing

variable {home : String} {place : CallbackPlace} {callback other : Element}

/-- The visible fields among some children. -/
def fieldsAmong (home : String) (children : List Element) : List Field :=
  ((children.filter (·.tag = "field")).filter fun f => !isHidden f).filterMap (field? home)

theorem fieldsAmong_append (home : String) (first second : List Element) :
    fieldsAmong home (first ++ second) = fieldsAmong home first ++ fieldsAmong home second := by
  simp [fieldsAmong]

theorem child?_fieldWith (place : CallbackPlace) (h : callback.tag = "callback") :
    (place.fieldWith callback).child? "callback" = some callback := by
  have hbefore : place.fieldBefore.find? (fun c => c.tag = "callback") = none :=
    List.find?_eq_none.mpr fun c hc => by simpa using place.first c hc
  rw [Element.child?, CallbackPlace.fieldWith, List.find?_append, hbefore, Option.none_or,
    List.find?_cons_of_pos (by simpa using h)]

theorem field?_fieldWith (home : String) (place : CallbackPlace) (h : callback.tag = "callback") :
    field? home (place.fieldWith callback) =
      (listing home place.field callback).map fun listed =>
        .callback ⟨listed.1, listed.2.1, listed.2.2, home⟩ := by
  rw [field?, child?_fieldWith place h]
  dsimp only
  rw [fieldCallback?_eq, listing, Option.map_map, Option.map_map]
  rfl

theorem fields_fill (home : String) (place : CallbackPlace) (callback : Element) :
    fields home (place.fill callback) =
      fieldsAmong home place.before ++
        ((field? home (place.fieldWith callback)).toList ++ fieldsAmong home place.behind) := by
  have hwith : fieldsAmong home [place.fieldWith callback] =
      (field? home (place.fieldWith callback)).toList := by
    have hvisible : isHidden (place.fieldWith callback) = false := place.visible
    have hfield : (place.fieldWith callback).tag = "field" := place.isField
    cases hread : field? home (place.fieldWith callback) <;>
      simp [fieldsAmong, hvisible, hfield, hread]
  rw [← hwith, ← fieldsAmong_append, ← fieldsAmong_append]
  rfl

/-- The fields tell what is listed of a callback. -/
theorem fields_fill_eq_iff (h : callback.tag = "callback") (hother : other.tag = "callback") :
    fields home (place.fill callback) = fields home (place.fill other) ↔
      listing home place.field callback = listing home place.field other := by
  have hlist : Function.Injective (Option.toList (α := Field)) :=
    Function.LeftInverse.injective fun _ => Option.head?_toList
  have hentry : Function.Injective fun listed : String × List Parameter × Option TypeExpr =>
      Field.callback ⟨listed.1, listed.2.1, listed.2.2, home⟩ := by
    rintro ⟨name, list, result⟩ ⟨name', list', result'⟩ hsame
    cases hsame
    rfl
  rw [fields_fill, fields_fill, List.append_cancel_left_eq, List.append_cancel_right_eq,
    hlist.eq_iff, field?_fieldWith home place h, field?_fieldWith home place hother]
  exact (Option.map_injective hentry).eq_iff

/-- Only the fields of an element are looked up under their tag. -/
theorem childrenTagged_fill (place : CallbackPlace) (callback other : Element) {tag : String}
    (htag : tag ≠ "field") :
    (place.fill callback).childrenTagged tag = (place.fill other).childrenTagged tag := by
  have hfield : place.field.tag ≠ tag := place.isField ▸ htag.symm
  simp [Element.childrenTagged, CallbackPlace.fill, CallbackPlace.fieldWith, hfield]

/-- **A compound type depends on a callback in a field by what it lists of it.** -/
theorem compound?_fill_eq_iff {kind : CompoundKind} (h : callback.tag = "callback")
    (hother : other.tag = "callback") :
    compound? home kind (place.fill callback) = compound? home kind (place.fill other) ↔
      name? place.owner = none ∨ listing home place.field callback = listing home place.field other := by
  have hname : ∀ c : Element, name? (place.fill c) = name? place.owner := fun _ => rfl
  have hmembers : ∀ (owner : String) (kind : FunctionKind) {tag : String}, tag ≠ "field" →
      members home owner kind tag (place.fill callback) =
        members home owner kind tag (place.fill other) := by
    intro owner kind tag htag
    rw [members, childrenTagged_fill place callback other htag, members]
  have hdoc : documentation (place.fill callback) = documentation (place.fill other) := by
    rw [documentation, Element.child?_eq_head?,
      childrenTagged_fill place callback other (by decide), ← Element.child?_eq_head?,
      documentation]
  have hparents : parents home (place.fill callback) = parents home (place.fill other) := by
    rw [parents, parentNames, childrenTagged_fill place callback other (by decide), parents,
      parentNames]
    rfl
  rw [← fields_fill_eq_iff h hother]
  unfold compound?
  rw [hname, hname]
  cases name? place.owner with
  | none => simp
  | some name =>
    simp [hdoc, hparents, hmembers name .static (show "function" ≠ "field" by decide),
      hmembers name .static (show "constructor" ≠ "field" by decide),
      hmembers name .method (show "method" ≠ "field" by decide)]

theorem listing_setAttribute (home : String) (field callback : Element) {key : String}
    (hkey : key ≠ "name") (value : String) :
    listing home field (callback.setAttribute key value) = listing home field callback := by
  have hname : name? (callback.setAttribute key value) = name? callback := by
    rw [name?, Element.nonEmpty?, Element.attribute?_setAttribute, if_neg hkey.symm]
    rfl
  rw [listing, hname]
  rfl

end Listing

/-- **Callbacks in fields are listed, hidden or not.** A callback in a visible field of an element,
first of its kind there, has a place. Any other callback in that place makes the same compound type
just when the type has no name or lists the same of both, and hiding the other one, or showing it,
makes no difference. -/
theorem compound?_fill (home : String) (kind : CompoundKind) {e field callback : Element}
    (hfield : field ∈ e.childrenTagged "field") (hvisible : isHidden field = false)
    (hcallback : field.child? "callback" = some callback) :
    ∃ place : CallbackPlace, place.fieldWith callback = field ∧ place.fill callback = e ∧
      ∀ other : Element, other.tag = "callback" →
        (compound? home kind (place.fill other) = compound? home kind e ↔
          name? e = none ∨ listing home field other = listing home field callback) ∧
        ∀ value, compound? home kind (place.fill (other.setAttribute "introspectable" value)) =
          compound? home kind (place.fill other) := by
  obtain ⟨place, rfl, rfl⟩ := exists_place hfield hvisible hcallback
  have htag : callback.tag = "callback" := by simpa using List.find?_some hcallback
  refine ⟨place, rfl, rfl, fun other hother => ⟨compound?_fill_eq_iff hother htag, ?_⟩⟩
  intro value
  have hset : (other.setAttribute "introspectable" value).tag = "callback" := hother
  rw [compound?_fill_eq_iff hset hother]
  exact Or.inr (listing_setAttribute home place.field other (by decide) value)

/-- A type of functions with a visible field. -/
def classPlace : CallbackPlace where
  owner := { tag := "record", attributes := .ofList [("name", "BoxClass")] }
  before := [{ tag := "method", attributes := .ofList [("name", "pack")] }]
  behind := []
  field := { tag := "field", attributes := .ofList [("name", "run")] }
  fieldBefore := [{ tag := "doc", text := "Runs." }]
  fieldBehind := []
  isField := rfl
  visible := by decide
  first := by decide

/-- A hidden callback with a name and a value. -/
def hiddenCallback (name type : String) : Element where
  tag := "callback"
  attributes := .ofList [("name", name), ("introspectable", "0")]
  children :=
    [{ tag := "return-value"
       children := [{ tag := "type", attributes := .ofList [("name", type)] }] }]

/-- Two spellings of one type make no difference to what is listed, and another type does. -/
theorem compound?_fill_hiddenCallback :
    let callback := hiddenCallback "secret" "utf8"
    let e := classPlace.fill callback
    isHidden callback ∧ classPlace.fieldWith callback ∈ e.childrenTagged "field" ∧
      ∃ place : CallbackPlace, place.fill callback = e ∧
        compound? "Demo" .record (place.fill (hiddenCallback "secret" "filename")) =
          compound? "Demo" .record e ∧
        compound? "Demo" .record (place.fill (hiddenCallback "secret" "gint")) ≠
          compound? "Demo" .record e := by
  intro callback e
  have hfield : classPlace.fieldWith callback ∈ e.childrenTagged "field" := by
    decide
  have hcallback : (classPlace.fieldWith callback).child? "callback" = some callback := by
    decide
  obtain ⟨place, -, hfill, hother⟩ := compound?_fill "Demo" .record hfield (by decide) hcallback
  have hlisted (type : String) := (hother (hiddenCallback "secret" type) rfl).1
  refine ⟨by decide, hfield, place, hfill, (hlisted "filename").mpr (.inr (by decide)), ?_⟩
  exact fun hsame => absurd ((hlisted "gint").mp hsame) (by decide)

/-- **A hidden callback shows.** Two hidden callbacks in one field make different types. -/
theorem not_forall_compound?_fill_hidden :
    ¬∀ (home : String) (kind : CompoundKind) (place : CallbackPlace) (callback other : Element),
      callback.tag = "callback" → other.tag = "callback" → isHidden callback → isHidden other →
      compound? home kind (place.fill callback) = compound? home kind (place.fill other) := by
  intro h
  have hsame := h "Demo" .record classPlace (hiddenCallback "secret" "utf8")
    (hiddenCallback "other" "gint") rfl rfl (by decide) (by decide)
  exact absurd hsame (by decide +kernel)

end GirStubs.Gir
