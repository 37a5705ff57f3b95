import GirStubs.Gir.TypeName

/-!
# Types of containers in containers

A type is a name, an array, a sequence or a table, nested without bound. `TypeTerm.encode` writes
it as elements, and `TypeTerm.meaning` says what it should read as. An element that holds a type
looks for arrays, but a `type` element looks only for `type` elements below it. So the reading is
the meaning exactly when no array stands directly in a sequence or a table
(`heldType_eq_meaning_iff`); an array that does is passed over.
-/

namespace GirStubs.Gir

open Lua (TypeExpr)
open Markup

/-- The containers that hold a sequence of values. -/
inductive SequenceKind where
  | array
  | list
  | singleList
  deriving DecidableEq, Repr

def SequenceKind.name : SequenceKind → String
  | .array => "GLib.Array"
  | .list => "GLib.List"
  | .singleList => "GLib.SList"

inductive TypeTerm where
  | leaf (name : String)
  | array (element : TypeTerm)
  | sequence (kind : SequenceKind) (element : TypeTerm)
  | table (key value : TypeTerm)
  deriving DecidableEq, Repr

namespace TypeTerm

/-- A `type` element with a name. -/
def typeElement (name : String) (content : List Element) : Element where
  tag := "type"
  attributes := .ofList [("name", name)]
  children := content

/-- The element that writes a type. -/
def encode : TypeTerm → Element
  | leaf name => typeElement name []
  | array element => { tag := "array", children := [element.encode] }
  | sequence kind element => typeElement kind.name [element.encode]
  | table key value => typeElement "GLib.HashTable" [key.encode, value.encode]

/-- What a type means, container by container. -/
def meaning (home : Option String) : TypeTerm → TypeExpr
  | leaf name => typeNamed home name
  | array element => .array (element.meaning home)
  | sequence _ element => .array (element.meaning home)
  | table key value => .table (key.meaning home) (value.meaning home)

def leaves : TypeTerm → List String
  | leaf name => [name]
  | array element => element.leaves
  | sequence _ element => element.leaves
  | table key value => key.leaves ++ value.leaves

/-- No leaf is spelled like a container. -/
def Plain (t : TypeTerm) : Prop := ∀ name ∈ t.leaves, container? name = none

instance (t : TypeTerm) : Decidable t.Plain := inferInstanceAs (Decidable (∀ _ ∈ _, _))

def isArray : TypeTerm → Bool
  | array _ => true
  | _ => false

/-- No array stands directly in a sequence or a table. -/
def ArraysHeld : TypeTerm → Prop
  | leaf _ => True
  | array element => element.ArraysHeld
  | sequence _ element => element.isArray = false ∧ element.ArraysHeld
  | table key value =>
    (key.isArray = false ∧ value.isArray = false) ∧ key.ArraysHeld ∧ value.ArraysHeld

/-! ## Readings -/

/-- How a term is read where something holds it; an array holds it as any other holder does. -/
def reading (home : Option String) (t : TypeTerm) : TypeExpr := heldType home (array t).encode

variable {home : Option String} {t : TypeTerm} {e : Element}

theorem tag_encode (t : TypeTerm) : t.encode.tag = if t.isArray then "array" else "type" := by
  cases t <;> rfl

theorem attribute?_typeElement (name : String) (content : List Element) :
    (typeElement name content).attribute? "name" = some name := by
  simp [typeElement, Element.attribute?, Attributes.ofList, Attributes.get?_set]

/-- The types that a list of encoded terms writes: those of the terms that are no arrays. -/
theorem writtenTypes_encode (terms : List TypeTerm) :
    ((terms.map encode).filter (·.tag = "type")).map (writtenType home) =
      (terms.filter (!·.isArray)).map fun t => writtenType home t.encode := by
  induction terms with
  | nil => rfl
  | cons t rest ih => cases ht : t.isArray <;> simp [tag_encode, ht, ih]

theorem writtenType_typeElement (name : String) (terms : List TypeTerm) :
    writtenType home (typeElement name (terms.map encode)) =
      typeAround home name
        ((terms.filter (!·.isArray)).map fun t => writtenType home t.encode) := by
  rw [writtenType_eq, attribute?_typeElement]
  exact congrArg (typeAround home name) (writtenTypes_encode terms)

theorem heldType_eq_reading (h : e.children = [t.encode]) : heldType home e = t.reading home := by
  rw [reading, heldType_eq, heldType_eq home (array t).encode]
  simp only [Element.child?, h, encode]

/-- The content of an array is read as any other. -/
theorem reading_array (t : TypeTerm) : (array t).reading home = .array (t.reading home) := by
  rw [reading, heldType_eq]
  rfl

theorem reading_of_not_isArray (ht : t.isArray = false) :
    t.reading home = writtenType home t.encode := by
  rw [reading, heldType_eq]
  simp [Element.child?, encode, tag_encode, ht]

theorem reading_leaf {name : String} (h : (leaf name).Plain) :
    (leaf name).reading home = typeNamed home name := by
  have hname : container? name = none := h name List.mem_cons_self
  have hterms : (leaf name).encode = typeElement name ([].map encode) := rfl
  rw [reading_of_not_isArray rfl, hterms, writtenType_typeElement, typeAround, hname]

theorem container?_name (kind : SequenceKind) : container? kind.name = some .sequence := by
  cases kind <;> rfl

/-- A sequence passes over an array. -/
theorem reading_sequence (kind : SequenceKind) (t : TypeTerm) :
    (sequence kind t).reading home =
      .array (if t.isArray then .unknown else t.reading home) := by
  have hterms : (sequence kind t).encode = typeElement kind.name ([t].map encode) := rfl
  rw [reading_of_not_isArray rfl, hterms, writtenType_typeElement, typeAround, container?_name]
  cases ht : t.isArray with
  | true => simp [ht]
  | false => simp [ht, reading_of_not_isArray ht]

/-- A table passes over arrays, so its value can come to stand as its key. -/
theorem reading_table (key value : TypeTerm) :
    (table key value).reading home =
      let content := ([key, value].filter (!·.isArray)).map (reading home)
      .table (content[0]?.getD .unknown) (content[1]?.getD .unknown) := by
  have hterms : (table key value).encode =
      typeElement "GLib.HashTable" ([key, value].map encode) := rfl
  have hcontainer : container? "GLib.HashTable" = some .table := rfl
  have hcontent : ∀ t ∈ [key, value].filter (!·.isArray),
      writtenType home t.encode = t.reading home := by
    intro t ht
    have hplain := (List.mem_filter.mp ht).2
    exact (reading_of_not_isArray (by simpa using hplain)).symm
  rw [reading_of_not_isArray rfl, hterms, writtenType_typeElement, typeAround, hcontainer,
    List.map_congr_left hcontent]

theorem exists_meaning_eq_array (ht : t.isArray) : ∃ element, t.meaning home = .array element := by
  cases t with
  | array element => exact ⟨element.meaning home, rfl⟩
  | _ => cases ht

theorem unknown_ne_meaning (ht : t.isArray) : .unknown ≠ t.meaning home := by
  obtain ⟨element, hmeaning⟩ := exists_meaning_eq_array ht
  rw [hmeaning]
  exact fun h => nomatch h

/-- The value of a table comes to stand as its key when the key is an array. It cannot pass for the
key then and be unknown itself. -/
theorem not_shifted (home : Option String) {key value : TypeTerm} (hkey : key.isArray)
    (h : value.Plain) (hvalue : value.isArray = false) :
    ¬(value.reading home = key.meaning home ∧ .unknown = value.meaning home) := by
  obtain ⟨element, harray⟩ : ∃ element, key.meaning home = .array element :=
    exists_meaning_eq_array hkey
  rintro ⟨hreading, hmeaning⟩
  rw [harray] at hreading
  cases value with
  | leaf name =>
    rw [reading_leaf h, ← meaning, ← hmeaning] at hreading
    cases hreading
  | array element => cases hvalue
  | sequence kind element => cases hmeaning
  | table key value => cases hmeaning

/-- By induction on the term. What stands in a sequence or a table is compared with its own reading,
or with the unknown type where it is an array and so passed over. -/
theorem reading_eq_meaning_iff (h : t.Plain) : t.reading home = t.meaning home ↔ t.ArraysHeld := by
  induction t with
  | leaf name => exact iff_of_true (reading_leaf h) trivial
  | array element ih =>
    rw [reading_array, meaning, TypeExpr.array.injEq]
    exact ih h
  | sequence kind element ih =>
    rw [reading_sequence, meaning, TypeExpr.array.injEq, ArraysHeld, ← ih h]
    cases ht : element.isArray with
    | true => simpa using unknown_ne_meaning ht
    | false => simp
  | table key value ihkey ihvalue =>
    have hkey : key.Plain := fun name hname => h name (List.mem_append_left _ hname)
    have hvalue : value.Plain := fun name hname => h name (List.mem_append_right _ hname)
    rw [reading_table, meaning, TypeExpr.table.injEq, ArraysHeld, ← ihkey hkey, ← ihvalue hvalue]
    cases hk : key.isArray with
    | false =>
      cases hv : value.isArray with
      | false => simp [hk, hv]
      | true => simp [hk, hv, unknown_ne_meaning hv]
    | true =>
      cases hv : value.isArray with
      | false => simpa [hk, hv] using not_shifted home hk hvalue hv
      | true => simp [hk, hv, unknown_ne_meaning hv]

end TypeTerm

/-- **Containers in containers** read as they mean exactly when no array stands directly in a
sequence or a table. -/
theorem heldType_eq_meaning_iff (home : Option String) (t : TypeTerm) (e : Element) (h : t.Plain)
    (he : e.children = [t.encode]) : heldType home e = t.meaning home ↔ t.ArraysHeld := by
  rw [TypeTerm.heldType_eq_reading he]
  exact TypeTerm.reading_eq_meaning_iff h

/-- Arrays of arrays of tables from names to lists of tables. -/
def nestedTerm : TypeTerm :=
  .array (.array (.table (.leaf "utf8")
    (.sequence .list (.table (.leaf "Widget") (.sequence .singleList (.leaf "Gio.File"))))))

theorem heldType_nestedTerm :
    nestedTerm.Plain ∧
      (heldType (some "Gtk") { tag := "parameter", children := [nestedTerm.encode] } =
          nestedTerm.meaning (some "Gtk") ↔ nestedTerm.ArraysHeld) ∧
      (nestedTerm.meaning (some "Gtk")).render =
        "table<string, table<Gtk.Widget, Gio.File[]>[]>[][]" :=
  have hplain : nestedTerm.Plain := by decide
  ⟨hplain, heldType_eq_meaning_iff _ _ _ hplain rfl, by decide⟩

/-- **An array in a list is lost**: a list of arrays of strings reads as a list of the unknown. -/
theorem not_forall_render_heldType :
    ¬∀ (home : Option String) (t : TypeTerm) (e : Element), t.Plain → e.children = [t.encode] →
      (heldType home e).render = (t.meaning home).render := by
  intro h
  let t : TypeTerm := .sequence .list (.array (.leaf "utf8"))
  have hread := h (some "Gtk") t { tag := "parameter", children := [t.encode] } (by decide) rfl
  exact absurd hread (by decide +kernel)

end GirStubs.Gir
