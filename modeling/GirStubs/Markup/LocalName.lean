import GirStubs.Markup.Element

/-! # Local names

A label may carry a namespace in two spellings: a prefix before a colon, or a
name in braces. Its local name is what follows the first closing brace, and of
that what follows the last colon. `Element.localized` reduces every label of a
tree to its local name.
-/

namespace GirStubs.Markup

/-- What follows the first `mark`, or the whole label when there is none. -/
def afterFirst (mark : Char) (label : List Char) : List Char :=
  match label.dropWhile (· ≠ mark) with
  | _ :: rest => rest
  | [] => label

/-- What follows the last `mark`, or the whole label when there is none. -/
def afterLast (mark : Char) (label : List Char) : List Char :=
  (label.reverse.takeWhile (· ≠ mark)).reverse

/-- The brace that closes a namespace in its long spelling. -/
def closingBrace : Char := '\x7d'

/-- The part of a label without its namespace. -/
def localName (label : String) : String :=
  String.ofList (afterLast ':' (afterFirst closingBrace label.toList))

/-- The attributes under their local names. Keys that fall together keep the place of the first
and the value of the last. -/
def Attributes.localized (attributes : Attributes) : Attributes :=
  .ofList (attributes.entries.map fun entry => (localName entry.1, entry.2))

namespace Element

mutual

/-- The element with every label in it reduced to its local name. -/
def localized : Element → Element
  | ⟨tag, attributes, text, children⟩ =>
    ⟨localName tag, attributes.localized, text, localizedAll children⟩

/-- Each of the elements with its labels reduced. -/
def localizedAll : List Element → List Element
  | [] => []
  | e :: rest => localized e :: localizedAll rest

end

theorem localizedAll_eq_map (elements : List Element) :
    localizedAll elements = elements.map localized := by
  induction elements with
  | nil => simp [localizedAll]
  | cons e rest ih => simp [localizedAll, ih]

@[simp]
theorem tag_localized (e : Element) : e.localized.tag = localName e.tag := by
  cases e; simp [localized]

@[simp]
theorem text_localized (e : Element) : e.localized.text = e.text := by
  cases e; simp [localized]

@[simp]
theorem attributes_localized (e : Element) : e.localized.attributes = e.attributes.localized := by
  cases e; simp [localized]

@[simp]
theorem children_localized (e : Element) :
    e.localized.children = e.children.map localized := by
  cases e; simp [localized, localizedAll_eq_map]

end Element

end GirStubs.Markup
