import GirStubs.Proofs.Text.Lines

/-!
# Carriage returns

Whether a text has a carriage return is told from the parts that it is put together from.
-/

namespace GirStubs.Text

def HasReturn (text : String) : Prop := '\r' ∈ text.toList

instance (text : String) : Decidable (HasReturn text) := inferInstanceAs (Decidable (_ ∈ _))

/-- Some text of the list has a carriage return. -/
def AnyReturn (texts : List String) : Prop := ∃ text ∈ texts, HasReturn text

variable {α : Type} {first second : List String}

@[simp]
theorem hasReturn_append (first second : String) :
    HasReturn (first ++ second) ↔ HasReturn first ∨ HasReturn second := by
  simp [HasReturn]

@[simp]
theorem anyReturn_nil : ¬AnyReturn [] := by
  simp [AnyReturn]

@[simp]
theorem anyReturn_cons {text : String} :
    AnyReturn (text :: first) ↔ HasReturn text ∨ AnyReturn first := by
  simp [AnyReturn]

@[simp]
theorem anyReturn_append : AnyReturn (first ++ second) ↔ AnyReturn first ∨ AnyReturn second := by
  simp [AnyReturn, or_and_right, exists_or]

@[simp]
theorem anyReturn_map {f : α → String} {l : List α} :
    AnyReturn (l.map f) ↔ ∃ a ∈ l, HasReturn (f a) := by
  simp only [AnyReturn, List.mem_map]
  grind

@[simp]
theorem anyReturn_flatMap {f : α → List String} {l : List α} :
    AnyReturn (l.flatMap f) ↔ ∃ a ∈ l, AnyReturn (f a) := by
  simp only [AnyReturn, List.mem_flatMap]
  grind

theorem hasReturn_intercalate {separator : String} (hsep : ¬HasReturn separator)
    (entries : List String) : HasReturn (separator.intercalate entries) ↔ AnyReturn entries := by
  induction entries with
  | nil => simp [HasReturn]
  | cons entry rest ih =>
    by_cases hrest : rest = []
    · simp [hrest]
    · rw [String.intercalate_cons_of_ne_nil hrest, hasReturn_append, hasReturn_append, ih,
        anyReturn_cons]
      simp [hsep]

end GirStubs.Text
