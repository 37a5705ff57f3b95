import GirStubs.Lua.Comment
import GirStubs.Lua.TypeExpr

/-!
# Reading types back

A type over plain leaves can be read back from its text, and from a longer text as well: its end is
seen where neither a bracket nor a character of a leaf follows (`render_append_inj`). Arrays are
marked behind their elements, so the induction has to count the brackets that stand behind a type
along with the type (`Told`).
-/

namespace GirStubs.Lua.TypeExpr

/-- The names that a type is built from. -/
def leaves : TypeExpr → List String
  | name text => [text]
  | array element => element.leaves
  | table key value => key.leaves ++ value.leaves

def isLeafChar (c : Char) : Bool := Comment.isNameChar c || c = '.'

/-- A dotted word, or the one union that a primitive stands for. -/
def IsPlainLeaf (text : String) : Prop :=
  text = "(boolean|nil)" ∨ text ≠ "" ∧ text.toList.all isLeafChar

instance (text : String) : Decidable (IsPlainLeaf text) := inferInstanceAs (Decidable (_ ∨ _ ∧ _))

def Over (p : String → Prop) (t : TypeExpr) : Prop := ∀ leaf ∈ t.leaves, p leaf

def Plain (t : TypeExpr) : Prop := t.Over IsPlainLeaf

instance (t : TypeExpr) : Decidable t.Plain := inferInstanceAs (Decidable (∀ _ ∈ _, _))

variable {t key value : TypeExpr}

theorem over_name {p : String → Prop} {text : String} : (name text).Over p ↔ p text :=
  List.forall_mem_singleton

theorem over_array {p : String → Prop} : (array t).Over p ↔ t.Over p := Iff.rfl

theorem over_table {p : String → Prop} : (table key value).Over p ↔ key.Over p ∧ value.Over p :=
  List.forall_mem_append

/-! ## Leaves -/

section Run

variable {marked : Char → Bool} {run run' rest rest' : List Char}

theorem takeWhile_run (hrun : ∀ c ∈ run, marked c) (hrest : ∀ c ∈ rest.head?, marked c = false) :
    (run ++ rest).takeWhile marked = run := by
  have hstop : rest.takeWhile marked = [] := by
    cases rest with
    | nil => rfl
    | cons c behind => exact List.takeWhile_cons_of_neg (by simp [hrest c rfl])
  rw [List.takeWhile_append_of_pos hrun, hstop, List.append_nil]

theorem run_append_inj (hrun : ∀ c ∈ run, marked c) (hrun' : ∀ c ∈ run', marked c)
    (hrest : ∀ c ∈ rest.head?, marked c = false) (hrest' : ∀ c ∈ rest'.head?, marked c = false)
    (h : run ++ rest = run' ++ rest') : run = run' ∧ rest = rest' := by
  have hsame : run = run' := by rw [← takeWhile_run hrun hrest, h, takeWhile_run hrun' hrest']
  exact ⟨hsame, List.append_cancel_left (hsame ▸ h)⟩

end Run

def EndsLeaf (rest : List Char) : Prop :=
  -- A word with an angle bracket behind it would be a table.
  ∀ c ∈ rest.head?, isLeafChar c = false ∧ c ≠ '<'

section Leaf

variable {leaf leaf' : String} {rest rest' : List Char}

theorem word_append_ne_union (hne : leaf ≠ "") (hall : leaf.toList.all isLeafChar) :
    leaf.toList ++ rest ≠ "(boolean|nil)".toList ++ rest' := by
  intro hsame
  obtain ⟨c, more, hmore⟩ := List.exists_cons_of_ne_nil (mt String.toList_eq_nil_iff.mp hne)
  have hc : c = '(' := by
    rw [hmore] at hsame
    exact (List.cons.inj hsame).1
  have hparen : isLeafChar '(' = false := by decide
  simp [hmore, hc, hparen] at hall

theorem leaf_append_inj (hleaf : IsPlainLeaf leaf) (hleaf' : IsPlainLeaf leaf')
    (hrest : EndsLeaf rest) (hrest' : EndsLeaf rest')
    (h : leaf.toList ++ rest = leaf'.toList ++ rest') : leaf = leaf' ∧ rest = rest' := by
  obtain rfl | ⟨hne, hall⟩ := hleaf
  · obtain rfl | ⟨hne', hall'⟩ := hleaf'
    · exact ⟨rfl, List.append_cancel_left h⟩
    · exact (word_append_ne_union hne' hall' h.symm).elim
  · obtain rfl | ⟨-, hall'⟩ := hleaf'
    · exact (word_append_ne_union hne hall h).elim
    · obtain ⟨hsame, hbehind⟩ := run_append_inj (List.all_eq_true.mp hall)
        (List.all_eq_true.mp hall') (fun c hc => (hrest c hc).1) (fun c hc => (hrest' c hc).1) h
      exact ⟨String.toList_inj.mp hsame, hbehind⟩

theorem leaf_append_ne_table (hleaf : IsPlainLeaf leaf) (hrest : EndsLeaf rest) :
    leaf.toList ++ rest ≠ "table<".toList ++ rest' := by
  intro h
  obtain rfl | ⟨-, hall⟩ := hleaf
  · cases h
  · -- The leaf can be the word itself, but then the bracket would have to end it.
    have htable : ∀ c ∈ "table".toList, isLeafChar c := List.all_eq_true.mp (by decide)
    have hbehind : ∀ c ∈ ('<' :: rest').head?, isLeafChar c = false := by
      simp only [List.head?_cons, Option.mem_some_iff, forall_eq']
      decide
    have hsplit : leaf.toList ++ rest = "table".toList ++ '<' :: rest' := h
    obtain ⟨-, rfl⟩ := run_append_inj (List.all_eq_true.mp hall) htable
      (fun c hc => (hrest c hc).1) hbehind hsplit
    exact (hrest '<' rfl).2 rfl

end Leaf

/-! ## Brackets -/

def brackets : Nat → List Char
  | 0 => []
  | n + 1 => '[' :: ']' :: brackets n

/-- The type in so many arrays. -/
def arrays : Nat → TypeExpr → TypeExpr
  | 0, t => t
  | n + 1, t => arrays n (array t)

def EndsType (rest : List Char) : Prop := EndsLeaf rest ∧ rest.head? ≠ some '['

section Told

variable {n n' : Nat} {rest rest' : List Char}

theorem endsType_nil : EndsType [] := ⟨by simp [EndsLeaf], by simp⟩

theorem endsType_cons {c : Char} (h : isLeafChar c = false ∧ c ≠ '<' ∧ c ≠ '[') :
    EndsType (c :: rest) :=
  ⟨by simpa [EndsLeaf] using ⟨h.1, h.2.1⟩, by simpa using h.2.2⟩

theorem endsLeaf_brackets (h : EndsType rest) : EndsLeaf (brackets n ++ rest) := by
  cases n with
  | zero => exact h.1
  | succ n =>
    intro c hc
    obtain rfl : '[' = c := by simpa [brackets] using hc
    decide

theorem brackets_append_inj (h : EndsType rest) (h' : EndsType rest')
    (hsame : brackets n ++ rest = brackets n' ++ rest') : n = n' ∧ rest = rest' := by
  induction n generalizing n' with
  | zero =>
    cases n' with
    | zero => exact ⟨rfl, hsame⟩
    | succ n' => exact absurd (congrArg List.head? hsame) h.2
  | succ n ih =>
    cases n' with
    | zero => exact absurd (congrArg List.head? hsame).symm h'.2
    | succ n' =>
      obtain ⟨hn, hrest⟩ := ih (List.cons.inj (List.cons.inj hsame).2).2
      exact ⟨congrArg (· + 1) hn, hrest⟩

theorem render_array_append (t : TypeExpr) (n : Nat) (rest : List Char) :
    (array t).render.toList ++ (brackets n ++ rest) =
      t.render.toList ++ (brackets (n + 1) ++ rest) := by
  simp [render, brackets]

theorem render_table_append (key value : TypeExpr) (rest : List Char) :
    (table key value).render.toList ++ rest =
      "table<".toList ++ (key.render.toList ++ ',' :: ' ' ::
        (value.render.toList ++ '>' :: rest)) := by
  simp [render]

/-- The type is told from every other by its text, with brackets and an end behind it. -/
def Told (t : TypeExpr) : Prop :=
  ∀ (t' : TypeExpr) (n n' : Nat) (rest rest' : List Char), t'.Plain → EndsType rest →
    EndsType rest' →
    t.render.toList ++ (brackets n ++ rest) = t'.render.toList ++ (brackets n' ++ rest') →
    arrays n t = arrays n' t' ∧ rest = rest'

theorem told_name {text : String} (htext : IsPlainLeaf text) : (name text).Told := by
  intro t' n n' rest rest' hplain hrest hrest' h
  -- The induction is on the other type: when it is an array, its brackets join those behind it.
  induction t' generalizing n' with
  | name text' =>
    obtain ⟨rfl, hbehind⟩ := leaf_append_inj htext (over_name.mp hplain)
      (endsLeaf_brackets hrest) (endsLeaf_brackets hrest') h
    obtain ⟨rfl, rfl⟩ := brackets_append_inj hrest hrest' hbehind
    exact ⟨rfl, rfl⟩
  | array element ih =>
    rw [render_array_append] at h
    exact ih (n' + 1) hplain h
  | table key value =>
    rw [render_table_append] at h
    exact (leaf_append_ne_table htext (endsLeaf_brackets hrest) h).elim

theorem told_table (hkey : key.Told) (hvalue : value.Told) : (table key value).Told := by
  intro t' n n' rest rest' hplain hrest hrest' h
  rw [render_table_append] at h
  induction t' generalizing n' with
  | name text =>
    have htext : IsPlainLeaf text := over_name.mp hplain
    exact (leaf_append_ne_table htext (endsLeaf_brackets hrest') h.symm).elim
  | array element ih =>
    rw [render_array_append] at h
    exact ih (n' + 1) hplain h
  | table key' value' =>
    obtain ⟨hkey', hvalue'⟩ := over_table.mp hplain
    rw [render_table_append] at h
    -- The comma ends the keys, the angle bracket ends the values.
    have hinside := List.append_cancel_left h
    obtain ⟨hsame, hbehind⟩ := hkey key' 0 0 _ _ hkey' (endsType_cons (by decide))
      (endsType_cons (by decide)) hinside
    obtain ⟨hsame', hbehind'⟩ := hvalue value' 0 0 _ _ hvalue' (endsType_cons (by decide))
      (endsType_cons (by decide)) (List.cons.inj (List.cons.inj hbehind).2).2
    obtain ⟨rfl, rfl⟩ := brackets_append_inj hrest hrest' (List.cons.inj hbehind').2
    obtain rfl : key = key' := hsame
    obtain rfl : value = value' := hsame'
    exact ⟨rfl, rfl⟩

theorem told (h : t.Plain) : t.Told := by
  induction t with
  | name text => exact told_name (over_name.mp h)
  | array element ih =>
    intro t' n n' rest rest' hplain hrest hrest' hsame
    rw [render_array_append] at hsame
    exact ih h t' (n + 1) n' rest rest' hplain hrest hrest' hsame
  | table key value ihkey ihvalue =>
    obtain ⟨hkey, hvalue⟩ := over_table.mp h
    exact told_table (ihkey hkey) (ihvalue hvalue)

theorem render_append_inj {t' : TypeExpr} (h : t.Plain) (h' : t'.Plain) (hrest : EndsType rest)
    (hrest' : EndsType rest') (hsame : t.render.toList ++ rest = t'.render.toList ++ rest') :
    t = t' ∧ rest = rest' :=
  told h t' 0 0 rest rest' h' hrest hrest' hsame

end Told

theorem render_inj {t' : TypeExpr} (h : t.Plain) (h' : t'.Plain) (hsame : t.render = t'.render) :
    t = t' := by
  have hchars : t.render.toList ++ [] = t'.render.toList ++ [] := by rw [hsame]
  exact (render_append_inj h h' endsType_nil endsType_nil hchars).1

/-! ## Texts of types -/

def IsTypeText (text : String) : Prop := ∃ t : TypeExpr, t.Plain ∧ t.render = text

theorem isTypeText_append_inj {text text' : String} {rest rest' : List Char}
    (h : IsTypeText text) (h' : IsTypeText text') (hrest : EndsType rest) (hrest' : EndsType rest')
    (hsame : text.toList ++ rest = text'.toList ++ rest') : text = text' ∧ rest = rest' := by
  obtain ⟨t, ht, rfl⟩ := h
  obtain ⟨t', ht', rfl⟩ := h'
  obtain ⟨rfl, hbehind⟩ := render_append_inj ht ht' hrest hrest' hsame
  exact ⟨rfl, hbehind⟩

end GirStubs.Lua.TypeExpr
