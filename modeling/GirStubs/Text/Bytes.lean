/-! # Bytes

How many bytes a text takes in UTF-8. Offsets into a document are counted in
bytes, so the offset behind a part of it is the size of what stands before.
-/

namespace GirStubs.Text

/-- The number of bytes of a text in UTF-8. -/
def byteSize : List Char → Nat
  | [] => 0
  | c :: rest => c.utf8Size + byteSize rest

@[simp]
theorem byteSize_nil : byteSize [] = 0 := rfl

@[simp]
theorem byteSize_cons (c : Char) (rest : List Char) :
    byteSize (c :: rest) = c.utf8Size + byteSize rest := rfl

@[simp]
theorem byteSize_append (first second : List Char) :
    byteSize (first ++ second) = byteSize first + byteSize second := by
  induction first with
  | nil => rw [List.nil_append, byteSize_nil, Nat.zero_add]
  | cons c rest ih => rw [List.cons_append, byteSize_cons, ih, byteSize_cons, Nat.add_assoc]

@[simp]
theorem byteSize_reverse (text : List Char) : byteSize text.reverse = byteSize text := by
  induction text with
  | nil => rfl
  | cons c rest ih => simp [ih, Nat.add_comm]

theorem byteSize_eq_zero {text : List Char} (h : byteSize text = 0) : text = [] := by
  cases text with
  | nil => rfl
  | cons c rest =>
    have hsize := Char.utf8Size_pos c
    rw [byteSize_cons] at h
    omega

/-- Two starts of one text are told apart by their sizes. -/
theorem eq_of_byteSize_eq {first second rest more : List Char} (h : first ++ rest = second ++ more)
    (hsize : byteSize first = byteSize second) : first = second := by
  rcases List.append_eq_append_iff.mp h with ⟨between, rfl, -⟩ | ⟨between, rfl, -⟩
  · rw [byteSize_append] at hsize
    have hnil : between = [] := byteSize_eq_zero (by omega)
    rw [hnil, List.append_nil]
  · rw [byteSize_append] at hsize
    have hnil : between = [] := byteSize_eq_zero (by omega)
    rw [hnil, List.append_nil]

theorem utf8ByteSize_ofList (text : List Char) :
    (String.ofList text).utf8ByteSize = byteSize text := by
  induction text with
  | nil => rfl
  | cons c rest ih =>
    rw [String.ofList_cons, String.utf8ByteSize_append, String.utf8ByteSize_singleton, ih,
      byteSize_cons]

/-- The valid positions of a text are the sizes of its starts. -/
theorem isValid_ofList_iff {text : List Char} {offset : Nat} :
    String.Pos.Raw.IsValid (String.ofList text) ⟨offset⟩ ↔
      ∃ before behind, text = before ++ behind ∧ byteSize before = offset := by
  rw [String.Pos.Raw.isValid_ofList]
  simp only [utf8ByteSize_ofList]
  constructor
  · rintro ⟨i, hi⟩
    exact ⟨text.take i, text.drop i, (List.take_append_drop i text).symm, hi.symm⟩
  · rintro ⟨before, behind, rfl, hsize⟩
    refine ⟨before.length, ?_⟩
    rw [List.take_left, hsize]

end GirStubs.Text
