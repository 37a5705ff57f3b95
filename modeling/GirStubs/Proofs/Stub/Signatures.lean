import GirStubs.Proofs.Lua.Statement
import GirStubs.Proofs.Lua.TypeExpr
import GirStubs.Stub.Render

/-!
# Reading signatures back

The function type of a callback holds its parameters and its result, and nothing else of it
(`signature_inj`). A type may hold commas and colons of its own, so a signature is not read by
cutting it at its commas. Each parameter is read from the left to the comma or the parenthesis that
ends its type, and `closing` is what then stands behind it.
-/

namespace GirStubs.Stub

open Api
open Lua (IsWord TypeExpr)
open Lua.TypeExpr

/-- What a signature says of a parameter. -/
def shape (p : Parameter) : String × Bool × String := (p.name, p.nilable, p.type.render)

/-- The parameter is written with a word and a type over plain leaves. -/
structure Readable (p : Parameter) : Prop where
  word : IsWord p.name
  type : IsTypeText p.type.render

/-- The result as it stands behind the parenthesis. -/
def resultText (result : Option TypeExpr) : String :=
  match result with
  | some type => ": " ++ type.render
  | none => ""

/-- What stands behind a parameter: the further ones and the result. -/
def closing (result : Option TypeExpr) : List Parameter → List Char
  | [] => ')' :: (resultText result).toList
  | p :: rest => ',' :: ' ' :: ((typedName p).toList ++ closing result rest)

/-- What stands behind the opening parenthesis. -/
def opening (result : Option TypeExpr) : List Parameter → List Char
  | [] => ')' :: (resultText result).toList
  | p :: rest => (typedName p).toList ++ closing result rest

section Closing

variable {p p' : Parameter} {rest rest' : List Char} {result result' : Option TypeExpr}

theorem endsType_closing (result : Option TypeExpr) (list : List Parameter) :
    EndsType (closing result list) := by
  cases list with
  | nil => exact endsType_cons (by decide)
  | cons p rest => exact endsType_cons (by decide)

theorem commas_append_opening (result : Option TypeExpr) (list : List Parameter) :
    (commas (list.map typedName)).toList ++ ')' :: (resultText result).toList =
      opening result list := by
  induction list with
  | nil => simp [commas, opening]
  | cons p list ih =>
    cases list with
    | nil => simp [commas, opening, closing]
    | cons next list =>
      have hcommas : commas ((p :: next :: list).map typedName) =
          typedName p ++ ", " ++ commas ((next :: list).map typedName) :=
        String.intercalate_cons_of_ne_nil (List.cons_ne_nil _ _)
      rw [hcommas, String.toList_append, List.append_assoc, ih]
      simp [opening, closing]

theorem signature_toList (c : Callback) :
    (signature c).toList = "fun(".toList ++ opening c.result c.parameters := by
  have htext : signature c =
      "fun(" ++ commas (c.parameters.map typedName) ++ ")" ++ resultText c.result := rfl
  rw [htext, ← commas_append_opening]
  simp

theorem endsWord_nilMark (nilable : Bool) (behind : List Char) :
    ∀ c ∈ ((nilMark nilable).toList ++ ':' :: behind).head?, Lua.Comment.isNameChar c = false := by
  intro c hc
  cases nilable with
  | false =>
    obtain rfl : ':' = c := by simpa [nilMark] using hc
    decide
  | true =>
    obtain rfl : '?' = c := by simpa [nilMark] using hc
    decide

theorem nilMark_append_inj {nilable nilable' : Bool}
    (h : (nilMark nilable).toList ++ ':' :: rest = (nilMark nilable').toList ++ ':' :: rest') :
    nilable = nilable' ∧ rest = rest' := by
  cases nilable with
  | false =>
    cases nilable' with
    | false => exact ⟨rfl, (List.cons.inj h).2⟩
    | true => cases h
  | true =>
    cases nilable' with
    | false => cases h
    | true => exact ⟨rfl, (List.cons.inj (List.cons.inj h).2).2⟩

theorem typedName_append (p : Parameter) (rest : List Char) :
    (typedName p).toList ++ rest =
      p.name.toList ++ ((nilMark p.nilable).toList ++ ':' :: ' ' ::
        (p.type.render.toList ++ rest)) := by
  simp [typedName]

theorem typedName_append_inj (h : Readable p) (h' : Readable p') (hrest : EndsType rest)
    (hrest' : EndsType rest')
    (hsame : (typedName p).toList ++ rest = (typedName p').toList ++ rest') :
    shape p = shape p' ∧ rest = rest' := by
  rw [typedName_append, typedName_append] at hsame
  obtain ⟨hname, hmark⟩ := run_append_inj h.word.2 h'.word.2 (endsWord_nilMark _ _)
    (endsWord_nilMark _ _) hsame
  obtain ⟨hnilable, htype⟩ := nilMark_append_inj hmark
  obtain ⟨htext, hbehind⟩ :=
    isTypeText_append_inj h.type h'.type hrest hrest' (List.cons.inj htype).2
  rw [shape, shape, String.toList_inj.mp hname, hnilable, htext]
  exact ⟨rfl, hbehind⟩

theorem resultText_inj (h : resultText result = resultText result') :
    result.map render = result'.map render := by
  cases result with
  | none =>
    cases result' with
    | none => rfl
    | some type => exact absurd (congrArg String.toList h) (by simp [resultText])
  | some type =>
    cases result' with
    | none => exact absurd (congrArg String.toList h) (by simp [resultText])
    | some type' => simpa [resultText] using h

theorem closing_inj {list list' : List Parameter} (h : ∀ p ∈ list, Readable p)
    (h' : ∀ p ∈ list', Readable p)
    (hsame : closing result list = closing result' list') :
    list.map shape = list'.map shape ∧ resultText result = resultText result' := by
  induction list generalizing list' with
  | nil =>
    cases list' with
    | nil => exact ⟨rfl, String.toList_inj.mp (List.cons.inj hsame).2⟩
    | cons p' rest' => cases hsame
  | cons p rest ih =>
    cases list' with
    | nil => cases hsame
    | cons p' rest' =>
      obtain ⟨hp, hrest⟩ := List.forall_mem_cons.mp h
      obtain ⟨hp', hrest'⟩ := List.forall_mem_cons.mp h'
      obtain ⟨hshape, hbehind⟩ := typedName_append_inj hp hp' (endsType_closing result rest)
        (endsType_closing result' rest') (List.cons.inj (List.cons.inj hsame).2).2
      obtain ⟨hlist, hresult⟩ := ih hrest hrest' hbehind
      rw [List.map_cons, List.map_cons, hshape, hlist]
      exact ⟨rfl, hresult⟩

theorem typedName_append_ne (h : Readable p) : (typedName p).toList ++ rest ≠ ')' :: rest' := by
  intro hsame
  have hend : ∀ c ∈ (')' :: rest').head?, Lua.Comment.isNameChar c = false := by
    intro c hc
    obtain rfl : ')' = c := by simpa using hc
    decide
  have hsplit : p.name.toList ++ _ = [] ++ ')' :: rest' :=
    (typedName_append p rest).symm.trans hsame
  -- Before the parenthesis is an empty run of word characters, and a word is not empty.
  obtain ⟨hname, -⟩ :=
    run_append_inj h.word.2 (List.forall_mem_nil _) (endsWord_nilMark _ _) hend hsplit
  exact h.word.1 (String.toList_eq_nil_iff.mp hname)

theorem opening_inj {list list' : List Parameter} (h : ∀ p ∈ list, Readable p)
    (h' : ∀ p ∈ list', Readable p)
    (hsame : opening result list = opening result' list') :
    list.map shape = list'.map shape ∧ resultText result = resultText result' := by
  cases list with
  | nil =>
    cases list' with
    | nil => exact ⟨rfl, String.toList_inj.mp (List.cons.inj hsame).2⟩
    | cons p' rest' => exact (typedName_append_ne (h' p' List.mem_cons_self) hsame.symm).elim
  | cons p rest =>
    cases list' with
    | nil => exact (typedName_append_ne (h p List.mem_cons_self) hsame).elim
    | cons p' rest' =>
      -- Behind a comma stands what stands behind the opening parenthesis.
      exact closing_inj h h' (congrArg (fun behind => ',' :: ' ' :: behind) hsame)

end Closing

/-- **Signatures are read back**: two callbacks with one signature have the same parameters, each
with its name, its mark and its type, and the same result; and a type over plain leaves is the only
one with its text. -/
theorem signature_inj :
    (∀ c c' : Callback, (∀ p ∈ c.parameters, Readable p) → (∀ p ∈ c'.parameters, Readable p) →
      signature c = signature c' →
      c.parameters.map shape = c'.parameters.map shape ∧
        c.result.map render = c'.result.map render) ∧
    ∀ t t' : TypeExpr, t.Plain → t'.Plain → t.render = t'.render → t = t' := by
  refine ⟨?_, fun t t' => render_inj⟩
  intro c c' h h' hsame
  have hchars := congrArg String.toList hsame
  rw [signature_toList, signature_toList] at hchars
  obtain ⟨hlist, hresult⟩ := opening_inj h h' (List.append_cancel_left hchars)
  exact ⟨hlist, resultText_inj hresult⟩

/-- A callback over a table with arrays in it. -/
def fileListing : Callback where
  name := "Listing"
  parameters :=
    [⟨"files", .table (.name "string") (.array (.name "Gio.File")), true, "The files."⟩,
      ⟨"done", .name "(boolean|nil)", false, ""⟩]
  result := some (.array (.name "integer"))
  home := "Gtk"

/-- The same signature with the types given by their texts. -/
def spelledListing : Callback where
  name := "Spelled"
  parameters :=
    [⟨"files", .name "table<string, Gio.File[]>", true, ""⟩,
      ⟨"done", .name "(boolean|nil)", false, ""⟩]
  result := some (.name "integer[]")
  home := "Gio"

theorem readable_fileListing : ∀ p ∈ fileListing.parameters, Readable p := by
  refine List.forall_mem_cons.mpr ⟨⟨by decide, ?_⟩, List.forall_mem_singleton.mpr ⟨by decide, ?_⟩⟩
  · exact ⟨_, by decide, rfl⟩
  · exact ⟨_, by decide, rfl⟩

theorem readable_spelledListing : ∀ p ∈ spelledListing.parameters, Readable p := by
  refine List.forall_mem_cons.mpr ⟨⟨by decide, ?_⟩, List.forall_mem_singleton.mpr ⟨by decide, ?_⟩⟩
  · exact ⟨.table (.name "string") (.array (.name "Gio.File")), by decide, by decide⟩
  · exact ⟨.name "(boolean|nil)", by decide, rfl⟩

theorem signature_inj_fileListing :
    signature fileListing =
        "fun(files?: table<string, Gio.File[]>, done: (boolean|nil)): integer[]" ∧
      signature fileListing = signature spelledListing ∧
      (fileListing.parameters.map shape = spelledListing.parameters.map shape ∧
        fileListing.result.map render = spelledListing.result.map render) ∧
      TypeExpr.array (.name "integer") = arrays 1 (.name "integer") :=
  have hsame : signature fileListing = signature spelledListing := by decide
  have hplain : (TypeExpr.array (.name "integer")).Plain := by decide
  ⟨by decide, hsame, signature_inj.1 _ _ readable_fileListing readable_spelledListing hsame,
    signature_inj.2 _ _ hplain hplain rfl⟩

end GirStubs.Stub
