import GirStubs.Markup.Reference
import GirStubs.Proofs.Outcome
import Mathlib.Data.List.Infix

/-!
# Raw text and the text it stands for

`Unescaped` relates a raw text to the text it stands for: every reference in it, from its ampersand
to the next semicolon, is one character, and everything else stands for itself. The reader decides
this relation (`unescape_eq_ok_iff`). A raw text may be read in two parts when the cut leaves no
reference open (`Unescaped.split`).
-/

namespace GirStubs.Markup

open Text

inductive Unescaped : List Char → List Char → Prop where
  | nil : Unescaped [] []
  | plain {c : Char} {raw text : List Char} (hc : c ≠ '&') (hrest : Unescaped raw text) :
      Unescaped (c :: raw) (c :: text)
  | reference {name raw text : List Char} {c : Char} (hname : ∀ d ∈ name, d ≠ '&' ∧ d ≠ ';')
      (hc : ∀ first, referenced first name = .ok c) (hrest : Unescaped raw text) :
      Unescaped ('&' :: (name ++ ';' :: raw)) (c :: text)

section

variable {name raw text : List Char} {c : Char}

/-! ## The reader decides the relation -/

/-- The offset of a reference only goes into its fault. -/
theorem referenced_of_ok {first : Nat} (h : referenced first name = .ok c) (other : Nat) :
    referenced other name = .ok c := by
  unfold referenced at h ⊢
  split at h
  · exact h
  · split at h
    · exact h
    · cases h

theorem unescapeFrom_reference (h : ∀ c ∈ name, c ≠ '&' ∧ c ≠ ';')
    (start position : Nat) (seen rest : List Char) :
    ∃ position', unescapeFrom position (some (start, seen)) (name ++ ';' :: rest) =
      (referenced (start + 1) (seen.reverse ++ name) >>= fun c =>
        unescapeFrom position' none rest >>= fun text => pure (c :: text)) := by
  induction name generalizing seen position with
  | nil =>
    refine ⟨position + ';'.utf8Size, ?_⟩
    rw [List.nil_append, unescapeFrom, List.append_nil]
    rfl
  | cons c name ih =>
    rw [List.forall_mem_cons] at h
    obtain ⟨position', hname⟩ := ih h.2 (position + c.utf8Size) (c :: seen)
    refine ⟨position', ?_⟩
    rw [List.cons_append, unescapeFrom]
    simp only [if_neg h.1.1, if_neg h.1.2]
    rw [hname, List.reverse_cons, List.append_assoc, List.singleton_append]

theorem unescapeFrom_of_unescaped (h : Unescaped raw text) (position : Nat) :
    unescapeFrom position none raw = .ok text := by
  induction h generalizing position with
  | nil => rfl
  | @plain c raw text hc _ ih =>
    rw [unescapeFrom]
    simp only [if_neg hc, ih]
    rfl
  | @reference name raw text c hname hc _ ih =>
    obtain ⟨position', heq⟩ :=
      unescapeFrom_reference hname position (position + '&'.utf8Size) [] raw
    rw [unescapeFrom]
    simp only [if_true]
    rw [heq, List.reverse_nil, List.nil_append, hc, ih]
    rfl

/-- What a successful reading has met, outside a reference and behind `seen` inside one. -/
theorem unescaped_of_unescapeFrom (raw : List Char) :
    (∀ position text, unescapeFrom position none raw = .ok text → Unescaped raw text) ∧
    (∀ position start seen text, unescapeFrom position (some (start, seen)) raw = .ok text →
      ∃ name rest c behind, raw = name ++ ';' :: rest ∧ (∀ d ∈ name, d ≠ '&' ∧ d ≠ ';') ∧
        (∀ first, referenced first (seen.reverse ++ name) = .ok c) ∧ Unescaped rest behind ∧
        text = c :: behind) := by
  induction raw with
  | nil =>
    constructor
    · intro position text h
      cases h
      exact .nil
    · intro position start seen text h
      cases h
  | cons c raw ih =>
    obtain ⟨houtside, hinside⟩ := ih
    constructor
    · intro position text h
      rw [unescapeFrom] at h
      by_cases hc : c = '&'
      · simp only [if_pos hc] at h
        obtain ⟨name, rest, d, behind, rfl, hname, hd, hbehind, rfl⟩ := hinside _ _ _ _ h
        rw [hc]
        exact .reference hname hd hbehind
      · simp only [if_neg hc] at h
        obtain ⟨behind, hbehind, htext⟩ := bind_eq_ok_iff.mp h
        cases htext
        exact .plain hc (houtside _ _ hbehind)
    · intro position start seen text h
      rw [unescapeFrom] at h
      by_cases hc : c = '&'
      · simp only [if_pos hc] at h
        cases h
      by_cases hend : c = ';'
      · simp only [if_neg hc, if_pos hend] at h
        obtain ⟨d, hd, hrest⟩ := bind_eq_ok_iff.mp h
        obtain ⟨behind, hbehind, htext⟩ := bind_eq_ok_iff.mp hrest
        cases htext
        refine ⟨[], raw, d, behind, by rw [hend, List.nil_append], List.forall_mem_nil _, ?_,
          houtside _ _ hbehind, rfl⟩
        rw [List.append_nil]
        exact referenced_of_ok hd
      · simp only [if_neg hc, if_neg hend] at h
        obtain ⟨name, rest, d, behind, rfl, hname, hd, hbehind, rfl⟩ := hinside _ _ _ _ h
        refine ⟨c :: name, rest, d, behind, rfl, List.forall_mem_cons.mpr ⟨⟨hc, hend⟩, hname⟩, ?_,
          hbehind, rfl⟩
        rwa [List.reverse_cons, List.append_assoc] at hd

theorem unescape_eq_ok_iff : unescape raw = .ok text ↔ Unescaped raw text := by
  constructor
  · exact fun h => (unescaped_of_unescapeFrom raw).1 0 text h
  · exact fun h => unescapeFrom_of_unescaped h 0

end

/-! ## Cutting a raw text -/

/-- The text leaves no reference open: behind each of its ampersands there is a semicolon. -/
def EndsReferences (raw : List Char) : Prop :=
  ∀ behind ∈ raw.tails, behind.head? = some '&' → ';' ∈ behind

instance (raw : List Char) : Decidable (EndsReferences raw) :=
  inferInstanceAs (Decidable (∀ behind ∈ raw.tails, behind.head? = some '&' → ';' ∈ behind))

theorem EndsReferences.tail {c : Char} {raw : List Char} (h : EndsReferences (c :: raw)) :
    EndsReferences raw := by
  intro behind hbehind
  rw [List.mem_tails] at hbehind
  exact h behind ((List.mem_tails _ _).mpr (hbehind.trans (List.suffix_cons c raw)))

theorem EndsReferences.of_append {first second : List Char} (h : EndsReferences (first ++ second)) :
    EndsReferences second := by
  induction first with
  | nil => exact h
  | cons c first ih => exact ih h.tail

/-- A name that ends in the first part is whole there. -/
theorem name_append {name rest first second : List Char} (hname : ';' ∉ name)
    (h : first ++ second = name ++ ';' :: rest) (hfirst : ';' ∈ first) :
    ∃ behind, first = name ++ ';' :: behind ∧ rest = behind ++ second := by
  rcases List.append_eq_append_iff.mp h with ⟨more, rfl, _⟩ | ⟨more, rfl, hmore⟩
  · exact absurd (List.mem_append_left more hfirst) hname
  · cases more with
    | nil =>
      rw [List.append_nil] at hfirst
      exact absurd hfirst hname
    | cons d behind =>
      rw [List.cons_append, List.cons.injEq] at hmore
      rw [← hmore.1]
      exact ⟨behind, rfl, hmore.2⟩

theorem Unescaped.split {first second text : List Char} (h : Unescaped (first ++ second) text)
    (hends : EndsReferences first) :
    ∃ before behind, Unescaped first before ∧ Unescaped second behind ∧
      text = before ++ behind := by
  generalize hraw : first ++ second = raw at h
  induction h generalizing first with
  | nil =>
    obtain ⟨rfl, rfl⟩ := List.append_eq_nil_iff.mp hraw
    exact ⟨[], [], .nil, .nil, rfl⟩
  | @plain c raw text hc hrest ih =>
    cases first with
    | nil =>
      rw [List.nil_append] at hraw
      exact ⟨[], _, .nil, hraw ▸ .plain hc hrest, rfl⟩
    | cons d first =>
      rw [List.cons_append, List.cons.injEq] at hraw
      obtain ⟨rfl, hraw⟩ := hraw
      obtain ⟨before, behind, hbefore, hbehind, rfl⟩ := ih hends.tail hraw
      exact ⟨d :: before, behind, .plain hc hbefore, hbehind, rfl⟩
  | @reference name raw text c hname hc hrest ih =>
    cases first with
    | nil =>
      rw [List.nil_append] at hraw
      exact ⟨[], _, .nil, hraw ▸ .reference hname hc hrest, rfl⟩
    | cons d first =>
      rw [List.cons_append, List.cons.injEq] at hraw
      obtain ⟨rfl, hraw⟩ := hraw
      have hmem : ';' ∈ '&' :: first := hends _ ((List.mem_tails _ _).mpr List.suffix_rfl) rfl
      have hfirst : ';' ∈ first := (List.mem_cons.mp hmem).resolve_left (by decide)
      have hsemicolon : ';' ∉ name := fun hmem => (hname _ hmem).2 rfl
      obtain ⟨more, rfl, rfl⟩ := name_append hsemicolon hraw hfirst
      have hmore : EndsReferences (';' :: more) := hends.tail.of_append
      obtain ⟨before, behind, hbefore, hbehind, rfl⟩ := ih hmore.tail rfl
      exact ⟨c :: before, behind, .reference hname hc hbefore, hbehind, rfl⟩

end GirStubs.Markup
