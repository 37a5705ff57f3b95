import GirStubs.Unicode.Lowercase

/-!
# Characters without a capital

Most marks are the lower case of no letter. Such a character is not brought in when a text is
mapped to lower case (`not_mem_lowercase`), whatever the text holds.
-/

namespace GirStubs.Unicode

/-- The character is the lower case of no other one. -/
def HasNoCapital (c : Char) : Prop :=
  c ∉ ['\x00', 'i', Char.ofNat 0x307, 'ς', 'σ'] ∧
    ∀ r ∈ lowercaseRuns, ¬(r.2.2.2 ≤ c.toNat ∧ c.toNat ≤ r.2.2.2 + (r.2.1 - r.1))

instance (c : Char) : Decidable (HasNoCapital c) := inferInstanceAs (Decidable (_ ∧ _))

/-- A number that stands for no character reads as the first of them all. -/
theorem toNat_eq_of_ofNat_eq {n : Nat} {c : Char} (hc : c ≠ '\x00') (h : c = Char.ofNat n) :
    c.toNat = n := by
  by_cases hvalid : n.isValidChar
  · rw [h, Char.ofNat, dif_pos hvalid]
    rfl
  · rw [Char.ofNat, dif_neg hvalid] at h
    exact absurd h hc

variable {c : Char} (hc : HasNoCapital c)

include hc in
theorem HasNoCapital.ne :
    c ≠ '\x00' ∧ c ≠ 'i' ∧ c ≠ Char.ofNat 0x307 ∧ c ≠ 'ς' ∧ c ≠ 'σ' := by
  simpa [not_or] using hc.1

include hc in
theorem not_mem_lowercaseChar {d : Char} (h : c ≠ d) : c ∉ lowercaseChar d := by
  obtain ⟨hzero, hi, hdot, -, -⟩ := hc.ne
  unfold lowercaseChar
  split
  · simp only [List.mem_cons, List.not_mem_nil, or_false, not_or]
    exact ⟨hi, hdot⟩
  · split
    · next r hr =>
      have hrange := List.find?_some hr
      rw [decide_eq_true_eq] at hrange
      rw [List.mem_singleton]
      intro hsame
      have hnumber := toNat_eq_of_ofNat_eq hzero hsame
      exact hc.2 r (List.mem_of_find?_eq_some hr) (by omega)
    · rwa [List.mem_singleton]

include hc in
theorem not_mem_lowercaseAfter {text : List Char} (h : c ∉ text) (before : List Char) :
    c ∉ lowercaseAfter before text := by
  obtain ⟨-, -, -, hfinal, hsigma⟩ := hc.ne
  induction text generalizing before with
  | nil => exact List.not_mem_nil
  | cons d rest ih =>
    rw [List.mem_cons, not_or] at h
    rw [lowercaseAfter, List.mem_append, not_or]
    refine ⟨?_, ih h.2 (d :: before)⟩
    split
    · rw [List.mem_singleton]
      split
      · exact hfinal
      · exact hsigma
    · exact not_mem_lowercaseChar hc h.1

include hc in
theorem not_mem_lowercase {text : List Char} (h : c ∉ text) : c ∉ lowercase text :=
  not_mem_lowercaseAfter hc h []

end GirStubs.Unicode
