import GirStubs.Gir.Identifier
import Mathlib.Data.List.TakeWhile

/-!
# The grammar of document identifiers

An identifier is written as a namespace, a hyphen and a version. The hyphen is no word character,
so it ends the namespace wherever one can be read, and a text is read exactly when it is written
that way (`parse?_eq_some_iff`).
-/

namespace GirStubs.Gir.Identifier

open Unicode

/-- The two parts of an identifier, each of its own characters and neither empty. -/
structure WellFormed (i : Identifier) : Prop where
  home_ne : i.home ≠ ""
  isWordCharacter_of_mem : ∀ c ∈ i.home.toList, isWordCharacter c
  version_ne : i.version ≠ ""
  isVersionChar_of_mem : ∀ c ∈ i.version.toList, isVersionChar c

theorem WellFormed.hyphen_not_mem {i : Identifier} (h : i.WellFormed) : '-' ∉ i.home.toList :=
  fun hmem => absurd (h.isWordCharacter_of_mem '-' hmem) (by decide +kernel)

theorem toList_render (i : Identifier) :
    i.render.toList = i.home.toList ++ '-' :: i.version.toList := by
  simp [render]

/-- The two halves of a text around its first hyphen. -/
theorem halves {home : List Char} (h : '-' ∉ home) (version : List Char) :
    (home ++ '-' :: version).takeWhile (· ≠ '-') = home ∧
      ((home ++ '-' :: version).dropWhile (· ≠ '-')).drop 1 = version := by
  have hall : ∀ c ∈ home, decide (c ≠ '-') = true := by
    intro c hc
    exact decide_eq_true fun heq => h (heq ▸ hc)
  refine ⟨?_, ?_⟩
  · rw [List.takeWhile_append_of_pos hall, List.takeWhile_cons_of_neg (by simp), List.append_nil]
  · rw [List.dropWhile_append_of_pos hall, List.dropWhile_cons_of_neg (by simp),
      List.drop_succ_cons, List.drop_zero]

/-- A text with something behind its first hyphen is its two halves with the hyphen between. -/
theorem join_halves {text : List Char} (h : (text.dropWhile (· ≠ '-')).drop 1 ≠ []) :
    text.takeWhile (· ≠ '-') ++ '-' :: (text.dropWhile (· ≠ '-')).drop 1 = text := by
  have hne : text.dropWhile (· ≠ '-') ≠ [] := by
    intro hnil
    rw [hnil] at h
    exact h rfl
  obtain ⟨c, rest, hrest⟩ := List.exists_cons_of_ne_nil hne
  have hc : c = '-' := by
    have hhead := List.head?_dropWhile_not (fun d => decide (d ≠ '-')) text
    rw [hrest] at hhead
    simpa using hhead
  calc text.takeWhile (· ≠ '-') ++ '-' :: (text.dropWhile (· ≠ '-')).drop 1
      = text.takeWhile (· ≠ '-') ++ text.dropWhile (· ≠ '-') := by
        rw [hrest, List.drop_succ_cons, List.drop_zero, hc]
    _ = text := List.takeWhile_append_dropWhile

theorem parse?_render {i : Identifier} (h : i.WellFormed) : parse? i.render = some i := by
  obtain ⟨hhome, hversion⟩ := halves h.hyphen_not_mem i.version.toList
  have hhomeNe : i.home.toList ≠ [] := fun heq => h.home_ne (String.toList_eq_nil_iff.mp heq)
  have hversionNe : i.version.toList ≠ [] := fun heq =>
    h.version_ne (String.toList_eq_nil_iff.mp heq)
  unfold parse?
  simp only [toList_render, hhome, hversion, List.all_eq_true]
  rw [if_pos ⟨hhomeNe, h.isWordCharacter_of_mem, hversionNe, h.isVersionChar_of_mem⟩,
    String.ofList_toList, String.ofList_toList]

theorem of_parse? {text : String} {i : Identifier} (h : parse? text = some i) :
    i.WellFormed ∧ i.render = text := by
  unfold parse? at h
  dsimp only at h
  split at h
  · next hparts =>
    obtain ⟨hhome, hword, hversion, hchars⟩ := hparts
    cases h
    rw [List.all_eq_true] at hword hchars
    refine ⟨⟨?_, ?_, ?_, ?_⟩, ?_⟩
    · exact fun heq => hhome (String.ofList_eq_empty_iff.mp heq)
    · rwa [String.toList_ofList]
    · exact fun heq => hversion (String.ofList_eq_empty_iff.mp heq)
    · rwa [String.toList_ofList]
    · rw [← String.toList_inj, toList_render, String.toList_ofList, String.toList_ofList]
      exact join_halves hversion
  · cases h

theorem parse?_eq_some_iff {text : String} {i : Identifier} :
    parse? text = some i ↔ i.WellFormed ∧ i.render = text := by
  constructor
  · exact of_parse?
  · rintro ⟨h, rfl⟩
    exact parse?_render h

theorem parse?_eq_none_iff {text : String} :
    parse? text = none ↔ ∀ i : Identifier, i.WellFormed → i.render ≠ text := by
  rw [Option.eq_none_iff_forall_not_mem]
  constructor
  · intro h i hi heq
    exact h i (parse?_eq_some_iff.mpr ⟨hi, heq⟩)
  · intro h i hmem
    obtain ⟨hi, heq⟩ := of_parse? hmem
    exact h i hi heq

end GirStubs.Gir.Identifier
