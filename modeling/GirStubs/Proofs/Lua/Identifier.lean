import GirStubs.Lua.Identifier

/-!
# Names that can stand in a program

`IsSafe` holds of the names that no reader of a program takes for a keyword or a number.
`safeIdentifier` makes every name safe (`isSafe_safeIdentifier`), and none of them empty. It leaves
a safe name alone and marks every other one (`safeIdentifier_eq_iff`), so two names that come out
alike are a name and its marked form (`markedAs_of_safeIdentifier_eq`).
-/

namespace GirStubs.Lua

/-- No keyword, and no digit in front. -/
structure IsSafe (name : String) : Prop where
  not_keyword : name ∉ keywords
  not_digit : startsWithDigit name = false

/-- A keyword with the mark behind it is no keyword, and no keyword starts with a digit. -/
theorem isSafe_markedKeyword {name : String} (h : name ∈ keywords) : IsSafe (name ++ "__") := by
  have hall : ∀ name ∈ keywords, name ++ "__" ∉ keywords ∧
      startsWithDigit (name ++ "__") = false := by
    decide
  exact ⟨(hall name h).1, (hall name h).2⟩

/-- No keyword starts with the mark that stands before a digit. -/
theorem isSafe_markedDigit (name : String) : IsSafe ("__" ++ name) := by
  have hall : ∀ keyword ∈ keywords, keyword.toList.head? ≠ some '_' := by
    decide
  refine ⟨fun hmem => hall _ hmem ?_, ?_⟩
  · rw [String.toList_append]
    rfl
  · rw [startsWithDigit, String.toList_append]
    rfl

theorem isSafe_safeIdentifier (name : String) : IsSafe (safeIdentifier name) := by
  unfold safeIdentifier
  split
  · next h => exact isSafe_markedKeyword h
  split
  · exact isSafe_markedDigit name
  · next hkeyword hdigit => exact ⟨hkeyword, by simpa using hdigit⟩

theorem safeIdentifier_ne {name : String} (h : name ≠ "") : safeIdentifier name ≠ "" := by
  unfold safeIdentifier
  split
  · exact fun heq => h (String.append_eq_empty_iff.mp heq).1
  split
  · exact fun heq => h (String.append_eq_empty_iff.mp heq).2
  · exact h

/-! ## Marked names -/

/-- The second name is the first one with its mark. -/
def MarkedAs (name marked : String) : Prop :=
  name ∈ keywords ∧ marked = name ++ "__" ∨ startsWithDigit name ∧ marked = "__" ++ name

/-- The name looks like one with a mark. -/
def IsMarked (marked : String) : Prop := ∃ name, MarkedAs name marked

theorem isMarked_iff {marked : String} :
    IsMarked marked ↔
      (∃ keyword ∈ keywords, marked = keyword ++ "__") ∨
        "__".toList <+: marked.toList ∧ startsWithDigit (String.ofList (marked.toList.drop 2)) := by
  constructor
  · rintro ⟨name, ⟨hname, rfl⟩ | ⟨hname, rfl⟩⟩
    · exact Or.inl ⟨name, hname, rfl⟩
    · refine Or.inr ?_
      rw [String.toList_append]
      exact ⟨List.prefix_append _ _, by simpa using hname⟩
  · rintro (⟨keyword, hkeyword, rfl⟩ | ⟨⟨rest, hrest⟩, hdigit⟩)
    · exact ⟨keyword, Or.inl ⟨hkeyword, rfl⟩⟩
    · have hmarked : marked = "__" ++ String.ofList rest := by
        simp [← String.toList_inj, ← hrest]
      rw [← hrest] at hdigit
      exact ⟨String.ofList rest, Or.inr ⟨by simpa using hdigit, hmarked⟩⟩

instance (marked : String) : Decidable (IsMarked marked) := decidable_of_iff' _ isMarked_iff

/-- A safe name stays as it is, and every other one gets its mark. -/
theorem safeIdentifier_eq_iff {name result : String} :
    safeIdentifier name = result ↔ IsSafe name ∧ result = name ∨ MarkedAs name result := by
  unfold safeIdentifier MarkedAs
  by_cases hkeyword : name ∈ keywords
  · have hplain : ∀ keyword ∈ keywords, startsWithDigit keyword = false := by
      decide
    have hsafe : ¬IsSafe name := fun h => h.not_keyword hkeyword
    simp [hkeyword, hplain name hkeyword, hsafe, eq_comm]
  · by_cases hdigit : startsWithDigit name
    · have hsafe : ¬IsSafe name := fun h => by simp [h.not_digit] at hdigit
      simp [hkeyword, hdigit, hsafe, eq_comm]
    · have hsafe : IsSafe name := ⟨hkeyword, by simpa using hdigit⟩
      simp [hkeyword, hdigit, hsafe, eq_comm]

theorem safeIdentifier_of_isSafe {name : String} (h : IsSafe name) : safeIdentifier name = name :=
  safeIdentifier_eq_iff.mpr (Or.inl ⟨h, rfl⟩)

/-- The names that can stand in a program are those that come out as they were. -/
theorem safeIdentifier_eq_self_iff {name : String} : safeIdentifier name = name ↔ IsSafe name :=
  ⟨fun hsame => hsame ▸ isSafe_safeIdentifier name, safeIdentifier_of_isSafe⟩

theorem safeIdentifier_idem (name : String) :
    safeIdentifier (safeIdentifier name) = safeIdentifier name :=
  safeIdentifier_of_isSafe (isSafe_safeIdentifier name)

/-- What looks like no marked name comes from itself alone. -/
theorem safeIdentifier_eq_iff_of_not_isMarked {name result : String} (hsafe : IsSafe result)
    (h : ¬IsMarked result) : safeIdentifier name = result ↔ name = result := by
  constructor
  · intro heq
    obtain ⟨-, rfl⟩ | hmarked := safeIdentifier_eq_iff.mp heq
    · rfl
    · exact absurd ⟨name, hmarked⟩ h
  · rintro rfl
    exact safeIdentifier_of_isSafe hsafe

/-- A keyword is marked behind, a number in front, so one is not marked like the other. -/
theorem markedKeyword_ne {keyword : String} (h : keyword ∈ keywords) (number : String) :
    keyword ++ "__" ≠ "__" ++ number := by
  have hall : ∀ keyword ∈ keywords, (keyword ++ "__").toList.head? ≠ some '_' := by
    decide
  intro heq
  refine hall keyword h ?_
  rw [heq, String.toList_append]
  rfl

theorem MarkedAs.inj {name other marked : String} (h : MarkedAs name marked)
    (hother : MarkedAs other marked) : name = other := by
  obtain ⟨hname, rfl⟩ | ⟨-, rfl⟩ := h
  · obtain ⟨-, heq⟩ | ⟨-, heq⟩ := hother
    · exact String.append_left_inj _ |>.mp heq
    · exact absurd heq (markedKeyword_ne hname other)
  · obtain ⟨hkeyword, heq⟩ | ⟨-, heq⟩ := hother
    · exact absurd heq.symm (markedKeyword_ne hkeyword name)
    · exact String.append_right_inj _ |>.mp heq

/-- **Names that come out alike** are equal, or one is the other with its mark. -/
theorem markedAs_of_safeIdentifier_eq {name other : String}
    (h : safeIdentifier name = safeIdentifier other) :
    name = other ∨ MarkedAs name other ∨ MarkedAs other name := by
  obtain ⟨-, hsame⟩ | hmarked := safeIdentifier_eq_iff.mp h
  · obtain ⟨-, rfl⟩ | hmarked := safeIdentifier_eq_iff.mp hsame
    · exact Or.inl rfl
    · exact Or.inr (Or.inr hmarked)
  · obtain ⟨-, hsame⟩ | hother := safeIdentifier_eq_iff.mp (rfl : safeIdentifier other = _)
    · exact Or.inr (Or.inl (hsame ▸ hmarked))
    · exact Or.inl (hmarked.inj hother)

theorem MarkedAs.safeIdentifier_eq {name marked : String} (h : MarkedAs name marked) :
    safeIdentifier name = safeIdentifier marked := by
  have hname : safeIdentifier name = marked := safeIdentifier_eq_iff.mpr (Or.inr h)
  rw [← safeIdentifier_idem, hname]

/-- Two names come out alike just when one is the other with its mark. -/
theorem safeIdentifier_eq_safeIdentifier_iff {name other : String} (hne : name ≠ other) :
    safeIdentifier name = safeIdentifier other ↔ MarkedAs name other ∨ MarkedAs other name := by
  constructor
  · exact fun h => (markedAs_of_safeIdentifier_eq h).resolve_left hne
  · rintro (hmarked | hmarked)
    · exact hmarked.safeIdentifier_eq
    · exact hmarked.safeIdentifier_eq.symm

theorem safeIdentifier_inj {name other : String} (hname : ¬IsMarked name) (hother : ¬IsMarked other)
    (h : safeIdentifier name = safeIdentifier other) : name = other := by
  obtain hsame | hmarked | hmarked := markedAs_of_safeIdentifier_eq h
  · exact hsame
  · exact absurd ⟨name, hmarked⟩ hother
  · exact absurd ⟨other, hmarked⟩ hname

end GirStubs.Lua
