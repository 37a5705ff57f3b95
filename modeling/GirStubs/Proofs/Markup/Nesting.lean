import GirStubs.Markup.Nesting

/-!
# Matched end tags

`Nested` leads through events whose end tags all name the innermost open element, from the
names that are open before them to those that are open behind them. The check keeps such
events and no others.
-/

namespace GirStubs.Markup

inductive Nested : List (List Char) → List Event → List (List Char) → Prop where
  | nil {opened : List (List Char)} : Nested opened [] opened
  | cons {opened next last : List (List Char)} {event : Event} {rest : List Event}
      (hopened : openedAfter opened event = .ok next) (hrest : Nested next rest last) :
      Nested opened (event :: rest) last

theorem Nested.append {opened next last : List (List Char)} {first second : List Event}
    (h : Nested opened first next) (h' : Nested next second last) :
    Nested opened (first ++ second) last := by
  induction h with
  | nil => exact h'
  | cons hopened _ ih => exact .cons hopened (ih h')

theorem Nested.split {opened last : List (List Char)} {first second : List Event}
    (h : Nested opened (first ++ second) last) :
    ∃ next, Nested opened first next ∧ Nested next second last := by
  induction first generalizing opened with
  | nil => exact ⟨opened, .nil, h⟩
  | cons event first ih =>
    rcases h with _ | ⟨hopened, hrest⟩
    obtain ⟨next, hfirst, hsecond⟩ := ih hrest
    exact ⟨next, .cons hopened hfirst, hsecond⟩

/-- Events that open and close nothing stand anywhere. -/
theorem nested_kept_iff {opened last : List (List Char)} {events : List Event}
    (h : ∀ event ∈ events, ∀ opened, openedAfter opened event = .ok opened) :
    Nested opened events last ↔ last = opened := by
  induction events with
  | nil =>
    constructor
    · rintro ⟨⟩
      rfl
    · rintro rfl
      exact .nil
  | cons event rest ih =>
    rw [List.forall_mem_cons] at h
    constructor
    · intro hnested
      rcases hnested with _ | ⟨hopened, hrest⟩
      cases (h.1 opened).symm.trans hopened
      exact (ih h.2).mp hrest
    · intro heq
      exact .cons (h.1 opened) ((ih h.2).mpr heq)

theorem nested_matchTags (opened : List (List Char)) (pieces : List Located)
    (ending : Except Refusal Nat) :
    ∃ last, Nested opened ((matchTags opened pieces ending).events.map Located.event) last := by
  induction pieces generalizing opened with
  | nil => exact ⟨opened, .nil⟩
  | cons piece rest ih =>
    unfold matchTags
    cases hopened : openedAfter opened piece.event with
    | error fault => exact ⟨opened, .nil⟩
    | ok next =>
      obtain ⟨last, hrest⟩ := ih next
      exact ⟨last, .cons hopened hrest⟩

theorem matchTags_of_nested {opened last : List (List Char)} {pieces : List Located}
    (h : Nested opened (pieces.map Located.event) last) (ending : Except Refusal Nat) :
    matchTags opened pieces ending = ⟨pieces, ending⟩ := by
  induction pieces generalizing opened with
  | nil => rfl
  | cons piece rest ih =>
    rcases h with _ | ⟨hopened, hrest⟩
    rw [matchTags, hopened]
    simp only [ih hrest]

/-- A check that comes to the end of the text has kept everything. -/
theorem matchTags_of_ending {opened : List (List Char)} {pieces : List Located}
    {ending : Except Refusal Nat} {stop : Nat}
    (h : (matchTags opened pieces ending).ending = .ok stop) :
    matchTags opened pieces ending = ⟨pieces, ending⟩ := by
  induction pieces generalizing opened with
  | nil => rfl
  | cons piece rest ih =>
    unfold matchTags at h ⊢
    cases hopened : openedAfter opened piece.event with
    | error fault =>
      rw [hopened] at h
      cases h
    | ok next =>
      rw [hopened] at h
      simp only [ih h]

end GirStubs.Markup
