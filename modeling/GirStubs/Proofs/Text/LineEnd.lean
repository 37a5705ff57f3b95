import GirStubs.Proofs.Text.Pairs
import GirStubs.Text.LineEnd

/-!
# Spellings of line ends

`Respelled` spells each line feed of a text in one of three ways, each on its own. The one
combination it leaves out is a carriage return in front of a line feed that is a line end of its
own, since the two would be read as one. Reading takes every spelling back, and the texts that are
read as a given one are exactly its respellings (`respelled_iff`). It makes no difference whether
the text is read once from left to right or rewritten twice, first the pairs and then the single
carriage returns (`unifyLineEnds_eq_replaceAll`).
-/

namespace GirStubs.Text

inductive Respelled : List Char → List Char → Prop where
  | nil : Respelled [] []
  | keep {c : Char} {text respelled : List Char} (hc : c ≠ '\n') (hrest : Respelled text respelled) :
      Respelled (c :: text) (c :: respelled)
  | feed {text respelled : List Char} (hrest : Respelled text respelled) :
      Respelled ('\n' :: text) ('\n' :: respelled)
  | pair {text respelled : List Char} (hrest : Respelled text respelled) :
      Respelled ('\n' :: text) ('\r' :: '\n' :: respelled)
  | single {text respelled : List Char} (hrest : Respelled text respelled)
      (hnext : respelled.head? ≠ some '\n') :
      Respelled ('\n' :: text) ('\r' :: respelled)

section

variable {c : Char} {rest : List Char}

theorem unifyLineEnds_cons (hc : c ≠ '\r') :
    unifyLineEnds (c :: rest) = c :: unifyLineEnds rest := by
  rw [unifyLineEnds]
  · intro behind heq
    exact absurd heq hc
  · exact hc

theorem unifyLineEnds_single (hrest : rest.head? ≠ some '\n') :
    unifyLineEnds ('\r' :: rest) = '\n' :: unifyLineEnds rest := by
  rw [unifyLineEnds]
  intro behind heq
  rw [heq] at hrest
  exact hrest rfl

end

theorem unifyLineEnds_of_respelled {text respelled : List Char} (h : Respelled text respelled)
    (hplain : '\r' ∉ text) : unifyLineEnds respelled = text := by
  induction h with
  | nil => rfl
  | keep hc _ ih =>
    rw [List.mem_cons, not_or] at hplain
    rw [unifyLineEnds_cons (Ne.symm hplain.1), ih hplain.2]
  | feed _ ih =>
    rw [List.mem_cons, not_or] at hplain
    rw [unifyLineEnds_cons (by decide), ih hplain.2]
  | pair _ ih =>
    rw [List.mem_cons, not_or] at hplain
    rw [unifyLineEnds, ih hplain.2]
  | single _ hnext ih =>
    rw [List.mem_cons, not_or] at hplain
    rw [unifyLineEnds_single hnext, ih hplain.2]

/-- Every text is a respelling of what is read of it. -/
theorem respelled_unifyLineEnds (text : List Char) : Respelled (unifyLineEnds text) text := by
  fun_induction unifyLineEnds text with
  | case1 => exact .nil
  | case2 rest ih => exact .pair ih
  | case3 rest hnext ih =>
    refine .single ih fun hhead => ?_
    obtain ⟨behind, heq⟩ := List.head?_eq_some_iff.mp hhead
    exact hnext behind heq
  | case4 c rest _ hc ih =>
    by_cases hfeed : c = '\n'
    · subst hfeed
      exact .feed ih
    · exact .keep hfeed ih

theorem respelled_iff {text respelled : List Char} (hplain : '\r' ∉ text) :
    Respelled text respelled ↔ unifyLineEnds respelled = text := by
  constructor
  · exact fun h => unifyLineEnds_of_respelled h hplain
  · rintro rfl
    exact respelled_unifyLineEnds respelled

theorem mem_of_mem_unifyLineEnds {c : Char} {text : List Char} (h : c ∈ unifyLineEnds text)
    (hc : c ≠ '\n') : c ∈ text := by
  fun_induction unifyLineEnds text with
  | case1 => exact h
  | case2 rest ih =>
    have hrest := (List.mem_cons.mp h).resolve_left hc
    exact List.mem_cons_of_mem _ (List.mem_cons_of_mem _ (ih hrest))
  | case3 rest _ ih =>
    have hrest := (List.mem_cons.mp h).resolve_left hc
    exact List.mem_cons_of_mem _ (ih hrest)
  | case4 d rest _ _ ih =>
    rcases List.mem_cons.mp h with rfl | hrest
    · exact List.mem_cons_self
    · exact List.mem_cons_of_mem _ (ih hrest)

/-- Line ends are read on either side of a cut that does not take a pair of characters apart. -/
theorem unifyLineEnds_append (first : List Char) {second : List Char}
    (h : second.head? ≠ some '\n') :
    unifyLineEnds (first ++ second) = unifyLineEnds first ++ unifyLineEnds second := by
  fun_induction unifyLineEnds first with
  | case1 => rfl
  | case2 rest ih =>
    rw [List.cons_append, List.cons_append, unifyLineEnds, ih, List.cons_append]
  | case3 rest hnext ih =>
    have hhead : (rest ++ second).head? ≠ some '\n' := by
      cases rest with
      | nil => exact h
      | cons c behind =>
        intro hfeed
        exact hnext behind (congrArg (· :: behind) (Option.some.inj hfeed))
    rw [List.cons_append, unifyLineEnds_single hhead, ih, List.cons_append]
  | case4 c rest _ hc ih => rw [List.cons_append, unifyLineEnds_cons hc, ih, List.cons_append]

/-! ## Two rewritings -/

theorem replaceAll_pair_cons {c : Char} {rest : List Char}
    (h : ∀ behind, c = '\r' → rest ≠ '\n' :: behind) :
    replaceAll ['\r', '\n'] ['\n'] (c :: rest) = c :: replaceAll ['\r', '\n'] ['\n'] rest := by
  refine rewrite_cons_none (literal_pair_eq_none_iff.mpr fun hpair => ?_)
  obtain ⟨behind, hbehind⟩ := List.head?_eq_some_iff.mp hpair.2
  exact h behind hpair.1 hbehind

/-- Reading line ends is replacing the pairs first and the single carriage returns then. -/
theorem unifyLineEnds_eq_replaceAll (text : List Char) :
    unifyLineEnds text = replaceAll ['\r'] ['\n'] (replaceAll ['\r', '\n'] ['\n'] text) := by
  simp only [replaceAll_singleton]
  fun_induction unifyLineEnds text with
  | case1 => rfl
  | case2 rest ih =>
    rw [replaceAll_pair_cons_cons, List.singleton_append, List.flatMap_cons, if_neg (by decide), ih]
    rfl
  | case3 rest hnext ih =>
    rw [replaceAll_pair_cons fun behind _ => hnext behind, List.flatMap_cons, if_pos rfl, ih]
    rfl
  | case4 c rest _ hc ih =>
    rw [replaceAll_pair_cons fun _ heq => absurd heq hc, List.flatMap_cons, if_neg hc, ih]
    rfl

end GirStubs.Text
