import GirStubs.Proofs.Text.Rewriting
import Mathlib.Data.List.Basic

/-!
# Several rules in one pass

Rules that are run in turn, each over what the one before it has written, do what a single pass does
that takes at each place the first rule that matches there (`rewriteAll_eq_rewrite_firstOf`). That
is so when no rule touches what an earlier one writes, nor looks over a place where an earlier one
writes something (`Rule.Precedes`): then a later rule sees the same text before and after the
earlier one (`Rule.Precedes.sight`).
-/

namespace GirStubs.Text

/-- The first of the rules that matches. -/
def firstOf (rules : List Rule) : Rule := fun text => rules.findSome? fun rule => rule text

theorem firstOf_eq_none_iff {rules : List Rule} {text : List Char} :
    firstOf rules text = none ↔ ∀ rule ∈ rules, rule text = none :=
  List.findSome?_eq_none_iff

theorem exists_of_firstOf {rules : List Rule} {text written : List Char} {taken : Nat}
    (h : firstOf rules text = some (taken, written)) :
    ∃ rule ∈ rules, rule text = some (taken, written) :=
  List.exists_of_findSome?_eq_some h

theorem firstOf_cons_of_eq_none {rule : Rule} {text : List Char} (h : rule text = none)
    (rules : List Rule) : firstOf (rule :: rules) text = firstOf rules text := by
  rw [firstOf, List.findSome?_cons, h]
  rfl

theorem firstOf_cons_of_eq_some {rule : Rule} {text : List Char} {found : Nat × List Char}
    (h : rule text = some found) (rules : List Rule) :
    firstOf (rule :: rules) text = some found := by
  rw [firstOf, List.findSome?_cons, h]

theorem firstOf_congr {rules : List Rule} {text other : List Char}
    (h : ∀ rule ∈ rules, rule text = rule other) : firstOf rules text = firstOf rules other := by
  rw [firstOf, firstOf, ← List.head?_filterMap, ← List.head?_filterMap, List.filterMap_congr h]

/-! ## The first match -/

/-- A text is missed, or a rule matches somewhere for the first time. -/
theorem misses_or_exists_match (rule : Rule) (text : List Char) :
    rule.Misses [] text ∨
      ∃ before c behind taken written, text = before ++ c :: behind ∧
        rule.Misses (c :: behind) before ∧ rule (c :: behind) = some (taken, written) := by
  induction text with
  | nil => exact Or.inl trivial
  | cons c rest ih =>
    cases hmatch : rule (c :: rest) with
    | some found =>
      exact Or.inr ⟨[], c, rest, found.1, found.2, rfl, trivial, hmatch⟩
    | none =>
      rcases ih with hmisses | ⟨before, d, behind, taken, written, rfl, hmisses, hfound⟩
      · exact Or.inl ⟨by rwa [List.append_nil], hmisses⟩
      · exact Or.inr ⟨c :: before, d, behind, taken, written, rfl, ⟨hmatch, hmisses⟩, hfound⟩

/-! ## Rules in turn -/

/-- A match that starts in front of `c` neither reaches over it nor depends on what stands behind
it. -/
structure Rule.HaltsAt (rule : Rule) (c : Char) : Prop where
  bounded : rule.Bounded
  blind : ∀ d text behind, rule (d :: (text ++ c :: behind)) = rule (d :: text)

theorem Rule.StopsAt.haltsAt {rule : Rule} {c : Char} (h : rule.StopsAt c) : rule.HaltsAt c :=
  ⟨h.bounded, fun d text => h.blind (d :: text)⟩

theorem literal_haltsAt {c : Char} {word : List Char} (hc : c ∉ word) (first : Char)
    (replacement : List Char) : (literal (first :: word) replacement).HaltsAt c := by
  refine ⟨literal_bounded (List.cons_ne_nil _ _) replacement, fun d text behind => ?_⟩
  simp [literal, List.isPrefixOf, isPrefixOf_append_cons hc]

theorem firstOf_bounded {rules : List Rule} (h : ∀ rule ∈ rules, rule.Bounded) :
    (firstOf rules).Bounded := by
  intro text taken written hmatch
  obtain ⟨rule, hrule, hfound⟩ := exists_of_firstOf hmatch
  exact h rule hrule text taken written hfound

theorem firstOf_haltsAt {rules : List Rule} {c : Char} (h : ∀ rule ∈ rules, rule.HaltsAt c) :
    (firstOf rules).HaltsAt c where
  bounded := firstOf_bounded fun rule hrule => (h rule hrule).bounded
  blind d text behind := firstOf_congr fun rule hrule => (h rule hrule).blind d text behind

theorem firstOf_misses {rules : List Rule} {text behind : List Char}
    (h : ∀ rule ∈ rules, rule.Misses behind text) : (firstOf rules).Misses behind text := by
  induction text with
  | nil => trivial
  | cons c rest ih =>
    exact ⟨firstOf_eq_none_iff.mpr fun rule hrule => (h rule hrule).1,
      ih fun rule hrule => (h rule hrule).2⟩

/-- Where the first rule matches, the other one halts in front of the match and in front of what is
written for it, and it misses what is written. -/
structure Rule.Precedes (rule later : Rule) : Prop where
  source : ∀ c rest, rule (c :: rest) ≠ none → later.HaltsAt c
  target : ∀ text taken written, rule text = some (taken, written) →
    ∃ c rest, written = c :: rest ∧ later.HaltsAt c
  misses : ∀ text taken written, rule text = some (taken, written) →
    ∀ behind, later.Misses behind written

theorem precedes_firstOf {rule : Rule} {rules : List Rule} (hne : rules ≠ [])
    (h : ∀ later ∈ rules, rule.Precedes later) : rule.Precedes (firstOf rules) where
  source c rest hmatch := firstOf_haltsAt fun later hlater => (h later hlater).source c rest hmatch
  target text taken written hmatch := by
    obtain ⟨first, more, rfl⟩ := List.exists_cons_of_ne_nil hne
    obtain ⟨c, rest, rfl, -⟩ := (h first List.mem_cons_self).target text taken written hmatch
    refine ⟨c, rest, rfl, firstOf_haltsAt fun later hlater => ?_⟩
    obtain ⟨d, behind, hwritten, hhalts⟩ := (h later hlater).target text taken _ hmatch
    exact (List.cons.inj hwritten).1 ▸ hhalts
  misses text taken written hmatch behind :=
    firstOf_misses fun later hlater => (h later hlater).misses text taken written hmatch behind

section Precedes

variable {rule later : Rule} (h : rule.Precedes later)

include h in
/-- **What the later rule sees** at a place lies in a part of the text that the first one keeps. -/
theorem Rule.Precedes.sight (c : Char) (rest : List Char) :
    ∃ before behind, rest = before ++ behind ∧ rule.Misses behind before ∧
      later (c :: rest) = later (c :: before) ∧
      later (c :: rewrite rule rest) = later (c :: before) := by
  rcases misses_or_exists_match rule rest with
    hmisses | ⟨before, d, behind, taken, written, rfl, hmisses, hmatch⟩
  · refine ⟨rest, [], (List.append_nil _).symm, hmisses, rfl, ?_⟩
    rw [rewrite_of_misses hmisses]
  · obtain ⟨e, more, rfl, htarget⟩ := h.target _ _ _ hmatch
    have hsource := h.source d behind (by simp [hmatch])
    refine ⟨before, d :: behind, rfl, hmisses, hsource.blind c before behind, ?_⟩
    rw [rewrite_append_of_misses hmisses, rewrite_cons_some hmatch, List.cons_append,
      htarget.blind]

include h in
theorem Rule.Precedes.blind (c : Char) (rest : List Char) :
    later (c :: rewrite rule rest) = later (c :: rest) := by
  obtain ⟨before, behind, -, -, hbefore, hafter⟩ := h.sight c rest
  rw [hafter, hbefore]

include h in
/-- The first rule does nothing where the later one matches. -/
theorem Rule.Precedes.drop_rewrite (hbounded : later.Bounded) {c : Char} {rest written : List Char}
    {taken : Nat} (hmatch : later (c :: rest) = some (taken, written)) :
    (rewrite rule rest).drop (taken - 1) = rewrite rule (rest.drop (taken - 1)) := by
  obtain ⟨before, behind, rfl, hmisses, hbefore, -⟩ := h.sight c rest
  have hsize := (hbounded _ _ _ (hbefore.symm.trans hmatch)).2
  rw [List.length_cons] at hsize
  have hright : rule.Misses behind (before.drop (taken - 1)) := by
    rw [← List.take_append_drop (taken - 1) before] at hmisses
    exact hmisses.right
  rw [rewrite_append_of_misses hmisses, List.drop_append_of_le_length (by omega),
    List.drop_append_of_le_length (by omega), rewrite_append_of_misses hright]

end Precedes

/-- **Two passes are one**, when the first rule leaves the others alone. -/
theorem rewrite_firstOf_cons {rule : Rule} {rules : List Rule}
    (hbounded : (firstOf rules).Bounded) (h : rule.Precedes (firstOf rules)) (text : List Char) :
    rewrite (firstOf rules) (rewrite rule text) = rewrite (firstOf (rule :: rules)) text := by
  refine rewrite_induction (firstOf (rule :: rules))
    (motive := fun text out => rewrite (firstOf rules) (rewrite rule text) = out) rfl ?_ ?_ text
  · intro c rest hmatch ih
    obtain ⟨hfirst, hlater⟩ := List.forall_mem_cons.mp (firstOf_eq_none_iff.mp hmatch)
    have hnone : firstOf rules (c :: rewrite rule rest) = none :=
      (h.blind c rest).trans (firstOf_eq_none_iff.mpr hlater)
    rw [rewrite_cons_none hfirst, rewrite_cons_none hnone, ih]
  · intro c rest taken written hmatch ih
    cases hfirst : rule (c :: rest) with
    | some found =>
      rw [firstOf_cons_of_eq_some hfirst, Option.some.injEq] at hmatch
      rw [hmatch] at hfirst
      rw [rewrite_cons_some hfirst, rewrite_append_of_misses (h.misses _ _ _ hfirst _), ih]
    | none =>
      rw [firstOf_cons_of_eq_none hfirst] at hmatch
      have hsome : firstOf rules (c :: rewrite rule rest) = some (taken, written) :=
        (h.blind c rest).trans hmatch
      rw [rewrite_cons_none hfirst, rewrite_cons_some hsome, h.drop_rewrite hbounded hmatch, ih]

theorem firstOf_singleton (rule : Rule) : firstOf [rule] = rule := by
  funext text
  cases hmatch : rule text with
  | none => rw [firstOf_cons_of_eq_none hmatch]; rfl
  | some found => rw [firstOf_cons_of_eq_some hmatch]

/-- **Rules in turn are one pass.** -/
theorem rewriteAll_eq_rewrite_firstOf {rules : List Rule} (hne : rules ≠ [])
    (hbounded : ∀ rule ∈ rules, rule.Bounded) (h : rules.Pairwise Rule.Precedes)
    (text : List Char) : rewriteAll rules text = rewrite (firstOf rules) text := by
  induction rules generalizing text with
  | nil => exact absurd rfl hne
  | cons rule rules ih =>
    rw [List.forall_mem_cons] at hbounded
    rw [List.pairwise_cons] at h
    by_cases hrules : rules = []
    · rw [hrules, firstOf_singleton]
      rfl
    · rw [rewriteAll, ih hrules hbounded.2 h.2,
        rewrite_firstOf_cons (firstOf_bounded hbounded.2) (precedes_firstOf hrules h.1)]

end GirStubs.Text
