import GirStubs.Proofs.Lua.Markup
import GirStubs.Proofs.Text.OnePass

/-!
# Markup in one pass

The rules for markup leave one another alone: those for literals and cross references write names in
quotes, in which no rule matches, and no rule looks over a sign, a percent sign or a quote. So the
five of them, run in turn, are one pass that quotes at each place what the first of them finds there
(`quoteMarkup_eq_rewrite`).
-/

namespace GirStubs.Lua.Comment

open Text Unicode

/-- The markup at one place: what the first rule finds that matches there. -/
def markup : Rule := firstOf markupRules

/-- The rules that write a name in quotes. -/
def nameRules : List Rule :=
  [literal "%NULL".toList (quoted "nil".toList), literal "%TRUE".toList (quoted "true".toList),
    literal "%FALSE".toList (quoted "false".toList), crossReference]

theorem markupRules_eq : markupRules = nameRules ++ [callReference] := rfl

theorem markup_bounded : markup.Bounded := firstOf_bounded fun _ => bounded_of_markupRule

theorem isNameChar_of_all {word : List Char} (h : word.all isNameChar) :
    ∀ c ∈ word, isNameChar c :=
  List.all_eq_true.mp h

theorem not_mem_of_isNameChar {c : Char} (h : isNameChar c = false) {word : List Char}
    (hword : ∀ d ∈ word, isNameChar d) : c ∉ word := by
  intro hmem
  rw [hword c hmem] at h
  cases h

/-! ## Where matches start -/

theorem head_of_literal {first c : Char} {word replacement rest : List Char}
    (h : literal (first :: word) replacement (c :: rest) ≠ none) : c = first := by
  obtain ⟨found, hfound⟩ := Option.ne_none_iff_exists'.mp h
  exact (List.cons_prefix_cons.mp (literal_eq_some hfound).1).1.symm

theorem head_of_crossReference {c : Char} {rest : List Char}
    (h : crossReference (c :: rest) ≠ none) : c = '@' ∨ c = '#' := by
  obtain ⟨found, hfound⟩ := Option.ne_none_iff_exists'.mp h
  obtain ⟨sign, first, more, behind, hcons, hsign, -⟩ := crossReference_eq_some hfound
  rwa [(List.cons.inj hcons).1]

/-- The character starts a literal or a cross reference. -/
def IsSign (c : Char) : Prop := c = '%' ∨ c = '@' ∨ c = '#'

instance (c : Char) : Decidable (IsSign c) := inferInstanceAs (Decidable (_ ∨ _))

theorem isSign_of_nameRule {rule : Rule} (hrule : rule ∈ nameRules) {c : Char} {rest : List Char}
    (h : rule (c :: rest) ≠ none) : IsSign c := by
  simp only [nameRules, List.mem_cons, List.not_mem_nil, or_false] at hrule
  obtain rfl | rfl | rfl | rfl := hrule
  · exact Or.inl (head_of_literal h)
  · exact Or.inl (head_of_literal h)
  · exact Or.inl (head_of_literal h)
  · exact Or.inr (head_of_crossReference h)

theorem IsSign.not_isNameChar {c : Char} (h : IsSign c) : isNameChar c = false := by
  obtain rfl | rfl | rfl := h <;> decide

theorem IsSign.not_mem {c : Char} (h : IsSign c) {word : List Char}
    (hword : ∀ d ∈ word, isNameChar d) : c ∉ word :=
  not_mem_of_isNameChar h.not_isNameChar hword

theorem markup_eq_callReference {c : Char} (h : ¬IsSign c) (rest : List Char) :
    markup (c :: rest) = callReference (c :: rest) := by
  have hnames : firstOf nameRules (c :: rest) = none :=
    firstOf_eq_none_iff.mpr fun rule hrule => not_not.mp fun hmatch =>
      h (isSign_of_nameRule hrule hmatch)
  rw [firstOf] at hnames
  rw [markup, markupRules_eq, firstOf, List.findSome?_append, hnames, Option.none_or]
  exact congrFun (firstOf_singleton callReference) _

/-- What the rules for names write. -/
theorem of_nameRule {rule : Rule} (hrule : rule ∈ nameRules) {text written : List Char}
    {taken : Nat} (h : rule text = some (taken, written)) :
    ∃ word, written = quoted word ∧ ∀ c ∈ word, isNameChar c := by
  simp only [nameRules, List.mem_cons, List.not_mem_nil, or_false] at hrule
  obtain rfl | rfl | rfl | rfl := hrule
  · exact ⟨_, (literal_eq_some h).2.2, isNameChar_of_all (by decide)⟩
  · exact ⟨_, (literal_eq_some h).2.2, isNameChar_of_all (by decide)⟩
  · exact ⟨_, (literal_eq_some h).2.2, isNameChar_of_all (by decide)⟩
  · obtain ⟨-, first, more, -, -, -, -, hname, -, hwritten⟩ := crossReference_eq_some h
    exact ⟨_, hwritten, hname⟩

/-! ## Rules that leave one another alone -/

/-- A run of characters is no call when something else than an argument list stands behind it. -/
theorem callReference_append_cons {before : List Char} {c : Char} (hbefore : '(' ∉ before)
    (hcall : isCallChar c = false) (hparen : c ≠ '(') (behind : List Char) :
    callReference (before ++ c :: behind) = none := by
  by_contra hmatch
  obtain ⟨found, hfound⟩ := Option.ne_none_iff_exists'.mp hmatch
  obtain ⟨name, rest, htext, -, hall, -⟩ := callReference_eq_some hfound
  rw [List.append_assoc] at htext
  rcases List.append_eq_append_iff.mp htext with ⟨tail, rfl, hcons⟩ | ⟨tail, rfl, hcons⟩
  · cases tail with
    | nil => exact hparen (List.cons.inj hcons).1
    | cons d tail =>
      have hc := hall c (by simp [(List.cons.inj hcons).1])
      rw [hcall] at hc
      cases hc
  · cases tail with
    | nil => exact hparen (List.cons.inj hcons).1.symm
    | cons d tail =>
      rw [← (List.cons.inj hcons).1] at hbefore
      exact hbefore (List.mem_append_right _ List.mem_cons_self)

theorem misses_callReference {before : List Char} {c : Char} (hbefore : '(' ∉ before)
    (hcall : isCallChar c = false) (hparen : c ≠ '(') (behind : List Char) :
    callReference.Misses behind (before ++ [c]) := by
  induction before with
  | nil => exact ⟨callReference_append_cons List.not_mem_nil hcall hparen behind, trivial⟩
  | cons d before ih =>
    refine ⟨?_, ih fun hmem => hbefore (List.mem_cons_of_mem _ hmem)⟩
    change callReference (d :: (before ++ [c] ++ behind)) = none
    rw [List.append_assoc]
    exact callReference_append_cons hbefore hcall hparen behind

theorem misses_of_nameRule {rule : Rule} (hrule : rule ∈ nameRules) {text : List Char}
    (h : ∀ c ∈ text, ¬IsSign c) (behind : List Char) : rule.Misses behind text := by
  induction text with
  | nil => trivial
  | cons c rest ih =>
    rw [List.forall_mem_cons] at h
    exact ⟨not_not.mp fun hmatch => h.1 (isSign_of_nameRule hrule hmatch), ih h.2⟩

/-- No rule matches in a quoted name. -/
theorem misses_quoted {rule : Rule} (hrule : rule ∈ markupRules) {word : List Char}
    (hword : ∀ c ∈ word, isNameChar c) (behind : List Char) : rule.Misses behind (quoted word) := by
  have hquote : ∀ {c : Char}, IsSign c ∨ c = '(' → c ∉ quoted word := by
    rintro c (hsign | rfl)
    · refine not_mem_quoted ?_ (hsign.not_mem hword)
      rintro rfl
      exact absurd hsign (by decide)
    · exact not_mem_quoted (by decide) (not_mem_of_isNameChar (by decide) hword)
  rw [markupRules_eq, List.mem_append, List.mem_singleton] at hrule
  rcases hrule with hname | rfl
  · exact misses_of_nameRule hname (fun c hmem hsign => hquote (Or.inl hsign) hmem) behind
  · refine misses_callReference (fun hmem => hquote (Or.inr rfl) ?_) (by decide) (by decide) behind
    exact List.mem_append_left _ hmem

/-- Every rule halts in front of what is in no name and no argument list. -/
theorem haltsAt_of_markupRule {rule : Rule} (hrule : rule ∈ markupRules) {c : Char}
    (hname : isNameChar c = false) (hopen : c ≠ '(') (hclose : c ≠ ')') : rule.HaltsAt c := by
  have hliteral : ∀ {word : List Char}, word.all isNameChar → ∀ first replacement,
      (literal (first :: word) replacement).HaltsAt c := by
    intro word hword
    exact literal_haltsAt (not_mem_of_isNameChar hname (isNameChar_of_all hword))
  simp only [markupRules, List.mem_cons, List.not_mem_nil, or_false] at hrule
  obtain rfl | rfl | rfl | rfl | rfl := hrule
  · exact hliteral (by decide) _ _
  · exact hliteral (by decide) _ _
  · exact hliteral (by decide) _ _
  · refine ⟨bounded_of_markupRule (by simp [markupRules]), fun d text behind => ?_⟩
    simp only [crossReference, takeWhile_append_cons hname]
  · exact (callReference_stopsAt (isCallChar_eq_false hname) hopen hclose).haltsAt

theorem precedes_of_nameRule {rule later : Rule} (hrule : rule ∈ nameRules)
    (hlater : later ∈ markupRules) : rule.Precedes later where
  source c rest hmatch := by
    have hsign := isSign_of_nameRule hrule hmatch
    refine haltsAt_of_markupRule hlater hsign.not_isNameChar ?_ ?_ <;>
    · rintro rfl
      exact absurd hsign (by decide)
  target text taken written hmatch := by
    obtain ⟨word, rfl, -⟩ := of_nameRule hrule hmatch
    exact ⟨_, _, rfl, haltsAt_of_markupRule hlater (by decide) (by decide) (by decide)⟩
  misses text taken written hmatch behind := by
    obtain ⟨word, rfl, hword⟩ := of_nameRule hrule hmatch
    exact misses_quoted hlater hword behind

theorem pairwise_precedes_markupRules : markupRules.Pairwise Rule.Precedes := by
  rw [markupRules_eq, List.pairwise_append]
  refine ⟨?_, List.pairwise_singleton _ _, fun rule hrule later hlater => ?_⟩
  · exact List.pairwise_of_forall_mem_list fun rule hrule later hlater =>
      precedes_of_nameRule hrule (List.mem_append_left _ hlater)
  · exact precedes_of_nameRule hrule (List.mem_append_right nameRules hlater)

/-- **Markup is quoted in one pass.** -/
theorem quoteMarkup_eq_rewrite (text : List Char) : quoteMarkup text = rewrite markup text :=
  rewriteAll_eq_rewrite_firstOf (List.cons_ne_nil _ _) (fun _ => bounded_of_markupRule)
    pairwise_precedes_markupRules text

end GirStubs.Lua.Comment
