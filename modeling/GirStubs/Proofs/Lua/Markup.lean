import GirStubs.Lua.Comment
import GirStubs.Proofs.Text.Blank
import GirStubs.Proofs.Text.Rewriting

/-! # Markup in documentation

Documentation is rewritten by five rules in turn, three for literals and two for
references. Each of them takes a few characters that separate no words, and quotes a
word of such characters (`of_markupRule`). So none looks over a character that separates
words (`quoteMarkup_append_cons`), and quoting shows: a text comes out as it was just
when it holds no markup (`quoteMarkup_eq_self_iff`).
-/

namespace GirStubs.Lua.Comment

open Text Unicode

/-- The rules that quote literals and references. -/
def markupRules : List Rule :=
  [literal "%NULL".toList (quoted "nil".toList), literal "%TRUE".toList (quoted "true".toList),
    literal "%FALSE".toList (quoted "false".toList), crossReference, callReference]

/-- The text with literals and references quoted. -/
def quoteMarkup (text : List Char) : List Char := rewriteAll markupRules text

theorem block_eq (text : List Char) : block text = trim (quoteMarkup text) := rfl

/-! ## Matches -/

theorem crossReference_eq_some {text written : List Char} {taken : Nat}
    (h : crossReference text = some (taken, written)) :
    ∃ sign first more rest, text = sign :: first :: (more ++ rest) ∧ (sign = '@' ∨ sign = '#') ∧
      isNameStart first ∧ (∀ c ∈ first :: more, isNameChar c) ∧
      taken = more.length + 2 ∧ written = quoted (first :: more) := by
  cases text with
  | nil => cases h
  | cons sign tail =>
    simp only [crossReference] at h
    split at h
    · next hsign =>
      split at h
      · cases h
      · next first more hword =>
        split at h
        · next hstart =>
          simp only [Option.some.injEq, Prod.mk.injEq] at h
          have htail : tail = first :: (more ++ tail.dropWhile isNameChar) := by
            rw [← List.cons_append, ← hword, List.takeWhile_append_dropWhile]
          refine ⟨sign, first, more, _, by rw [← htail], hsign, hstart, ?_, h.1.symm, h.2.symm⟩
          intro c hc
          rw [← hword] at hc
          exact List.all_eq_true.mp List.all_takeWhile c hc
        · cases h
    · cases h

theorem callReference_eq_some {text written : List Char} {taken : Nat}
    (h : callReference text = some (taken, written)) :
    ∃ name rest, text = name ++ "()".toList ++ rest ∧ name ≠ [] ∧ (∀ c ∈ name, isCallChar c) ∧
      taken = name.length + 2 ∧ written = quoted (name ++ "()".toList) := by
  simp only [callReference] at h
  split at h
  · next hcall =>
    obtain ⟨rest, hrest⟩ := List.isPrefixOf_iff_prefix.mp hcall.2
    simp only [Option.some.injEq, Prod.mk.injEq] at h
    refine ⟨text.takeWhile isCallChar, rest, ?_, hcall.1, ?_, h.1.symm, h.2.symm⟩
    · rw [List.append_assoc, hrest]
      exact (List.prefix_iff_eq_append.mp (List.takeWhile_prefix _)).symm
    · exact fun c hc => List.all_eq_true.mp List.all_takeWhile c hc
  · cases h

/-- The character stands in no markup: it is in no name, and neither sign nor parenthesis. -/
def separates (c : Char) : Bool :=
  !(isNameChar c || c = '%' || c = '@' || c = '#' || c = '(' || c = ')')

theorem isNameChar_of_isCallChar {c : Char} (h : isCallChar c) : isNameChar c := by
  simp only [isCallChar, Bool.or_eq_true] at h
  simp only [isNameChar, Bool.or_eq_true]
  refine h.imp_left fun hlower => ?_
  have hparts : c.isAlphanum = ((c.isUpper || c.isLower) || c.isDigit) := rfl
  rw [hparts, hlower, Bool.or_true, Bool.true_or]

theorem isCallChar_eq_false {c : Char} (h : isNameChar c = false) : isCallChar c = false := by
  cases hcall : isCallChar c with
  | false => rfl
  | true => rw [← h, isNameChar_of_isCallChar hcall]

theorem separates_of_isNameChar {c : Char} (h : isNameChar c) : separates c = false := by
  simp [separates, h]

theorem toNat_of_isNameChar {c : Char} (h : isNameChar c) : 48 ≤ c.toNat ∧ c.toNat ≤ 122 := by
  have hparts : c.isAlphanum = ((decide (c.val ≥ 'A'.val ∧ c.val ≤ 'Z'.val) ||
      decide (c.val ≥ 'a'.val) && decide (c.val ≤ 'z'.val)) ||
        decide (c.val ≥ '0'.val) && decide (c.val ≤ '9'.val)) := rfl
  have hval : c.toNat = c.val.toNat := rfl
  simp only [isNameChar, hparts, Bool.or_eq_true, Bool.and_eq_true, decide_eq_true_eq,
    UInt32.le_iff_toNat_le] at h
  rw [hval]
  obtain ((h | h) | h) | rfl := h
  · exact ⟨Nat.le_trans (by decide) h.1, Nat.le_trans h.2 (by decide)⟩
  · exact ⟨Nat.le_trans (by decide) h.1, Nat.le_trans h.2 (by decide)⟩
  · exact ⟨Nat.le_trans (by decide) h.1, Nat.le_trans h.2 (by decide)⟩
  · decide

theorem isWhiteSpace_of_isNameChar {c : Char} (h : isNameChar c) : isWhiteSpace c = false := by
  obtain ⟨hlow, hhigh⟩ := toNat_of_isNameChar h
  have hranges : ∀ r ∈ whiteSpaceRanges, r.2 < 48 ∨ 122 < r.1 := by
    decide
  rw [isWhiteSpace, ← Bool.not_eq_true, inRanges_eq_true_iff]
  rintro ⟨r, hr, hin⟩
  have hout := hranges r hr
  omega

theorem isWhiteSpace_of_separates {c : Char} (h : separates c = false) :
    isWhiteSpace c = false := by
  simp only [separates, Bool.not_eq_false', Bool.or_eq_true, decide_eq_true_eq, or_assoc] at h
  obtain hname | rfl | rfl | rfl | rfl | rfl := h
  · exact isWhiteSpace_of_isNameChar hname
  all_goals decide

/-- **What a rule for markup does**: it takes a piece of text without a separator, and quotes a word
without one. -/
theorem of_markupRule {rule : Rule} (hrule : rule ∈ markupRules) {text written : List Char}
    {taken : Nat} (h : rule text = some (taken, written)) :
    ∃ source rest word, text = source ++ rest ∧ source ≠ [] ∧ taken = source.length ∧
      written = quoted word ∧ ∀ c ∈ source ++ word, separates c = false := by
  have hliteral : ∀ {name word : List Char}, name ≠ [] →
      (∀ c ∈ name ++ word, separates c = false) →
      literal name (quoted word) text = some (taken, written) →
      ∃ source rest word, text = source ++ rest ∧ source ≠ [] ∧ taken = source.length ∧
        written = quoted word ∧ ∀ c ∈ source ++ word, separates c = false := by
    intro name word hne hall hmatch
    obtain ⟨⟨rest, hrest⟩, htaken, hwritten⟩ := literal_eq_some hmatch
    exact ⟨name, rest, word, hrest.symm, hne, htaken, hwritten, hall⟩
  simp only [markupRules, List.mem_cons, List.not_mem_nil, or_false] at hrule
  obtain rfl | rfl | rfl | rfl | rfl := hrule
  · exact hliteral (by decide) (eq_false_of_any (by decide)) h
  · exact hliteral (by decide) (eq_false_of_any (by decide)) h
  · exact hliteral (by decide) (eq_false_of_any (by decide)) h
  · obtain ⟨sign, first, more, rest, rfl, hsign, -, hall, rfl, rfl⟩ := crossReference_eq_some h
    refine ⟨sign :: first :: more, rest, first :: more, rfl, List.cons_ne_nil _ _, rfl, rfl, ?_⟩
    have hname : ∀ c ∈ first :: more, separates c = false :=
      fun c hc => separates_of_isNameChar (hall c hc)
    refine List.forall_mem_append.mpr ⟨List.forall_mem_cons.mpr ⟨?_, hname⟩, hname⟩
    obtain rfl | rfl := hsign <;> decide
  · obtain ⟨name, rest, rfl, hne, hall, rfl, rfl⟩ := callReference_eq_some h
    have hcall : ∀ c ∈ name ++ "()".toList, separates c = false :=
      List.forall_mem_append.mpr
        ⟨fun c hc => separates_of_isNameChar (isNameChar_of_isCallChar (hall c hc)),
          eq_false_of_any (by decide)⟩
    refine ⟨name ++ "()".toList, rest, name ++ "()".toList, rfl, by simp [hne], by simp, rfl, ?_⟩
    exact List.forall_mem_append.mpr ⟨hcall, hcall⟩

theorem bounded_of_markupRule {rule : Rule} (hrule : rule ∈ markupRules) : rule.Bounded := by
  intro text taken written h
  obtain ⟨source, rest, word, rfl, hne, rfl, -, -⟩ := of_markupRule hrule h
  exact ⟨List.length_pos_iff.mpr hne, (List.prefix_append _ _).length_le⟩

/-! ## Separators -/

/-- What a test takes from a text is not changed by what stands behind a character that fails. -/
theorem takeWhile_append_cons {p : Char → Bool} {c : Char} (hc : p c = false)
    (text behind : List Char) : (text ++ c :: behind).takeWhile p = text.takeWhile p := by
  induction text with
  | nil => simp [hc]
  | cons d text ih => simp only [List.cons_append, List.takeWhile_cons, ih]

theorem crossReference_stopsAt {c : Char} (hname : isNameChar c = false) (hat : c ≠ '@')
    (hnumber : c ≠ '#') : crossReference.StopsAt c := by
  refine ⟨bounded_of_markupRule (by simp [markupRules]), fun text behind => ?_⟩
  cases text with
  | nil => simp [crossReference, hat, hnumber]
  | cons sign rest => simp only [List.cons_append, crossReference, takeWhile_append_cons hname]

theorem callReference_stopsAt {c : Char} (hcall : isCallChar c = false) (hopen : c ≠ '(')
    (hclose : c ≠ ')') : callReference.StopsAt c := by
  refine ⟨bounded_of_markupRule (by simp [markupRules]), fun text behind => ?_⟩
  have hsize := (List.takeWhile_prefix isCallChar (l := text)).length_le
  simp only [callReference, takeWhile_append_cons hcall, List.drop_append_of_le_length hsize,
    isPrefixOf_append_cons (show c ∉ "()".toList by simp [hopen, hclose])]

theorem not_mem_quoted {c : Char} (hquote : c ≠ '\x60') {word : List Char} (h : c ∉ word) :
    c ∉ quoted word := by
  simp [quoted, hquote, h]

section Separator

variable {c : Char} (hc : separates c)

include hc in
theorem separates_parts :
    isNameChar c = false ∧ c ≠ '%' ∧ c ≠ '@' ∧ c ≠ '#' ∧ c ≠ '(' ∧ c ≠ ')' := by
  simpa [separates, and_assoc] using hc

include hc in
theorem not_mem_of_separates {text : List Char} (h : ∀ d ∈ text, separates d = false) :
    c ∉ text :=
  fun hmem => absurd hc (by simp [h c hmem])

include hc in
theorem stopsAt_of_markupRule {rule : Rule} (hrule : rule ∈ markupRules) : rule.StopsAt c := by
  obtain ⟨hname, -, hat, hnumber, hopen, hclose⟩ := separates_parts hc
  have hliteral : ∀ {word : List Char}, word ≠ [] → (∀ d ∈ word, separates d = false) →
      ∀ replacement, (literal word replacement).StopsAt c :=
    fun hne hall => literal_stopsAt hne (not_mem_of_separates hc hall)
  simp only [markupRules, List.mem_cons, List.not_mem_nil, or_false] at hrule
  obtain rfl | rfl | rfl | rfl | rfl := hrule
  · exact hliteral (by decide) (eq_false_of_any (by decide)) _
  · exact hliteral (by decide) (eq_false_of_any (by decide)) _
  · exact hliteral (by decide) (eq_false_of_any (by decide)) _
  · exact crossReference_stopsAt hname hat hnumber
  · exact callReference_stopsAt (isCallChar_eq_false hname) hopen hclose

include hc in
/-- **Markup is quoted between separators.** -/
theorem quoteMarkup_append_cons (before behind : List Char) :
    quoteMarkup (before ++ c :: behind) = quoteMarkup before ++ c :: quoteMarkup behind :=
  rewriteAll_append_cons (fun _ hrule => stopsAt_of_markupRule hc hrule) before behind

include hc in
theorem quoteMarkup_cons (behind : List Char) :
    quoteMarkup (c :: behind) = c :: quoteMarkup behind :=
  quoteMarkup_append_cons hc [] behind

include hc in
/-- Quoting brings in no separator but the quote itself. -/
theorem not_mem_quoteMarkup (hquote : c ≠ '\x60') {text : List Char} (h : c ∉ text) :
    c ∉ quoteMarkup text := by
  refine not_mem_rewriteAll (fun rule hrule other taken written hmatch => ?_) h
  obtain ⟨source, rest, word, -, -, -, rfl, hall⟩ := of_markupRule hrule hmatch
  have hword := (List.forall_mem_append.mp hall).2
  exact not_mem_quoted hquote (not_mem_of_separates hc hword)

end Separator

/-- Separators at the start are kept. -/
theorem quoteMarkup_append_of_separates {word : List Char} (h : ∀ c ∈ word, separates c)
    (text : List Char) : quoteMarkup (word ++ text) = word ++ quoteMarkup text := by
  induction word with
  | nil => rfl
  | cons c word ih =>
    rw [List.forall_mem_cons] at h
    rw [List.cons_append, quoteMarkup_cons h.1, ih h.2, List.cons_append]

/-! ## Texts without markup -/

/-- The text holds something that is quoted: a literal, a sign with the start of a name behind it,
or the end of a name with an empty argument list behind it. -/
inductive HoldsMarkup (text : List Char) : Prop
  | literal {word : String} (hword : word ∈ ["%NULL", "%TRUE", "%FALSE"])
      (holds : word.toList <:+: text)
  | reference {sign first : Char} (hsign : sign = '@' ∨ sign = '#') (hfirst : isNameStart first)
      (holds : [sign, first] <:+: text)
  | call {last : Char} (hlast : isCallChar last) (holds : last :: "()".toList <:+: text)

theorem isNameChar_of_isNameStart {c : Char} (h : isNameStart c) : isNameChar c := by
  simp only [isNameStart, isNameChar, Char.isAlphanum, Bool.or_eq_true] at h ⊢
  exact h.imp_left Or.inl

theorem crossReference_cons_cons {sign first : Char} (hsign : sign = '@' ∨ sign = '#')
    (hfirst : isNameStart first) (rest : List Char) :
    crossReference (sign :: first :: rest) ≠ none := by
  simp [crossReference, hsign, isNameChar_of_isNameStart hfirst, hfirst]

theorem callReference_cons {last : Char} (hlast : isCallChar last) (rest : List Char) :
    callReference (last :: ("()".toList ++ rest)) ≠ none := by
  have hparen : isCallChar '(' = false := by
    decide
  simp [callReference, hlast, hparen, List.isPrefixOf]

theorem misses_crossReference_iff {text : List Char} :
    crossReference.Misses [] text ↔
      ¬∃ sign first, (sign = '@' ∨ sign = '#') ∧ isNameStart first ∧ [sign, first] <:+: text := by
  rw [misses_iff]
  constructor
  · rintro h ⟨sign, first, hsign, hfirst, before, behind, rfl⟩
    exact crossReference_cons_cons hsign hfirst behind (h before sign _ (by simp))
  · intro h before c rest htext
    by_contra hmatch
    obtain ⟨found, hfound⟩ := Option.ne_none_iff_exists'.mp hmatch
    obtain ⟨sign, first, more, behind, hcons, hsign, hfirst, -⟩ := crossReference_eq_some hfound
    refine h ⟨sign, first, hsign, hfirst, before, more ++ behind, ?_⟩
    rw [htext, hcons]
    simp

theorem misses_callReference_iff {text : List Char} :
    callReference.Misses [] text ↔ ¬∃ last, isCallChar last ∧ last :: "()".toList <:+: text := by
  rw [misses_iff]
  constructor
  · rintro h ⟨last, hlast, before, behind, rfl⟩
    exact callReference_cons hlast behind (h before last _ (by simp))
  · intro h before c rest htext
    by_contra hmatch
    obtain ⟨found, hfound⟩ := Option.ne_none_iff_exists'.mp hmatch
    obtain ⟨name, behind, hcons, hne, hall, -⟩ := callReference_eq_some hfound
    obtain rfl | ⟨front, last, rfl⟩ := List.eq_nil_or_concat name
    · exact hne rfl
    · refine h ⟨last, hall last (by simp), before ++ front, behind, ?_⟩
      rw [htext, hcons]
      simp

/-- Each rule leaves more quotes than it takes. -/
theorem adds_of_markupRule {rule : Rule} (hrule : rule ∈ markupRules) : rule.Adds '\x60' := by
  intro text taken written h
  obtain ⟨source, rest, word, rfl, hne, rfl, rfl, hall⟩ := of_markupRule hrule h
  have hsource : '\x60' ∉ source :=
    not_mem_of_separates (by decide) (List.forall_mem_append.mp hall).1
  rw [List.take_left, List.count_eq_zero_of_not_mem hsource]
  exact ⟨List.length_pos_iff.mpr hne, List.count_pos_iff.mpr List.mem_cons_self⟩

/-- **Quoting shows**: a text comes out as it was just when it holds no markup. -/
theorem quoteMarkup_eq_self_iff {text : List Char} :
    quoteMarkup text = text ↔ ¬HoldsMarkup text := by
  rw [quoteMarkup, rewriteAll_eq_self_iff fun _ => adds_of_markupRule]
  simp only [markupRules, List.forall_mem_cons,
    misses_literal_iff (show "%NULL".toList ≠ [] by decide),
    misses_literal_iff (show "%TRUE".toList ≠ [] by decide),
    misses_literal_iff (show "%FALSE".toList ≠ [] by decide), misses_crossReference_iff,
    misses_callReference_iff]
  constructor
  · rintro ⟨hnull, htrue, hfalse, hreference, hcall, -⟩ hholds
    cases hholds with
    | literal hword holds =>
      simp only [List.mem_cons, List.not_mem_nil, or_false] at hword
      obtain rfl | rfl | rfl := hword
      · exact hnull holds
      · exact htrue holds
      · exact hfalse holds
    | reference hsign hfirst holds => exact hreference ⟨_, _, hsign, hfirst, holds⟩
    | call hlast holds => exact hcall ⟨_, hlast, holds⟩
  · intro h
    refine ⟨fun holds => h (.literal (by simp) holds), fun holds => h (.literal (by simp) holds),
      fun holds => h (.literal (by simp) holds), ?_, ?_, List.forall_mem_nil _⟩
    · rintro ⟨sign, first, hsign, hfirst, holds⟩
      exact h (.reference hsign hfirst holds)
    · rintro ⟨last, hlast, holds⟩
      exact h (.call hlast holds)

end GirStubs.Lua.Comment
