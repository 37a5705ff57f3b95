import GirStubs.Proofs.Lua.OnePass

/-!
# The wording of documentation

Formatting quotes what it finds, and changes nothing else that a reader sees. `plain` is the text as
it is meant, from left to right: literals by their Lua names, and no sign in front of a name. A
formatted text is that one, quotes and white space apart, and the quotes it adds come in pairs
(`ink_block`). Since markup is quoted in one pass, the two are compared match by match.
-/

namespace GirStubs.Lua.Comment

open Text Unicode

/-- The text as it is meant: literals as Lua writes them, and no sign in front of a name. -/
def plain : List Char → List Char
  | '%' :: 'N' :: 'U' :: 'L' :: 'L' :: rest => "nil".toList ++ plain rest
  | '%' :: 'T' :: 'R' :: 'U' :: 'E' :: rest => "true".toList ++ plain rest
  | '%' :: 'F' :: 'A' :: 'L' :: 'S' :: 'E' :: rest => "false".toList ++ plain rest
  | c :: rest =>
    if (c = '@' ∨ c = '#') ∧ rest.head?.any isNameStart then plain rest else c :: plain rest
  | [] => []

/-- The characters that are neither quotes nor white space. -/
def ink (text : List Char) : List Char :=
  text.filter fun c => !(c = '\x60' || isWhiteSpace c)

@[simp]
theorem ink_append (before behind : List Char) : ink (before ++ behind) = ink before ++ ink behind :=
  List.filter_append ..

theorem ink_of_isBlank {text : List Char} (h : ∀ c ∈ text, isWhiteSpace c) : ink text = [] := by
  rw [ink, List.filter_eq_nil_iff]
  intro c hc
  simp [h c hc]

theorem ink_trim (text : List Char) : ink (trim text) = ink text := by
  obtain ⟨before, behind, htext, hbefore, hbehind⟩ := trim_split text
  have hink := congrArg ink htext
  rw [ink_append, ink_append, ink_of_isBlank hbefore, ink_of_isBlank hbehind, List.nil_append,
    List.append_nil] at hink
  exact hink.symm

theorem ink_quoted (word : List Char) : ink (quoted word) = ink word := by
  have hquote : ink ['\x60'] = [] := rfl
  have hparts : quoted word = ['\x60'] ++ word ++ ['\x60'] := rfl
  rw [hparts, ink_append, ink_append, hquote, List.nil_append, List.append_nil]

/-! ## The plain text -/

theorem plain_cons {c : Char} {rest : List Char} (hnull : ¬"%NULL".toList <+: c :: rest)
    (htrue : ¬"%TRUE".toList <+: c :: rest) (hfalse : ¬"%FALSE".toList <+: c :: rest) :
    plain (c :: rest) =
      if (c = '@' ∨ c = '#') ∧ rest.head?.any isNameStart then plain rest else c :: plain rest := by
  rw [plain.eq_def]
  split
  · next behind heq => exact absurd (heq ▸ ⟨behind, rfl⟩) hnull
  · next behind heq => exact absurd (heq ▸ ⟨behind, rfl⟩) htrue
  · next behind heq => exact absurd (heq ▸ ⟨behind, rfl⟩) hfalse
  · next heq =>
    obtain ⟨rfl, rfl⟩ := List.cons.inj heq
    rfl
  · next heq => cases heq

theorem plain_cons_of_ne {c : Char} (h : c ≠ '%') (rest : List Char) :
    plain (c :: rest) =
      if (c = '@' ∨ c = '#') ∧ rest.head?.any isNameStart then plain rest else c :: plain rest := by
  have hliteral : ∀ name, ¬ '%' :: name <+: c :: rest :=
    fun name hprefix => h (List.cons_prefix_cons.mp hprefix).1.symm
  exact plain_cons (hliteral _) (hliteral _) (hliteral _)

theorem plain_append {word : List Char} (h : ∀ c ∈ word, ¬IsSign c) (rest : List Char) :
    plain (word ++ rest) = word ++ plain rest := by
  induction word with
  | nil => rfl
  | cons c word ih =>
    rw [List.forall_mem_cons] at h
    obtain ⟨hpercent, hreference⟩ := not_or.mp h.1
    rw [List.cons_append, plain_cons_of_ne hpercent, if_neg fun hsign => hreference hsign.1,
      ih h.2, List.cons_append]

theorem plain_sign {sign first : Char} (hsign : sign = '@' ∨ sign = '#')
    (hfirst : isNameStart first) (rest : List Char) :
    plain (sign :: first :: rest) = plain (first :: rest) := by
  have hpercent : sign ≠ '%' := by
    rintro rfl
    exact absurd hsign (by decide)
  rw [plain_cons_of_ne hpercent, if_pos ⟨hsign, hfirst⟩]

/-- Where no rule matches, the text means what it says. -/
theorem plain_of_markup_eq_none {c : Char} {rest : List Char} (h : markup (c :: rest) = none) :
    plain (c :: rest) = c :: plain rest := by
  have hrules := firstOf_eq_none_iff.mp h
  simp only [markupRules, List.forall_mem_cons, literal_eq_none_iff] at hrules
  obtain ⟨hnull, htrue, hfalse, hreference, -⟩ := hrules
  rw [plain_cons hnull htrue hfalse, if_neg]
  rintro ⟨hsign, hfirst⟩
  cases rest with
  | nil => cases hfirst
  | cons first more => exact crossReference_cons_cons hsign hfirst more hreference

/-- What is quoted for a match is what its text means. -/
theorem plain_of_markupRule {rule : Rule} (hrule : rule ∈ markupRules)
    {source behind written : List Char} (h : rule (source ++ behind) = some (source.length, written)) :
    ∃ word, written = quoted word ∧ plain (source ++ behind) = word ++ plain behind := by
  have hliteral : ∀ {name word : List Char}, (∀ rest, plain (name ++ rest) = word ++ plain rest) →
      literal name (quoted word) (source ++ behind) = some (source.length, written) →
      ∃ word, written = quoted word ∧ plain (source ++ behind) = word ++ plain behind := by
    intro name word hplain hmatch
    obtain ⟨⟨rest, htext⟩, hsize, hwritten⟩ := literal_eq_some hmatch
    obtain ⟨rfl, rfl⟩ := List.append_inj htext hsize.symm
    exact ⟨word, hwritten, hplain rest⟩
  have hnames : ∀ {word : List Char}, (∀ c ∈ word, isNameChar c) → ∀ c ∈ word, ¬IsSign c :=
    fun hword c hc hsign => hsign.not_mem hword hc
  simp only [markupRules, List.mem_cons, List.not_mem_nil, or_false] at hrule
  obtain rfl | rfl | rfl | rfl | rfl := hrule
  · exact hliteral (fun _ => rfl) h
  · exact hliteral (fun _ => rfl) h
  · exact hliteral (fun _ => rfl) h
  · obtain ⟨sign, first, more, rest, htext, hsign, hstart, hall, hsize, rfl⟩ :=
      crossReference_eq_some h
    rw [← List.cons_append, ← List.cons_append] at htext
    obtain ⟨rfl, rfl⟩ := List.append_inj htext (by simpa using hsize)
    refine ⟨first :: more, rfl, ?_⟩
    rw [List.cons_append, List.cons_append, plain_sign hsign hstart, ← List.cons_append,
      plain_append (hnames hall)]
  · obtain ⟨name, rest, htext, -, hall, hsize, rfl⟩ := callReference_eq_some h
    obtain ⟨rfl, rfl⟩ := List.append_inj htext (by simpa using hsize)
    refine ⟨name ++ "()".toList, rfl, plain_append (List.forall_mem_append.mpr ⟨?_, ?_⟩) _⟩
    · exact hnames fun c hc => isNameChar_of_isCallChar (hall c hc)
    · simp [IsSign]

theorem ink_quoteMarkup (text : List Char) : ink (quoteMarkup text) = ink (plain text) := by
  rw [quoteMarkup_eq_rewrite]
  refine markup_bounded.induction (motive := fun text out => ink out = ink (plain text)) ?_ ?_ ?_ text
  · rfl
  · intro c rest hmatch ih
    rw [plain_of_markup_eq_none hmatch, ← List.singleton_append, ink_append, ih, ← ink_append,
      List.singleton_append]
  · intro source behind written hmatch ih
    obtain ⟨rule, hrule, hfound⟩ := exists_of_firstOf hmatch
    obtain ⟨word, rfl, hplain⟩ := plain_of_markupRule hrule hfound
    rw [hplain, ink_append, ink_append, ink_quoted, ih]

/-! ## Quotes -/

theorem count_quoted {word : List Char} (h : '\x60' ∉ word) : (quoted word).count '\x60' = 2 := by
  simp [quoted, List.count_eq_zero_of_not_mem h]

theorem count_quoteMarkup (text : List Char) :
    ∃ pairs, (quoteMarkup text).count '\x60' = text.count '\x60' + 2 * pairs := by
  have hquote : separates '\x60' := by
    decide
  rw [quoteMarkup_eq_rewrite]
  refine markup_bounded.induction
    (motive := fun text out => ∃ pairs, out.count '\x60' = text.count '\x60' + 2 * pairs)
    ?_ ?_ ?_ text
  · exact ⟨0, rfl⟩
  · rintro c rest - ⟨pairs, ih⟩
    refine ⟨pairs, ?_⟩
    rw [List.count_cons, List.count_cons, ih]
    omega
  · rintro source behind written hmatch ⟨pairs, ih⟩
    obtain ⟨rule, hrule, hfound⟩ := exists_of_firstOf hmatch
    obtain ⟨source', rest, word, htext, -, hsize, rfl, hall⟩ := of_markupRule hrule hfound
    obtain ⟨rfl, rfl⟩ := List.append_inj htext hsize
    rw [List.forall_mem_append] at hall
    refine ⟨pairs + 1, ?_⟩
    rw [List.count_append, List.count_append, ih, count_quoted (not_mem_of_separates hquote hall.2),
      List.count_eq_zero_of_not_mem (not_mem_of_separates hquote hall.1)]
    omega

/-- **Formatting loses, moves and invents nothing**: but for white space and quotes, what comes out
is the text as it is meant, and the quotes that are added come in pairs. -/
theorem ink_block (text : List Char) :
    ink (block text) = ink (plain text) ∧
      ∃ pairs, (block text).count '\x60' = text.count '\x60' + 2 * pairs := by
  rw [block_eq, ink_trim, ink_quoteMarkup, count_trim (by decide)]
  exact ⟨rfl, count_quoteMarkup text⟩

end GirStubs.Lua.Comment
