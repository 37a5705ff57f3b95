import GirStubs.Proofs.Lua.OnePass
import Mathlib.Data.List.DropRight

/-!
# Calls in documentation

A call is quoted from the first of the letters and underscores that stand in front of its argument
list without a break. The name of a function may hold digits too, and a digit is such a break: of a
name that holds one, only what stands behind its last digit is quoted, and nothing if the name ends
there (`quoteMarkup_call`). So a name is quoted as a whole just when it has no digit
(`quoted_call_iff`).
-/

namespace GirStubs.Lua.Comment

open Text Unicode

/-- The name of a function in C, in lower case: letters, underscores and digits, and no digit in
front. -/
structure IsFunctionName (name : List Char) : Prop where
  head : ∃ first rest, name = first :: rest ∧ isCallChar first
  all : ∀ c ∈ name, isCallChar c ∨ c.isDigit

/-- No name and no sign stands at the end of the text. -/
def EndsApart (before : List Char) : Prop :=
  ∀ c ∈ before.getLast?, isNameChar c = false ∧ ¬IsSign c

theorem endsApart_iff {before : List Char} :
    EndsApart before ↔ before.getLast?.all fun c => !isNameChar c && !IsSign c := by
  simp [EndsApart, Option.all_eq_true]

instance (before : List Char) : Decidable (EndsApart before) := decidable_of_iff' _ endsApart_iff

/-- An argument list without arguments. -/
def noArguments : List Char := "()".toList

/-- What is written for a call: the part of the name behind its last digit is quoted with the
argument list. -/
def quotedCall (name : List Char) : List Char :=
  name.rdropWhile isCallChar ++
    if name.rtakeWhile isCallChar = [] then noArguments
    else quoted (name.rtakeWhile isCallChar ++ noArguments)

/-! ## Names -/

theorem isDigit_of_isCallChar {c : Char} (h : isCallChar c) : c.isDigit = false := by
  have hlower : c.isLower = (decide (c.val ≥ 'a'.val) && decide (c.val ≤ 'z'.val)) := rfl
  have hdigit : c.isDigit = (decide (c.val ≥ '0'.val) && decide (c.val ≤ '9'.val)) := rfl
  simp only [isCallChar, hlower, Bool.or_eq_true, Bool.and_eq_true, decide_eq_true_eq] at h
  obtain h | rfl := h
  · rw [hdigit, Bool.and_eq_false_imp]
    intro _
    exact decide_eq_false (UInt32.not_le.mpr (UInt32.lt_of_lt_of_le (by decide) h.1))
  · decide

theorem isFunctionName_cons {first : Char} {rest : List Char} (hfirst : isCallChar first)
    (hrest : rest.all fun c => isCallChar c || c.isDigit) : IsFunctionName (first :: rest) where
  head := ⟨first, rest, rfl, hfirst⟩
  all := List.forall_mem_cons.mpr ⟨Or.inl hfirst, by simpa using hrest⟩

theorem isNameChar_of_isDigit {c : Char} (h : c.isDigit) : isNameChar c := by
  simp only [isNameChar, Char.isAlphanum, h, Bool.or_true, Bool.true_or]

section Name

variable {name : List Char} (hname : IsFunctionName name)

include hname in
theorem IsFunctionName.isNameChar : ∀ c ∈ name, isNameChar c :=
  fun c hc => (hname.all c hc).elim isNameChar_of_isCallChar isNameChar_of_isDigit

include hname in
theorem IsFunctionName.rdropWhile_eq_nil_iff :
    name.rdropWhile isCallChar = [] ↔ ∀ c ∈ name, ¬c.isDigit := by
  rw [List.rdropWhile_eq_nil_iff]
  refine forall₂_congr fun c hc => ⟨fun hcall => ?_, fun hdigit => ?_⟩
  · rw [isDigit_of_isCallChar hcall]
    exact Bool.false_ne_true
  · exact (hname.all c hc).resolve_right hdigit

end Name

/-! ## In front of a name -/

/-- What stands behind the start of a name says nothing about a call that starts in front of it. -/
theorem callReference_append_concat {front : List Char} {c d : Char} (hc : isCallChar c = false)
    (hd : isNameChar d) (behind : List Char) :
    callReference (front ++ [c] ++ d :: behind) = callReference (front ++ [c]) := by
  have hrun : (front ++ [c] ++ d :: behind).takeWhile isCallChar =
      (front ++ [c]).takeWhile isCallChar := by
    rw [List.append_assoc, List.singleton_append, takeWhile_append_cons hc,
      takeWhile_append_cons hc]
  have hparen : d ∉ "()".toList := by
    intro hmem
    have hname := eq_false_of_any (p := isNameChar) (by decide) d hmem
    rw [hd] at hname
    cases hname
  have hsize := (List.takeWhile_prefix isCallChar (l := front ++ [c])).length_le
  simp only [callReference, hrun, List.drop_append_of_le_length hsize,
    isPrefixOf_append_cons hparen]

theorem seam_of_markupRule {rule : Rule} (hrule : rule ∈ markupRules) {before behind : List Char}
    {d : Char} (hbefore : EndsApart before) (hd : isNameChar d) {text : List Char}
    (hne : text ≠ []) (hsuffix : text <:+ before) : rule (text ++ d :: behind) = rule text := by
  obtain rfl | ⟨front, c, rfl⟩ := List.eq_nil_or_concat text
  · exact absurd rfl hne
  rw [List.concat_eq_append] at hsuffix ⊢
  have hlast : before.getLast? = some c := by
    obtain ⟨start, rfl⟩ := hsuffix
    simp
  obtain ⟨hc, hsign⟩ := hbefore c hlast
  have hstops : ∀ {rule : Rule}, rule.StopsAt c →
      rule (front ++ [c] ++ d :: behind) = rule (front ++ [c]) := by
    intro rule hrule
    rw [List.append_assoc, List.singleton_append, hrule.blind, hrule.blind]
  have hliteral : ∀ {word : List Char}, word.all isNameChar → ∀ replacement,
      (literal ('%' :: word) replacement).StopsAt c := by
    intro word hword
    refine literal_stopsAt (List.cons_ne_nil _ _) fun hmem => ?_
    rcases List.mem_cons.mp hmem with rfl | hmem
    · exact hsign (by decide)
    · exact not_mem_of_isNameChar hc (isNameChar_of_all hword) hmem
  simp only [markupRules, List.mem_cons, List.not_mem_nil, or_false] at hrule
  obtain rfl | rfl | rfl | rfl | rfl := hrule
  · exact hstops (hliteral (by decide) _)
  · exact hstops (hliteral (by decide) _)
  · exact hstops (hliteral (by decide) _)
  · refine hstops (crossReference_stopsAt hc ?_ ?_) <;>
    · rintro rfl
      exact hsign (by decide)
  · exact callReference_append_concat (isCallChar_eq_false hc) hd behind

/-- A name stands on its own behind a text that ends apart from it. -/
theorem quoteMarkup_append {before behind : List Char} {d : Char} (hbefore : EndsApart before)
    (hd : isNameChar d) :
    quoteMarkup (before ++ d :: behind) = quoteMarkup before ++ quoteMarkup (d :: behind) := by
  simp only [quoteMarkup_eq_rewrite]
  exact rewrite_append markup_bounded fun text hne hsuffix =>
    firstOf_congr fun rule hrule => seam_of_markupRule hrule hbefore hd hne hsuffix

/-! ## The call -/

theorem misses_markup {text behind : List Char} (hsign : ∀ c ∈ text, ¬IsSign c)
    (h : callReference.Misses behind text) : markup.Misses behind text := by
  induction text with
  | nil => trivial
  | cons c rest ih =>
    rw [List.forall_mem_cons] at hsign
    exact ⟨(markup_eq_callReference hsign.1 _).trans h.1, ih hsign.2 h.2⟩

theorem markup_cons_of_not {c : Char} (hsign : ¬IsSign c) (hcall : isCallChar c = false)
    (rest : List Char) : markup (c :: rest) = none := by
  rw [markup_eq_callReference hsign]
  simp [callReference, hcall]

theorem misses_noArguments (behind : List Char) : markup.Misses behind noArguments :=
  ⟨markup_cons_of_not (by decide) (by decide) _, markup_cons_of_not (by decide) (by decide) _,
    trivial⟩

theorem markup_call {name : List Char} (hne : name ≠ []) (hname : ∀ c ∈ name, isCallChar c)
    (behind : List Char) :
    markup (name ++ noArguments ++ behind) =
      some ((name ++ noArguments).length, quoted (name ++ noArguments)) := by
  have hrun : (name ++ noArguments ++ behind).takeWhile isCallChar = name := by
    rw [List.append_assoc, List.takeWhile_append_of_pos hname]
    exact List.append_nil name
  have hcall : callReference (name ++ noArguments ++ behind) =
      some ((name ++ noArguments).length, quoted (name ++ noArguments)) := by
    simp only [callReference, hrun]
    rw [if_pos ⟨hne, by simp [noArguments]⟩, List.length_append]
    rfl
  obtain ⟨first, rest, rfl⟩ := List.exists_cons_of_ne_nil hne
  have hsign : ¬IsSign first := fun hsigned =>
    hsigned.not_mem (fun c hc => isNameChar_of_isCallChar (hname c hc)) List.mem_cons_self
  exact (markup_eq_callReference hsign _).trans hcall

section Name

variable {name : List Char} (hname : IsFunctionName name)

include hname in
/-- No markup is found up to the last digit of a name. -/
theorem misses_rdropWhile (behind : List Char) :
    markup.Misses behind (name.rdropWhile isCallChar) := by
  have hall : ∀ c ∈ name.rdropWhile isCallChar, isNameChar c :=
    fun c hc => hname.isNameChar c ((List.rdropWhile_prefix isCallChar name).subset hc)
  refine misses_markup (fun c hc hsign => hsign.not_mem hall hc) ?_
  obtain hnil | ⟨front, last, hlast⟩ := List.eq_nil_or_concat (name.rdropWhile isCallChar)
  · rw [hnil]
    trivial
  · have hdigit : isCallChar last = false := by
      have hstop := List.rdropWhile_last_not isCallChar name (by simp [hlast])
      simpa [hlast] using hstop
    rw [List.concat_eq_append] at hlast
    rw [hlast] at hall ⊢
    have hparen : '(' ∉ front ++ [last] := not_mem_of_isNameChar (by decide) hall
    refine misses_callReference (fun hmem => hparen (by simp [hmem])) hdigit ?_ behind
    rintro rfl
    exact hparen (by simp)

include hname in
theorem rewrite_call (behind : List Char) :
    rewrite markup (name ++ noArguments ++ behind) = quotedCall name ++ rewrite markup behind := by
  have hsplit : name ++ noArguments ++ behind = name.rdropWhile isCallChar ++
      (name.rtakeWhile isCallChar ++ noArguments ++ behind) := by
    rw [List.append_assoc, List.append_assoc, ← List.append_assoc (name.rdropWhile isCallChar),
      List.rdropWhile_append_rtakeWhile]
  rw [hsplit, rewrite_append_of_misses (misses_rdropWhile hname _), quotedCall,
    List.append_assoc (name.rdropWhile isCallChar), List.append_cancel_left_eq]
  split
  · next hnil => rw [hnil, List.nil_append, rewrite_append_of_misses (misses_noArguments _)]
  · next hne =>
    exact rewrite_append_of_match (by simp [noArguments])
      (markup_call hne (fun c => List.mem_rtakeWhile_imp) behind)

include hname in
/-- **What becomes of a call** between two texts. -/
theorem quoteMarkup_call {before : List Char} (hbefore : EndsApart before) (behind : List Char) :
    quoteMarkup (before ++ (name ++ noArguments ++ behind)) =
      quoteMarkup before ++ (quotedCall name ++ quoteMarkup behind) := by
  rw [quoteMarkup_eq_rewrite behind, ← rewrite_call hname, ← quoteMarkup_eq_rewrite]
  obtain ⟨first, rest, rfl, hfirst⟩ := hname.head
  exact quoteMarkup_append hbefore (isNameChar_of_isCallChar hfirst)

include hname in
theorem quotedCall_eq_quoted_iff :
    quotedCall name = quoted (name ++ noArguments) ↔ ∀ c ∈ name, ¬c.isDigit := by
  rw [← hname.rdropWhile_eq_nil_iff]
  have hparts : name.rdropWhile isCallChar ++ name.rtakeWhile isCallChar = name :=
    List.rdropWhile_append_rtakeWhile
  constructor
  · intro hquoted
    by_contra hne
    obtain ⟨first, rest, hfront⟩ := List.exists_cons_of_ne_nil hne
    rw [quotedCall, hfront] at hquoted
    rw [hfront] at hparts
    have hfirst : first = '\x60' := (List.cons.inj hquoted).1
    have hnamed := hname.isNameChar first (hparts ▸ List.mem_cons_self)
    rw [hfirst] at hnamed
    exact absurd hnamed (by decide)
  · intro hfront
    rw [hfront, List.nil_append] at hparts
    obtain ⟨first, rest, rfl, -⟩ := hname.head
    rw [quotedCall, hfront, hparts, if_neg (List.cons_ne_nil _ _), List.nil_append]

theorem length_quotedCall_le (name : List Char) :
    (quotedCall name).length ≤ (quoted (name ++ noArguments)).length := by
  have hparts : name.rdropWhile isCallChar ++ name.rtakeWhile isCallChar = name :=
    List.rdropWhile_append_rtakeWhile
  have hsize := congrArg List.length hparts
  rw [List.length_append] at hsize
  rw [quotedCall]
  split <;> simp [quoted] <;> omega

include hname in
theorem isWhiteSpace_of_mem_quoted_call :
    ∀ c ∈ quoted (name ++ noArguments), isWhiteSpace c = false := by
  simp only [quoted, List.forall_mem_append, List.forall_mem_cons, List.cons_append]
  refine ⟨by decide, ⟨fun c hc => ?_, eq_false_of_any (by decide)⟩, by decide,
    List.forall_mem_nil _⟩
  exact isWhiteSpace_of_isNameChar (hname.isNameChar c hc)

include hname in
/-- **A call is quoted as a whole just when its name has no digit.** Of a name that has one, only
what stands behind the last digit is quoted. -/
theorem quoted_call_iff :
    (∀ before behind, EndsApart before →
      block (before ++ (name ++ noArguments ++ behind)) =
        trim (quoteMarkup before ++ (quotedCall name ++ quoteMarkup behind))) ∧
    ((∀ before behind, EndsApart before →
      quoted (name ++ noArguments) <:+: block (before ++ (name ++ noArguments ++ behind))) ↔
        ∀ c ∈ name, ¬c.isDigit) := by
  have hblock : ∀ before behind, EndsApart before →
      block (before ++ (name ++ noArguments ++ behind)) =
        trim (quoteMarkup before ++ (quotedCall name ++ quoteMarkup behind)) :=
    fun before behind hbefore => by rw [block_eq, quoteMarkup_call hname hbefore]
  refine ⟨hblock, ?_⟩
  rw [← quotedCall_eq_quoted_iff hname]
  constructor
  · intro h
    -- On its own, the call leaves no room for more than what is written for it.
    have halone := h [] [] (by simp [EndsApart])
    rw [hblock [] [] (by simp [EndsApart])] at halone
    have hwhole : quoted (name ++ noArguments) <:+: quotedCall name := by
      have hall := halone.trans (trim_isInfix _)
      rwa [show quoteMarkup [] = [] from rfl, List.nil_append, List.append_nil] at hall
    exact (hwhole.eq_of_length_le (length_quotedCall_le name)).symm
  · intro hquoted before behind hbefore
    rw [hblock before behind hbefore, hquoted]
    exact isInfix_trim (isWhiteSpace_of_mem_quoted_call hname)
      ⟨quoteMarkup before, quoteMarkup behind, by simp⟩

end Name

/-- A name without a digit in a sentence, and one with a digit inside on its own. -/
theorem quoted_call_iff_strlen :
    quoted "gtk_window_show()".toList <:+: block "Use gtk_window_show().".toList ∧
      block "g_utf8_strlen()".toList = "g_utf8\x60_strlen()\x60".toList := by
  have hshow : IsFunctionName "gtk_window_show".toList :=
    isFunctionName_cons (by decide) (by decide)
  have hstrlen : IsFunctionName "g_utf8_strlen".toList :=
    isFunctionName_cons (by decide) (by decide)
  have hdigit : ∀ c ∈ "gtk_window_show".toList, ¬c.isDigit := by
    simp
  constructor
  · exact (quoted_call_iff hshow).2.mpr hdigit "Use ".toList ".".toList (by decide)
  · exact ((quoted_call_iff hstrlen).1 [] [] (by decide)).trans (by decide +kernel)

theorem not_forall_quoted_call :
    ¬∀ name, IsFunctionName name → ∀ before behind, EndsApart before →
      quoted (name ++ noArguments) <:+: block (before ++ (name ++ noArguments ++ behind)) := by
  intro h
  have hbroken : ¬quoted "g_utf8_strlen()".toList <:+: block "g_utf8_strlen()".toList := by
    decide +kernel
  exact hbroken (h "g_utf8_strlen".toList (isFunctionName_cons (by decide) (by decide)) [] []
    (by decide))

end GirStubs.Lua.Comment
