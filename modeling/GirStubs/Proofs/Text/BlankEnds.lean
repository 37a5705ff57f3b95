import GirStubs.Proofs.Text.Blank
import GirStubs.Proofs.Text.Lines
import GirStubs.Proofs.Text.Rewriting
import Mathlib.Data.List.DropRight

/-!
# Line feeds at the ends of a text

The white space at the start of a text may hold a line feed (`StartsBlank`), and so may the white
space at its end (`EndsBlank`): the first line, or the last one, is blank then and not the only one.
`trim` takes a line feed off in these two cases (`count_trim_lt`) and in no other
(`exists_trim_split`). A function that works line by line and makes no line blank that is not
(`LineWise`) moves neither end (`LineWise.startsBlank_iff`, `LineWise.endsBlank_iff`).
-/

namespace GirStubs.Text

open Unicode

/-- The white space at the start holds a line feed. -/
def StartsBlank (text : List Char) : Prop := '\n' ∈ text.takeWhile isWhiteSpace

/-- The white space at the end holds a line feed. -/
def EndsBlank (text : List Char) : Prop := '\n' ∈ text.rtakeWhile isWhiteSpace

instance (text : List Char) : Decidable (StartsBlank text) := inferInstanceAs (Decidable (_ ∈ _))

instance (text : List Char) : Decidable (EndsBlank text) := inferInstanceAs (Decidable (_ ∈ _))

theorem endsBlank_iff_reverse {text : List Char} : EndsBlank text ↔ StartsBlank text.reverse :=
  List.mem_reverse

theorem StartsBlank.mem {text : List Char} (h : StartsBlank text) : '\n' ∈ text :=
  (List.takeWhile_prefix _).subset h

theorem EndsBlank.mem {text : List Char} (h : EndsBlank text) : '\n' ∈ text :=
  List.rtakeWhile_suffix _ _ |>.subset h

/-- A text starts blank when its first line is blank. -/
theorem startsBlank_append_cons {line : List Char} (hline : '\n' ∉ line) (rest : List Char) :
    StartsBlank (line ++ '\n' :: rest) ↔ isBlank line := by
  have hfeed : isWhiteSpace '\n' := by
    decide
  constructor
  · intro h
    by_contra hblank
    rw [StartsBlank, List.takeWhile_append, if_neg] at h
    · exact hline ((List.takeWhile_prefix _).subset h)
    · intro hsize
      have hall := (List.takeWhile_prefix isWhiteSpace (l := line)).eq_of_length hsize
      exact hblank (List.all_eq_true.mpr (List.takeWhile_eq_self_iff.mp hall))
  · intro h
    rw [StartsBlank, List.takeWhile_append_of_pos (List.all_eq_true.mp h),
      List.takeWhile_cons_of_pos hfeed]
    simp

/-- A text ends blank when its last line is blank. -/
theorem endsBlank_append_cons {line : List Char} (hline : '\n' ∉ line) (front : List Char) :
    EndsBlank (front ++ '\n' :: line) ↔ isBlank line := by
  have hreverse : (front ++ '\n' :: line).reverse = line.reverse ++ '\n' :: front.reverse := by
    simp
  rw [endsBlank_iff_reverse, hreverse, startsBlank_append_cons (by simpa using hline),
    isBlank_reverse]

/-- The last line of a text. -/
theorem exists_last_line {text : List Char} (h : '\n' ∈ text) :
    ∃ front line, text = front ++ '\n' :: line ∧ '\n' ∉ line := by
  obtain ⟨line, front, hreverse, hline⟩ := List.eq_append_cons_of_mem (List.mem_reverse.mpr h)
  refine ⟨front.reverse, line.reverse, ?_, by simpa using hline⟩
  rw [← List.reverse_reverse text, hreverse]
  simp

theorem StartsBlank.exists_line {text : List Char} (h : StartsBlank text) :
    ∃ line rest, text = line ++ '\n' :: rest ∧ '\n' ∉ line ∧ isBlank line := by
  obtain ⟨line, rest, rfl, hline⟩ := List.eq_append_cons_of_mem h.mem
  exact ⟨line, rest, rfl, hline, (startsBlank_append_cons hline rest).mp h⟩

theorem EndsBlank.exists_line {text : List Char} (h : EndsBlank text) :
    ∃ front line, text = front ++ '\n' :: line ∧ '\n' ∉ line ∧ isBlank line := by
  obtain ⟨front, line, rfl, hline⟩ := exists_last_line h.mem
  exact ⟨front, line, rfl, hline, (endsBlank_append_cons hline front).mp h⟩

/-! ## Trimming -/

theorem not_startsBlank_append {before rest : List Char} (hbefore : isBlank before)
    (h : ¬StartsBlank (before ++ rest)) : '\n' ∉ before := by
  intro hmem
  refine h ?_
  rw [StartsBlank, List.takeWhile_append_of_pos (List.all_eq_true.mp hbefore)]
  exact List.mem_append_left _ hmem

theorem not_endsBlank_append {front behind : List Char} (hbehind : isBlank behind)
    (h : ¬EndsBlank (front ++ behind)) : '\n' ∉ behind := by
  rw [endsBlank_iff_reverse, List.reverse_append] at h
  have hfeed := not_startsBlank_append (by rwa [isBlank_reverse]) h
  simpa using hfeed

/-- Where neither end is blank, no line feed is trimmed off. -/
theorem exists_trim_split {text : List Char} (hstart : ¬StartsBlank text) (hend : ¬EndsBlank text) :
    ∃ before behind, text = before ++ trim text ++ behind ∧ isBlank before ∧ isBlank behind ∧
      '\n' ∉ before ∧ '\n' ∉ behind := by
  obtain ⟨before, behind, htext, hbefore, hbehind⟩ := trim_split text
  rw [← List.all_eq_true] at hbefore hbehind
  refine ⟨before, behind, htext, hbefore, hbehind, ?_, ?_⟩
  · rw [htext, List.append_assoc] at hstart
    exact not_startsBlank_append hbefore hstart
  · rw [htext] at hend
    exact not_endsBlank_append hbehind hend

theorem count_trim_le (c : Char) (text : List Char) : (trim text).count c ≤ text.count c :=
  (trim_isInfix text).sublist.count_le c

/-- Where an end is blank, a line feed is trimmed off. -/
theorem count_trim_lt {text : List Char} (h : StartsBlank text ∨ EndsBlank text) :
    (trim text).count '\n' < text.count '\n' := by
  have hfeed : isBlank ['\n'] := by
    decide
  rcases h with hstart | hend
  · obtain ⟨line, rest, rfl, -, hblank⟩ := hstart.exists_line
    have hsame : trim (line ++ '\n' :: rest) = trim rest := by
      have hfront : isBlank (line ++ ['\n']) := by
        rw [isBlank_append, hblank, hfeed]
        rfl
      simpa using trim_append hfront (show isBlank [] from rfl) rest
    have hle := count_trim_le '\n' rest
    rw [hsame, List.count_append, List.count_cons_self]
    omega
  · obtain ⟨front, line, rfl, -, hblank⟩ := hend.exists_line
    have hsame : trim (front ++ '\n' :: line) = trim front := by
      have hback : isBlank ('\n' :: line) := by
        rw [← List.singleton_append, isBlank_append, hblank, hfeed]
        rfl
      simpa using trim_append (show isBlank [] from rfl) hback front
    have hle := count_trim_le '\n' front
    rw [hsame, List.count_append, List.count_cons_self]
    omega

/-! ## Functions that work line by line -/

/-- The function rewrites the two sides of a line feed on their own, brings none in, and leaves
blank texts and no others blank. -/
structure LineWise (f : List Char → List Char) : Prop where
  append : ∀ before behind, f (before ++ '\n' :: behind) = f before ++ '\n' :: f behind
  not_mem : ∀ {text}, '\n' ∉ text → '\n' ∉ f text
  blank : ∀ text, isBlank (f text) = isBlank text

theorem LineWise.comp {f g : List Char → List Char} (hf : LineWise f) (hg : LineWise g) :
    LineWise (f ∘ g) where
  append before behind := by simp only [Function.comp, hg.append, hf.append]
  not_mem h := hf.not_mem (hg.not_mem h)
  blank text := (hf.blank _).trans (hg.blank text)

section LineWise

variable {f : List Char → List Char} (hf : LineWise f) {text : List Char}

include hf in
theorem LineWise.startsBlank_iff : StartsBlank (f text) ↔ StartsBlank text := by
  by_cases hmem : '\n' ∈ text
  · obtain ⟨line, rest, rfl, hline⟩ := List.eq_append_cons_of_mem hmem
    rw [hf.append, startsBlank_append_cons (hf.not_mem hline), startsBlank_append_cons hline,
      hf.blank]
  · exact iff_of_false (fun h => hf.not_mem hmem h.mem) fun h => hmem h.mem

include hf in
theorem LineWise.endsBlank_iff : EndsBlank (f text) ↔ EndsBlank text := by
  by_cases hmem : '\n' ∈ text
  · obtain ⟨front, line, rfl, hline⟩ := exists_last_line hmem
    rw [hf.append, endsBlank_append_cons (hf.not_mem hline), endsBlank_append_cons hline,
      hf.blank]
  · exact iff_of_false (fun h => hf.not_mem hmem h.mem) fun h => hmem h.mem

include hf in
theorem LineWise.splitOn (text : List Char) :
    (f text).splitOn '\n' = (text.splitOn '\n').map f := by
  refine line_induction
    (motive := fun text => (f text).splitOn '\n' = (text.splitOn '\n').map f) ?_ ?_ text
  · intro line hline
    rw [List.splitOn_eq_singleton hline, List.splitOn_eq_singleton (hf.not_mem hline)]
    rfl
  · intro line rest hline ih
    rw [hf.append, List.splitOn_append_cons_self_of_not_mem (hf.not_mem hline),
      List.splitOn_append_cons_self_of_not_mem hline, ih, List.map_cons]

include hf in
/-- A text is kept when each of its lines is. -/
theorem LineWise.map_eq_self_iff :
    (text.splitOn '\n').map f = text.splitOn '\n' ↔ f text = text := by
  have hinverse : Function.LeftInverse ['\n'].intercalate (List.splitOn '\n') :=
    fun _ => List.intercalate_splitOn '\n'
  rw [← hf.splitOn]
  exact hinverse.injective.eq_iff

end LineWise

/-- A match starts with a character that is no white space, and what is written for it is not
blank. -/
def Rule.Visible (rule : Rule) : Prop :=
  ∀ c rest taken written, rule (c :: rest) = some (taken, written) →
    isWhiteSpace c = false ∧ isBlank written = false

theorem isBlank_rewrite {rule : Rule} (h : rule.Visible) (text : List Char) :
    isBlank (rewrite rule text) = isBlank text := by
  refine rewrite_induction rule (motive := fun text out => isBlank out = isBlank text) ?_ ?_ ?_ text
  · rfl
  · intro c rest _ ih
    exact congrArg (isWhiteSpace c && ·) ih
  · intro c rest taken written hmatch _
    obtain ⟨hc, hwritten⟩ := h _ _ _ _ hmatch
    have htext : isBlank (c :: rest) = (isWhiteSpace c && isBlank rest) := rfl
    rw [isBlank_append, hwritten, htext, hc, Bool.false_and, Bool.false_and]

theorem isBlank_rewriteAll {rules : List Rule} (h : ∀ rule ∈ rules, rule.Visible)
    (text : List Char) : isBlank (rewriteAll rules text) = isBlank text := by
  induction rules generalizing text with
  | nil => rfl
  | cons rule rules ih =>
    rw [List.forall_mem_cons] at h
    rw [rewriteAll, ih h.2, isBlank_rewrite h.1]

end GirStubs.Text
