/-! # Rewriting a text from left to right

`rewrite rule` scans a text once. Where `rule` matches the rest of the text, the
matched characters are replaced, and the scan goes on behind them; it never
looks at what it has written. `replaceAll` is the case of one fixed word.
-/

namespace GirStubs.Text

/-- What a rule says at one place of a text: how many characters it takes from there (at least
one), and what stands in their place. -/
abbrev Rule := List Char → Option (Nat × List Char)

/-- Rewrites behind the next `skip` characters, which are dropped. -/
def rewriteAfter (rule : Rule) : Nat → List Char → List Char
  | _, [] => []
  | skip + 1, _ :: rest => rewriteAfter rule skip rest
  | 0, c :: rest =>
    match rule (c :: rest) with
    | none => c :: rewriteAfter rule 0 rest
    | some (taken, written) => written ++ rewriteAfter rule (taken - 1) rest

/-- Replaces every match of `rule`, the leftmost first. -/
def rewrite (rule : Rule) (text : List Char) : List Char := rewriteAfter rule 0 text

theorem rewriteAfter_eq_drop (rule : Rule) (skip : Nat) (text : List Char) :
    rewriteAfter rule skip text = rewrite rule (text.drop skip) := by
  induction text generalizing skip with
  | nil => cases skip <;> simp [rewriteAfter, rewrite]
  | cons c rest ih =>
    cases skip with
    | zero => rfl
    | succ skip => simpa [rewriteAfter] using ih skip

@[simp]
theorem rewrite_nil (rule : Rule) : rewrite rule [] = [] := rfl

/-- Where the rule does not match, the character is kept. -/
theorem rewrite_cons_none {rule : Rule} {c : Char} {rest : List Char}
    (h : rule (c :: rest) = none) : rewrite rule (c :: rest) = c :: rewrite rule rest := by
  simp [rewrite, rewriteAfter, h]

/-- Where the rule matches, the scan goes on behind the match. -/
theorem rewrite_cons_some {rule : Rule} {c : Char} {rest written : List Char} {taken : Nat}
    (h : rule (c :: rest) = some (taken, written)) :
    rewrite rule (c :: rest) = written ++ rewrite rule (rest.drop (taken - 1)) := by
  rw [← rewriteAfter_eq_drop]
  simp [rewrite, rewriteAfter, h]

/-- Matches `word` and writes `replacement` for it. -/
def literal (word replacement : List Char) : Rule := fun text =>
  if word.isPrefixOf text then some (word.length, replacement) else none

/-- Replaces every occurrence of a non-empty word, the leftmost first. -/
def replaceAll (word replacement text : List Char) : List Char :=
  rewrite (literal word replacement) text

end GirStubs.Text
