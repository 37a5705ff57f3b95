import GirStubs.Lua.Comment
import GirStubs.Proofs.Lua.Identifier
import GirStubs.Proofs.Text.Lines

/-!
# Statements

The statements of a stub define tables and functions and return a table. `Statement.render` writes
them on one line each, and a line is a statement when it is written from names that are
identifiers (`IsStatement`). What stands before the first blank of a line tells the statements
apart, so the names of a table can be read off its line (`isIdentifier_of_isStatement`).
-/

namespace GirStubs.Lua

open Text

/-- ASCII letters, digits and underscores, at least one. -/
def IsWord (name : String) : Prop :=
  name ≠ "" ∧ ∀ c ∈ name.toList, Comment.isNameChar c

-- Through `List.all`: there are instances that would look at every character there is.
instance (name : String) : Decidable (IsWord name) :=
  decidable_of_iff (name ≠ "" ∧ name.toList.all Comment.isNameChar)
    (and_congr_right fun _ => List.all_eq_true)

structure IsIdentifier (name : String) : Prop where
  word : IsWord name
  safe : IsSafe name

instance (name : String) : Decidable (IsSafe name) :=
  decidable_of_iff (name ∉ keywords ∧ startsWithDigit name = false)
    ⟨fun h => ⟨h.1, h.2⟩, fun h => ⟨h.not_keyword, h.not_digit⟩⟩

instance (name : String) : Decidable (IsIdentifier name) :=
  decidable_of_iff (IsWord name ∧ IsSafe name) ⟨fun h => ⟨h.1, h.2⟩, fun h => ⟨h.word, h.safe⟩⟩

/-- The statements that define tables and functions, and the one that returns a table. The table
in a statement is reached from its first name through the others. -/
inductive Statement where
  | localTable (name : String)
  | giveBack (name : String)
  | table (first : String) (path : List String)
  | function (first : String) (path : List String) (isMethod : Bool) (name : String)
      (arguments : List String)

namespace Statement

/-- A table as it is reached. -/
def tablePath (first : String) (path : List String) : String := ".".intercalate (first :: path)

def render : Statement → String
  | localTable name => "local " ++ name ++ " = \x7b\x7d"
  | giveBack name => "return " ++ name
  | table first path => tablePath first path ++ " = \x7b\x7d"
  | function first path isMethod name arguments =>
    "function " ++ tablePath first path ++ (if isMethod then ":" else ".") ++ name ++ "(" ++
      ", ".intercalate arguments ++ ") end"

def names : Statement → List String
  | localTable name => [name]
  | giveBack name => [name]
  | table first path => first :: path
  | function first path _ name arguments => first :: path ++ name :: arguments

/-- What stands before the first blank. -/
def lead : Statement → String
  | localTable _ => "local"
  | giveBack _ => "return"
  | table first path => tablePath first path
  | function .. => "function"

theorem render_eq_lead (s : Statement) :
    ∃ rest, s.render.toList = s.lead.toList ++ ' ' :: rest := by
  cases s with
  | localTable name => exact ⟨(name ++ " = \x7b\x7d").toList, by simp [render, lead]⟩
  | giveBack name => exact ⟨name.toList, by simp [render, lead]⟩
  | table first path => exact ⟨"= \x7b\x7d".toList, by simp [render, lead]⟩
  | function first path isMethod name arguments =>
    refine ⟨(tablePath first path ++ (if isMethod then ":" else ".") ++ name ++ "(" ++
      ", ".intercalate arguments ++ ") end").toList, ?_⟩
    simp [render, lead]

end Statement

/-- The line is a statement with identifiers for its names. -/
def IsStatement (line : String) : Prop :=
  ∃ s : Statement, (∀ name ∈ s.names, IsIdentifier name) ∧ s.render = line

/-! ## Words -/

theorem not_mem_of_isWord {name : String} {c : Char} (h : IsWord name)
    (hc : Comment.isNameChar c = false) : c ∉ name.toList := by
  intro hmem
  have hname := h.2 c hmem
  rw [hc] at hname
  exact Bool.false_ne_true hname

theorem oneLine_of_isWord {name : String} (h : IsWord name) : OneLine name :=
  not_mem_of_isWord h (by decide)

theorem isWord_append {first second : String} (h : IsWord first)
    (hsecond : ∀ c ∈ second.toList, Comment.isNameChar c) : IsWord (first ++ second) := by
  refine ⟨fun hempty => h.1 (String.append_eq_empty_iff.mp hempty).1, ?_⟩
  rw [String.toList_append]
  exact List.forall_mem_append.mpr ⟨h.2, hsecond⟩

theorem isWord_safeIdentifier {name : String} (h : IsWord name) : IsWord (safeIdentifier name) := by
  have hmark : IsWord "__" := by decide
  unfold safeIdentifier
  split
  · exact isWord_append h hmark.2
  split
  · exact isWord_append hmark h.2
  · exact h

theorem isIdentifier_safeIdentifier {name : String} (h : IsWord name) :
    IsIdentifier (safeIdentifier name) :=
  ⟨isWord_safeIdentifier h, isSafe_safeIdentifier name⟩

/-! ## Names of a table -/

theorem tablePath_toList (first : String) (path : List String) :
    (Statement.tablePath first path).toList =
      ['.'].intercalate ((first :: path).map String.toList) :=
  String.toList_intercalate

/-- The names in the path of a table are found between its dots. -/
theorem splitOn_tablePath {first : String} {path : List String}
    (h : ∀ name ∈ first :: path, IsWord name) :
    (Statement.tablePath first path).toList.splitOn '.' = (first :: path).map String.toList := by
  rw [tablePath_toList]
  refine List.splitOn_intercalate '.' ?_ (List.cons_ne_nil _ _)
  rw [List.forall_mem_map]
  exact fun name hname => not_mem_of_isWord (h name hname) (by decide)

theorem blank_not_mem_lead {s : Statement} (h : ∀ name ∈ s.names, IsWord name) :
    ' ' ∉ s.lead.toList := by
  cases s with
  | localTable name => exact (by decide : ' ' ∉ "local".toList)
  | giveBack name => exact (by decide : ' ' ∉ "return".toList)
  | table first path =>
    refine not_mem_intercalate (by decide) fun name hname => ?_
    exact not_mem_of_isWord (h name hname) (by decide)
  | function first path isMethod name arguments => exact (by decide : ' ' ∉ "function".toList)

/-- Of the statements only a table is led by a dotted name. -/
theorem eq_table_of_dot_mem_lead {s : Statement} (h : '.' ∈ s.lead.toList) :
    ∃ first path, s = .table first path := by
  cases s with
  | localTable name => exact absurd h (by decide : '.' ∉ "local".toList)
  | giveBack name => exact absurd h (by decide : '.' ∉ "return".toList)
  | table first path => exact ⟨first, path, rfl⟩
  | function first path isMethod name arguments =>
    exact absurd h (by decide : '.' ∉ "function".toList)

/-- A line that defines a table in a namespace is a statement only when the name of the table is an
identifier. -/
theorem isIdentifier_of_isStatement {home name : String} (hhome : IsWord home) (hname : IsWord name)
    (h : IsStatement (Statement.table home [name]).render) : IsIdentifier name := by
  obtain ⟨s, hnames, hrender⟩ := h
  have hwords : ∀ other ∈ (Statement.table home [name]).names, IsWord other :=
    List.forall_mem_cons.mpr ⟨hhome, List.forall_mem_singleton.mpr hname⟩
  -- No path and no word that leads a statement holds a blank, so the first blank ends the lead in
  -- both, and what leads the line has a dot.
  have hlead : s.lead.toList = (Statement.tablePath home [name]).toList := by
    obtain ⟨rest, hrest⟩ := s.render_eq_lead
    obtain ⟨behind, hbehind⟩ := (Statement.table home [name]).render_eq_lead
    have hblank : ' ' ∉ s.lead.toList :=
      blank_not_mem_lead fun other hother => (hnames other hother).word
    rw [hrender, hbehind] at hrest
    have hcut := congrArg (List.splitOn ' ') hrest
    rw [List.splitOn_append_cons_self_of_not_mem (blank_not_mem_lead hwords),
      List.splitOn_append_cons_self_of_not_mem hblank] at hcut
    exact (List.cons.inj hcut).1.symm
  have hdot : '.' ∈ s.lead.toList := by
    rw [hlead]
    simp [Statement.tablePath]
  obtain ⟨first, path, rfl⟩ := eq_table_of_dot_mem_lead hdot
  have hpath : (first :: path).map String.toList = [home, name].map String.toList := by
    rw [← splitOn_tablePath fun other hother => (hnames other hother).word,
      ← splitOn_tablePath hwords]
    exact congrArg (List.splitOn '.') hlead
  have hsame : first :: path = [home, name] :=
    (List.map_inj_right fun _ _ => String.toList_inj.mp).mp hpath
  exact hnames name (by simp [Statement.names, hsame])

end GirStubs.Lua
