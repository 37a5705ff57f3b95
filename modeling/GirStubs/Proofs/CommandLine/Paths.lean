import GirStubs.CommandLine.FileTree
import GirStubs.Proofs.Gir.Identifier

/-!
# Paths of documents

A path leads step by step along what stands between its slashes, so two paths with a slash between
them lead to the one place below the other (`placeOf_append_slash`). The file of an identifier is
one step below the directory that is searched, whatever that directory is: the hyphen in its name
keeps it apart from the two names that lead elsewhere, and no character of an identifier is a slash
(`isEntryName_fileName`). Two identifiers never share a file (`parse?_pathIn`).
-/

namespace GirStubs.CommandLine

open Gir (Identifier)
open Unicode

/-! ## Places -/

/-- The name is that of an entry of a directory: it leads neither further down nor elsewhere. -/
structure IsEntryName (name : String) : Prop where
  name_ne : name ≠ ""
  slash_not_mem : '/' ∉ name.toList
  ne_here : name ≠ "."
  ne_up : name ≠ ".."

/-- The path starts outside the working directory. -/
def IsAbsolute (path : String) : Prop := path.toList.head? = some '/'

instance (path : String) : Decidable (IsAbsolute path) := inferInstanceAs (Decidable (_ = _))

/-- The path leads from where the directory does to the entry of it with a name. -/
structure LeadsToEntry (directory name path : String) : Prop where
  isEntryName : IsEntryName name
  isAbsolute_iff : IsAbsolute path ↔ IsAbsolute directory
  place : placeOf path = placeOf directory ++ [name]

theorem components_append_slash (first second : String) :
    components (first ++ "/" ++ second) = components first ++ components second := by
  have hchars : (first ++ "/" ++ second).toList = first.toList ++ '/' :: second.toList := by simp
  rw [components, hchars, List.splitOn_append_cons_self, List.map_append]
  rfl

/-- What stands behind a slash is looked for from the place that the path before it names. -/
theorem placeOf_append_slash (first second : String) :
    placeOf (first ++ "/" ++ second) = placeOf first ++ placeOf second := by
  rw [placeOf, components_append_slash, List.filter_append]
  rfl

theorem placeOf_empty : placeOf "" = [] := by decide

theorem IsEntryName.placeOf_eq {name : String} (h : IsEntryName name) : placeOf name = [name] := by
  rw [placeOf, components, List.splitOn_eq_singleton h.slash_not_mem]
  simp [h.name_ne, h.ne_here]

/-! ## Files of identifiers -/

section Directory

variable {directory : String} {i i' : Identifier}

/-- The path of a directory, ready for the name of an entry to follow. -/
def opened (directory : String) : String :=
  if directory = "" ∨ directory.toList.getLast? = some '/' then directory else directory ++ "/"

theorem placeOf_opened_append (directory name : String) :
    placeOf (opened directory ++ name) = placeOf directory ++ placeOf name := by
  unfold opened
  split
  · next hended =>
    obtain rfl | hslash := hended
    · rw [placeOf_empty, String.empty_append, List.nil_append]
    · -- The slash is there already, with nothing behind it.
      obtain ⟨front, hfront⟩ := List.getLast?_eq_some_iff.mp hslash
      obtain rfl : directory = String.ofList front ++ "/" := by
        rw [← String.toList_inj, hfront]
        simp
      have hplace : placeOf (String.ofList front ++ "/") = placeOf (String.ofList front) := by
        simpa [placeOf_empty] using placeOf_append_slash (String.ofList front) ""
      rw [placeOf_append_slash, hplace]
  · exact placeOf_append_slash directory name

theorem isAbsolute_opened_append {name : String} (h : '/' ∉ name.toList) :
    IsAbsolute (opened directory ++ name) ↔ IsAbsolute directory := by
  unfold IsAbsolute opened
  rw [String.toList_append]
  by_cases hempty : directory = ""
  · subst hempty
    have hname : name.toList.head? ≠ some '/' := fun hhead => h (List.mem_of_mem_head? hhead)
    simpa using hname
  · have hne : directory.toList ≠ [] := fun hnil => hempty (String.toList_eq_nil_iff.mp hnil)
    obtain ⟨c, rest, hchars⟩ := List.exists_cons_of_ne_nil hne
    split
    · simp [hchars]
    · simp [hchars]

theorem toList_fileName (i : Identifier) :
    i.fileName.toList = i.home.toList ++ '-' :: (i.version.toList ++ ".gir".toList) := by
  simp [Identifier.fileName, Identifier.render]

/-- The file of an identifier is an entry of a directory. -/
theorem isEntryName_fileName (h : i.WellFormed) : IsEntryName i.fileName := by
  have hhyphen : '-' ∈ i.fileName.toList := by simp [toList_fileName]
  refine ⟨?_, ?_, ?_, ?_⟩
  · exact fun heq => absurd (heq ▸ hhyphen) (by decide)
  · rw [toList_fileName, List.mem_append, List.mem_cons, List.mem_append]
    rintro (hhome | hmark | hversion | hending)
    · exact absurd (h.isWordCharacter_of_mem '/' hhome) (by decide +kernel)
    · exact absurd hmark (by decide)
    · exact absurd (h.isVersionChar_of_mem '/' hversion) (by decide +kernel)
    · exact absurd hending (by decide)
  · exact fun heq => absurd (heq ▸ hhyphen) (by decide)
  · exact fun heq => absurd (heq ▸ hhyphen) (by decide)

theorem pathIn_eq (h : i.WellFormed) (directory : String) :
    i.pathIn directory = opened directory ++ i.fileName := by
  have hhead : i.fileName.toList.head? ≠ some '/' := fun hslash =>
    (isEntryName_fileName h).slash_not_mem (List.mem_of_mem_head? hslash)
  rw [Identifier.pathIn, if_neg hhead, opened]
  split <;> rfl

theorem leadsToEntry_pathIn (h : i.WellFormed) (directory : String) :
    LeadsToEntry directory i.fileName (i.pathIn directory) := by
  have hname := isEntryName_fileName h
  rw [pathIn_eq h]
  exact ⟨hname, isAbsolute_opened_append hname.slash_not_mem,
    by rw [placeOf_opened_append, hname.placeOf_eq]⟩

theorem render_of_pathIn_eq (h : i.WellFormed) (h' : i'.WellFormed)
    (hsame : i.pathIn directory = i'.pathIn directory) : i.render = i'.render := by
  rw [pathIn_eq h, pathIn_eq h', String.append_right_inj] at hsame
  exact (String.append_left_inj _).mp hsame

/-- A text is cut in one way only. -/
theorem eq_of_render_eq (h : i.WellFormed) (h' : i'.WellFormed) (heq : i.render = i'.render) :
    i = i' := by
  have hread := Identifier.parse?_render h
  rw [heq, Identifier.parse?_render h'] at hread
  exact (Option.some.inj hread).symm

end Directory

/-- **Identifiers are read as they are written, and each has a file of its own.** A text is an
identifier just when it is word characters, a hyphen, and digits and dots, neither part empty; it
can be cut in one way only and is written back as it was. In every directory different texts lead
to different files, and each of them is an entry of that directory. -/
theorem parse?_pathIn :
    (∀ (text : String) (i : Identifier), Identifier.parse? text = some i ↔
      text = i.home ++ "-" ++ i.version ∧
        (i.home ≠ "" ∧ ∀ c ∈ i.home.toList, isWordCharacter c) ∧
        (i.version ≠ "" ∧ ∀ c ∈ i.version.toList, isDecimalDigit c ∨ c = '.')) ∧
    (∀ i i' : Identifier, i.WellFormed → i'.WellFormed → i.render = i'.render → i = i') ∧
    ∀ (directory text : String) (i : Identifier), Identifier.parse? text = some i →
      i.render = text ∧ i.pathIn directory = opened directory ++ text ++ ".gir" ∧
      LeadsToEntry directory (text ++ ".gir") (i.pathIn directory) ∧
      ∀ (text' : String) (i' : Identifier), Identifier.parse? text' = some i' →
        i.pathIn directory = i'.pathIn directory → text = text' := by
  refine ⟨fun text i => ?_, fun i i' => eq_of_render_eq, fun directory text i hread => ?_⟩
  · rw [Identifier.parse?_eq_some_iff]
    constructor
    · rintro ⟨h, rfl⟩
      refine ⟨rfl, ⟨h.home_ne, h.isWordCharacter_of_mem⟩, h.version_ne, fun c hc => ?_⟩
      simpa [Identifier.isVersionChar] using h.isVersionChar_of_mem c hc
    · rintro ⟨rfl, ⟨hhome, hword⟩, hversion, hchars⟩
      refine ⟨⟨hhome, hword, hversion, fun c hc => ?_⟩, rfl⟩
      simpa [Identifier.isVersionChar] using hchars c hc
  · obtain ⟨hwell, rfl⟩ := Identifier.of_parse? hread
    refine ⟨rfl, ?_, leadsToEntry_pathIn hwell directory, fun text' i' hread' hsame => ?_⟩
    · rw [pathIn_eq hwell, Identifier.fileName, String.append_assoc]
    · obtain ⟨hwell', rfl⟩ := Identifier.of_parse? hread'
      exact render_of_pathIn_eq hwell hwell' hsame

/-- Two versions that differ in one dot. -/
theorem parse?_pathIn_versions :
    let i : Identifier := ⟨"Gtk", "4.0"⟩
    let i' : Identifier := ⟨"Gtk", "4..0"⟩
    Identifier.parse? "Gtk-4.0" = some i ∧ Identifier.parse? "Gtk-4..0" = some i' ∧
      i.pathIn "../gir//" = "../gir//Gtk-4.0.gir" ∧
      LeadsToEntry "../gir//" "Gtk-4.0.gir" (i.pathIn "../gir//") ∧
      placeOf (i.pathIn "../gir//") = ["..", "gir", "Gtk-4.0.gir"] ∧
      i.pathIn "../gir//" ≠ i'.pathIn "../gir//" := by
  have hread : Identifier.parse? "Gtk-4.0" = some ⟨"Gtk", "4.0"⟩ := by
    decide +kernel
  have hread' : Identifier.parse? "Gtk-4..0" = some ⟨"Gtk", "4..0"⟩ := by
    decide +kernel
  obtain ⟨-, hpath, hleads, hapart⟩ := parse?_pathIn.2.2 "../gir//" "Gtk-4.0" _ hread
  refine ⟨hread, hread', hpath.trans (by decide), hleads, hleads.place.trans (by decide), ?_⟩
  exact fun hsame => absurd (hapart "Gtk-4..0" _ hread' hsame) (by decide)

end GirStubs.CommandLine
