import GirStubs.Proofs.Text.LineEnd
import GirStubs.Stub.Document

/-!
# Line ends make no difference to a stub

A document is read without regard to how its line ends are spelled, so neither its tree nor its
stub depends on that. Where it is refused, the place is counted in the text that is read, and so
the fault is the same at the same offset.
-/

namespace GirStubs.Stub

open Gir (Options)
open Markup (Document.characters Document.parse)
open Text

theorem characters_of_respelled {text respelled : String}
    (h : Respelled text.toList respelled.toList) (hplain : '\r' ∉ text.toList) :
    Document.characters respelled = Document.characters text := by
  unfold Document.characters
  rw [unifyLineEnds_of_respelled h hplain, unifyLineEnds_of_not_mem hplain]

/-- **Line ends may be spelled at will.** The tree and the stub of a document are the same, and so
is the fault, with its offset and its message, where there is none. -/
theorem generate_of_respelled {text respelled : String}
    (h : Respelled text.toList respelled.toList) (hplain : '\r' ∉ text.toList) :
    Document.parse respelled = Document.parse text ∧
      ∀ options, generate options respelled = generate options text := by
  have hparse : Document.parse respelled = Document.parse text := by
    unfold Document.parse
    rw [characters_of_respelled h hplain]
  refine ⟨hparse, fun options => ?_⟩
  unfold generate Gir.readModule Gir.readTree
  rw [hparse]

/-- Two empty lines in a row and a fault behind them, with line feeds only. -/
def openRecord : String := "<namespace>\n\n\n<record name='\n'>\n"

/-- The same with every spelling of a line end, next to each other and in a value. -/
def openRecordRespelled : String := "<namespace>\r\n\r\r\n<record name='\r'>\n"

theorem generate_openRecord :
    Respelled openRecord.toList openRecordRespelled.toList ∧ '\r' ∉ openRecord.toList ∧
      Document.parse openRecordRespelled = Document.parse openRecord ∧
      ∀ options, generate options openRecordRespelled = generate options openRecord := by
  have hplain : '\r' ∉ openRecord.toList := by decide
  have h : Respelled openRecord.toList openRecordRespelled.toList :=
    (respelled_iff hplain).mpr (by decide)
  exact ⟨h, hplain, generate_of_respelled h hplain⟩

end GirStubs.Stub
