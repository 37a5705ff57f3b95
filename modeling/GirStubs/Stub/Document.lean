import GirStubs.Gir.Document
import GirStubs.Stub.Render

/-! # From a document to its stub

The whole way from the text of a document to the text of its stub module.
-/

namespace GirStubs.Stub

/-- The text of the module that a document describes. -/
def generate (options : Gir.Options) (document : String) : Except Gir.Failure String :=
  (Gir.readModule options document).map moduleText

end GirStubs.Stub
