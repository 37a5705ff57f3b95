import GirStubs.Unicode.Lowercase
import GirStubs.Text.Quoted
import GirStubs.Text.Blank
import GirStubs.Text.LineEnd
import GirStubs.Text.Rewrite
import GirStubs.Unicode.DecimalDigit
import GirStubs.Unicode.WordCharacter
import GirStubs.Markup.LocalName
import GirStubs.Markup.Reference
import GirStubs.Markup.Document
import GirStubs.Lua.Comment
import GirStubs.Lua.Identifier
import GirStubs.Api.Declaration
import GirStubs.Gir.Visibility
import GirStubs.Gir.TypeName
import GirStubs.Api.Json
import GirStubs.Gir.Document
import GirStubs.Gir.Identifier
import GirStubs.Stub.Render
import GirStubs.Main
import GirStubs.Proofs.Lua.Comment
import GirStubs.Proofs.Api.Labels
import GirStubs.Proofs.Stub.Entries
import GirStubs.Proofs.Stub.CodeLines
import GirStubs.Proofs.Markup.AttributeList
import GirStubs.Proofs.Markup.Grammar
import GirStubs.Proofs.Markup.Builder
import GirStubs.Proofs.Markup.Writer
import GirStubs.Proofs.Markup.ReadBack
import GirStubs.Proofs.Lua.Identifier
import GirStubs.Proofs.Api.WellFormed
import GirStubs.Proofs.Gir.WellFormed
import GirStubs.Proofs.Gir.TypeTerm
import GirStubs.Proofs.Gir.Pruning
import GirStubs.Proofs.Stub.Blocks
import GirStubs.Proofs.Lua.Statement
import GirStubs.Proofs.Markup.Subtree
import GirStubs.Proofs.Gir.Names
import GirStubs.Proofs.Stub.Statements
import GirStubs.Proofs.Stub.LineEnds
import GirStubs.Proofs.CommandLine.Commands
import GirStubs.Proofs.CommandLine.Paths
import GirStubs.Proofs.Gir.AliasTargets
import GirStubs.Proofs.Markup.Comments
import GirStubs.Proofs.Lua.TypeExpr
import GirStubs.Proofs.Stub.Signatures
import GirStubs.Proofs.Stub.Results
import GirStubs.Proofs.Gir.QualifiedNames
import GirStubs.Proofs.Gir.TypeSkeleton
import GirStubs.Proofs.Markup.Absence
import GirStubs.Proofs.Gir.TypeLeaves
import GirStubs.Proofs.Markup.Contents
import GirStubs.Proofs.Text.CarriageReturn
import GirStubs.Proofs.Lua.CarriageReturn
import GirStubs.Proofs.Stub.CarriageReturn
import GirStubs.Proofs.Gir.CarriageReturn
import GirStubs.Proofs.Gir.Members
import GirStubs.Proofs.Gir.Shadowing
import GirStubs.Proofs.Gir.Parents
import GirStubs.Proofs.Unicode.Lowercase
import GirStubs.Proofs.Text.Pairs
import GirStubs.Proofs.Lua.Fences
import GirStubs.Proofs.Text.BlankEnds
import GirStubs.Proofs.Lua.LineByLine
import GirStubs.Proofs.Lua.FencedCode
import GirStubs.Proofs.Gir.Parameters
import GirStubs.Proofs.Stub.Annotations
import GirStubs.Proofs.Stub.Parameters
import GirStubs.Proofs.Text.OnePass
import GirStubs.Proofs.Lua.OnePass
import GirStubs.Proofs.Lua.Wording
import GirStubs.Proofs.Lua.Calls
import GirStubs.Proofs.Lua.Trailing
import GirStubs.Proofs.Stub.Headings
import GirStubs.Proofs.Markup.LocalNames
import GirStubs.Proofs.Gir.TakenNames
import GirStubs.Proofs.Gir.FieldCallbacks
import GirStubs.Proofs.Markup.Positions
