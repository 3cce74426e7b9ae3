import DocMark.Cli.Arguments
import DocMark.Cli.Invocation
import DocMark.Cli.Run
import DocMark.Config.Loader
import DocMark.Config.Path
import DocMark.Config.Settings
import DocMark.Config.Value
import DocMark.Document.Layout
import DocMark.Document.Model
import DocMark.Document.NamedStyle
import DocMark.Document.Render
import DocMark.Edit.Builder
import DocMark.Edit.Compile
import DocMark.Edit.Operation
import DocMark.Edit.Request
import DocMark.Files.Store
import DocMark.Json.Fault
import DocMark.Json.Lexeme
import DocMark.Json.Parse
import DocMark.Json.Schema
import DocMark.Json.Value
import DocMark.Log
import DocMark.Main
import DocMark.Markdown.Anchor
import DocMark.Markdown.Ast
import DocMark.Markdown.Autolink
import DocMark.Markdown.Block
import DocMark.Markdown.BlockReader
import DocMark.Markdown.Chars
import DocMark.Markdown.Emphasis
import DocMark.Markdown.Entity
import DocMark.Markdown.EntityTable
import DocMark.Markdown.Html
import DocMark.Markdown.InlineReader
import DocMark.Markdown.Line
import DocMark.Markdown.LinkParts
import DocMark.Markdown.Lower
import DocMark.Markdown.Node
import DocMark.Markdown.Parse
import DocMark.Markdown.Reference
import DocMark.Markdown.TableRow
import DocMark.Markdown.Walk
import DocMark.Number.Binary64
import DocMark.Number.Shortest
import DocMark.Proofs.Document.Growth
import DocMark.Proofs.Document.Json
import DocMark.Proofs.Document.NamedStyle
import DocMark.Proofs.Document.Rendering
import DocMark.Proofs.Document.Tables
import DocMark.Proofs.Document.TextRows
import DocMark.Proofs.Edit.Acceptance
import DocMark.Proofs.Edit.Appending
import DocMark.Proofs.Edit.Bracketing
import DocMark.Proofs.Edit.Bullets
import DocMark.Proofs.Edit.Compilation
import DocMark.Proofs.Edit.Drawing
import DocMark.Proofs.Edit.InsertedTexts
import DocMark.Proofs.Edit.Items
import DocMark.Proofs.Edit.Links
import DocMark.Proofs.Edit.Literals
import DocMark.Proofs.Edit.Origins
import DocMark.Proofs.Edit.Placement
import DocMark.Proofs.Edit.RangeStack
import DocMark.Proofs.Edit.Ranges
import DocMark.Proofs.Edit.Reordering
import DocMark.Proofs.Edit.RoundTrip
import DocMark.Proofs.Edit.Separation
import DocMark.Proofs.Edit.Styles
import DocMark.Proofs.Json.Reading
import DocMark.Proofs.Json.Spelling
import DocMark.Proofs.Markdown.Anchors
import DocMark.Proofs.Markdown.Nodes
import DocMark.Proofs.Markdown.Outline
import DocMark.Proofs.Markdown.Phrase
import DocMark.Proofs.Markdown.PlainBlocks
import DocMark.Proofs.Markdown.PlainFrames
import DocMark.Proofs.Markdown.PlainInlines
import DocMark.Proofs.Markdown.PlainLines
import DocMark.Proofs.Markdown.PlainSource
import DocMark.Proofs.Markdown.PlainTrees
import DocMark.Proofs.Markdown.Tightness
import DocMark.Proofs.Markdown.Traversals
import DocMark.Proofs.Service.Attributes
import DocMark.Proofs.Service.Consistency
import DocMark.Proofs.Service.Exchanges
import DocMark.Proofs.Service.Export
import DocMark.Proofs.Service.ExportedText
import DocMark.Proofs.Service.InPlace
import DocMark.Proofs.Service.Independence
import DocMark.Proofs.Service.Insertions
import DocMark.Proofs.Service.Partition
import DocMark.Proofs.Service.PlainParagraphs
import DocMark.Proofs.Service.Policies
import DocMark.Proofs.Service.Reachable
import DocMark.Proofs.Service.Requests
import DocMark.Proofs.Service.Restyling
import DocMark.Proofs.Service.Resuming
import DocMark.Proofs.Service.SplitInsertions
import DocMark.Proofs.Service.StoredParagraphs
import DocMark.Proofs.Service.Strict
import DocMark.Proofs.Service.StyleRequests
import DocMark.Proofs.Service.Submission
import DocMark.Proofs.Service.Terminators
import DocMark.Proofs.Text.Lines
import DocMark.Proofs.Text.Utf16
import DocMark.Service.Cancellation
import DocMark.Service.LocalDocument
import DocMark.Service.LocalSession
import DocMark.Service.Policy
import DocMark.Service.Recording
import DocMark.Service.Submit
import DocMark.Text.Blank
import DocMark.Text.CaseFold
import DocMark.Text.CaseRuns
import DocMark.Text.CharRanges
import DocMark.Text.Decimal
import DocMark.Text.LowerCase
import DocMark.Text.Printable
import DocMark.Text.Punctuation
import DocMark.Text.Quoted
import DocMark.Text.Utf16
import DocMark.Text.Utf8
import DocMark.Text.WordChar
import DocMark.Toml.Chars
import DocMark.Toml.Parse
import DocMark.Toml.Scalar
import DocMark.Toml.Text
import DocMark.Toml.Tree
import DocMark.Toml.Value
import DocMark.Proofs.Cli.Agreement
import DocMark.Proofs.Config.Layering
import DocMark.Proofs.Config.Loading
