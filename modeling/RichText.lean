import RichText.CommandLine
import RichText.Document.Admissible
import RichText.Document.Attributes
import RichText.Document.Basic
import RichText.Document.Decoding
import RichText.Document.Runs
import RichText.Document.Tags
import RichText.Document.Tree.Fault
import RichText.Document.Tree.Reader
import RichText.Document.Tree.Text
import RichText.Document.Tree.Writer
import RichText.Error
import RichText.Html.Element
import RichText.Html.Escape
import RichText.Html.Render
import RichText.Html.Token
import RichText.Html.Writer
import RichText.Json.Basic
import RichText.Json.Binary64
import RichText.Json.Fragment
import RichText.Json.Parser
import RichText.Json.Printer
import RichText.Main
import RichText.Markdown.BlockStart
import RichText.Markdown.Emphasis
import RichText.Markdown.Entity
import RichText.Markdown.Event
import RichText.Markdown.Import
import RichText.Markdown.Inlines
import RichText.Markdown.Line
import RichText.Markdown.Link
import RichText.Markdown.NamedCharacters
import RichText.Markdown.OpenBlocks
import RichText.Markdown.Outline
import RichText.Markdown.Parser
import RichText.Markdown.RawHtml
import RichText.Markdown.Tree
import RichText.Mobiledoc.Basic
import RichText.Mobiledoc.Builder
import RichText.Mobiledoc.Fault
import RichText.Mobiledoc.Grammar
import RichText.Mobiledoc.Reader
import RichText.Mobiledoc.Render
import RichText.Opcode.Basic
import RichText.Opcode.Param
import RichText.Opcode.Run
import RichText.Opcode.Wire
import RichText.Proofs.Document.CanonicalAttributes
import RichText.Proofs.Document.CanonicalMarkers
import RichText.Proofs.Document.FewestOpenings
import RichText.Proofs.Document.MemberOrder
import RichText.Proofs.Document.Names
import RichText.Proofs.Document.RunNormalisation
import RichText.Proofs.Document.SortedReading
import RichText.Proofs.Document.Tree
import RichText.Proofs.Emission
import RichText.Proofs.Execution
import RichText.Proofs.Failures
import RichText.Proofs.Html.AcceptedPosts
import RichText.Proofs.Html.Decoding
import RichText.Proofs.Html.Depiction
import RichText.Proofs.Html.Escaping
import RichText.Proofs.Html.Faults
import RichText.Proofs.Html.Independence
import RichText.Proofs.Html.Lexing
import RichText.Proofs.Html.Nesting
import RichText.Proofs.Html.NormalisedRuns
import RichText.Proofs.Html.Run
import RichText.Proofs.Json.Sorting
import RichText.Proofs.Json.Words
import RichText.Proofs.Markdown.BlockOrder
import RichText.Proofs.Markdown.ImageDescriptions
import RichText.Proofs.Markdown.Inlines
import RichText.Proofs.Markdown.ItemTexts
import RichText.Proofs.Markdown.LeakedText
import RichText.Proofs.Markdown.Lists
import RichText.Proofs.Markdown.Meaning
import RichText.Proofs.Markdown.PrunedTrees
import RichText.Proofs.Markdown.Streams
import RichText.Proofs.Markdown.Translation
import RichText.Proofs.Markdown.Writable
import RichText.Proofs.MarkupIdentity
import RichText.Proofs.Mobiledoc.Build
import RichText.Proofs.Mobiledoc.Reading
import RichText.Proofs.Mobiledoc.Representation
import RichText.Proofs.Mobiledoc.RoundTrip
import RichText.Proofs.Mobiledoc.Tables
import RichText.Proofs.Opcode.Storage
import RichText.Proofs.Opcode.WireFormat
import RichText.Proofs.Pipeline
import RichText.Proofs.SectionTags
import RichText.Proofs.Traversal
import RichText.Text.Case
import RichText.Text.CaseTable
import RichText.Text.CodePointSet
import RichText.Text.Punctuation
import RichText.Text.Quoted
import RichText.Text.Unprintable
import RichText.Visitor
