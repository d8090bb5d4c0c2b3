import RichText.Arena.Basic
import RichText.Arena.Build
import RichText.Arena.Family
import RichText.Arena.Tree
import RichText.Backend.Basic
import RichText.Backend.Fixed
import RichText.Backend.Standard
import RichText.Decimal.Binary
import RichText.Decimal.Ceiling
import RichText.Decimal.Layout
import RichText.Decimal.Shortest
import RichText.Document.Basic
import RichText.Document.Source
import RichText.Encoding.Basic
import RichText.Encoding.Fault
import RichText.Encoding.SingleByte
import RichText.Encoding.Utf16
import RichText.Encoding.Utf8
import RichText.Fault
import RichText.Font.Basic
import RichText.Font.Face
import RichText.Font.Metrics.Courier
import RichText.Font.Metrics.Helvetica
import RichText.Font.Metrics.Symbol
import RichText.Font.Metrics.Times
import RichText.Font.Widths
import RichText.Link.Address
import RichText.Link.Authority
import RichText.Link.Target
import RichText.Log
import RichText.Markdown.Autolink
import RichText.Markdown.Block
import RichText.Markdown.CharacterNames
import RichText.Markdown.Cursor
import RichText.Markdown.Destination
import RichText.Markdown.Emphasis
import RichText.Markdown.Html
import RichText.Markdown.Line
import RichText.Markdown.LinkParts
import RichText.Markdown.Opening
import RichText.Markdown.RunningText
import RichText.Markdown.Spine
import RichText.Markdown.Tokens
import RichText.Node.Basic
import RichText.Node.Build
import RichText.Node.Kind
import RichText.Node.Place
import RichText.Node.Walk
import RichText.Options.Fault
import RichText.Options.Mismatch
import RichText.Options.Reading
import RichText.Options.Rendering
import RichText.Options.Settings
import RichText.Package.Requirement
import RichText.Package.Specifier
import RichText.Package.Version
import RichText.Proofs.Font.Traits
import RichText.Proofs.Node.Induction
import RichText.Proofs.Node.Scope
import RichText.Proofs.Render.Attributes
import RichText.Proofs.Render.Colors
import RichText.Proofs.Render.Fonts
import RichText.Proofs.Render.Margins
import RichText.Proofs.Render.Pieces
import RichText.Proofs.Render.Runs
import RichText.Proofs.Render.Texts
import RichText.Proofs.Traced
import RichText.Render.Arena
import RichText.Render.Basic
import RichText.Render.Fault
import RichText.Style.Attributes
import RichText.Style.Description
import RichText.Style.Fonts
import RichText.Style.Ranges
import RichText.Style.StyledText
import RichText.Text.Blank
import RichText.Text.Casefold
import RichText.Text.Cut
import RichText.Text.Lowercase
import RichText.Text.Printable
import RichText.Text.Punctuation
import RichText.Text.Quoted
import RichText.Token.Basic
import RichText.Token.Nodes
import RichText.Value
import RichText.Proofs.Decimal.Ceiling
import RichText.Proofs.Node.Height
import RichText.Proofs.Render.Faults
import RichText.Proofs.Render.InPlace
import RichText.Proofs.Render.Concatenation
import RichText.Proofs.Render.Contents
import RichText.Proofs.Token.Contents
import RichText.Proofs.Arena.Holds
import RichText.Proofs.Arena.Check
import RichText.Proofs.Render.Arena
import RichText.Proofs.Node.Grammar
import RichText.Proofs.Node.Drafts
import RichText.Proofs.Render.Sources
import RichText.Proofs.Render.Lines
import RichText.Proofs.Token.Grammar
import RichText.Proofs.Token.Pruning
import RichText.Proofs.Token.Depth
import RichText.Proofs.Token.Documents
import RichText.Proofs.Render.SafeLinks
import RichText.Proofs.Decimal.Magnitude
import RichText.Proofs.Font.Faces
import RichText.Proofs.Render.Accepted
import RichText.Proofs.Render.Reports
import RichText.Proofs.Render.Stripped
import RichText.Proofs.Encoding.SingleByte
import RichText.Proofs.Encoding.Utf8
import RichText.Proofs.Encoding.Utf16
import RichText.Proofs.Encoding.Basic
import RichText.Proofs.Document.Sources
import RichText.Proofs.Markdown.Nesting
import RichText.Proofs.Document.Rendering
import RichText.Proofs.Font.Requests
import RichText.Proofs.Link.Authority
import RichText.Proofs.Text.Cut
import RichText.Proofs.Link.Target
import RichText.Proofs.Decimal.Unpacked
import RichText.Proofs.Decimal.Rounding
import RichText.Proofs.Decimal.Values
import RichText.Proofs.Decimal.Arithmetic
import RichText.Proofs.Decimal.Equality
import RichText.Proofs.Style.Equality
import RichText.Proofs.Style.Ranges
import RichText.Proofs.Render.Sizes
import RichText.Proofs.Render.Columns
import RichText.Proofs.Encoding.Faults
import RichText.Proofs.Document.Rejected
import RichText.Proofs.Font.Pitch
import RichText.Proofs.Style.Spans
import RichText.Proofs.Node.Walk
import RichText.Proofs.Package.Requirement
