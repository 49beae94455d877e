import TagTemplate.Delimiters
import TagTemplate.Engine
import TagTemplate.Error
import TagTemplate.Event
import TagTemplate.Excerpt
import TagTemplate.Inspect
import TagTemplate.Keyed
import TagTemplate.Normal
import TagTemplate.Number.Binary
import TagTemplate.Number.Layout
import TagTemplate.Number.Read
import TagTemplate.Number.Shortest
import TagTemplate.Options
import TagTemplate.Output.Formatter
import TagTemplate.Output.Printing
import TagTemplate.Output.Variants
import TagTemplate.Output.Writer
import TagTemplate.Render
import TagTemplate.RenderFunction
import TagTemplate.Script.Evaluator
import TagTemplate.Script.Fault
import TagTemplate.Script.Grammar
import TagTemplate.Script.Lexeme
import TagTemplate.Script.Scope
import TagTemplate.Script.Statement
import TagTemplate.Script.Variants
import TagTemplate.Session
import TagTemplate.Template.Basic
import TagTemplate.Template.Compile
import TagTemplate.Text.Blank
import TagTemplate.Text.EmojiSequence
import TagTemplate.Text.Identifier
import TagTemplate.Text.Inspect
import TagTemplate.Text.Ligature
import TagTemplate.Text.Quoted
import TagTemplate.Text.Range
import TagTemplate.Text.Span
import TagTemplate.Text.Table.Combining
import TagTemplate.Text.Table.Emoji
import TagTemplate.Text.Table.IdentifierExtra
import TagTemplate.Text.Table.IdentifierStart
import TagTemplate.Text.Table.Joinless
import TagTemplate.Text.Table.SkinTone
import TagTemplate.Text.Table.Styled
import TagTemplate.Text.Table.Unprintable
import TagTemplate.Text.Table.Wide
import TagTemplate.Text.Table.ZeroWidth
import TagTemplate.Text.Width
import TagTemplate.Token
import TagTemplate.Value.Basic
import TagTemplate.Value.Datum
import TagTemplate.Value.Document
import TagTemplate.Value.Inspect
import TagTemplate.Proofs.LongestTag
import TagTemplate.Proofs.Cutting
import TagTemplate.Proofs.Walking
import TagTemplate.Proofs.TrimmedBreaks
import TagTemplate.Proofs.TaggedText
import TagTemplate.Proofs.LostTags
import TagTemplate.Proofs.SeparateDelimiters
import TagTemplate.Proofs.Segments
import TagTemplate.Proofs.Tokenization
import TagTemplate.Proofs.LineInstrs
import TagTemplate.Proofs.Performing
import TagTemplate.Proofs.ReportedLines
import TagTemplate.Proofs.InvisibleTracking
import TagTemplate.Proofs.LimitedWriter
import TagTemplate.Proofs.BlankRuns
import TagTemplate.Proofs.Slurping
import TagTemplate.Proofs.Stretches
import TagTemplate.Proofs.Normalization
import TagTemplate.Proofs.Seams
import TagTemplate.Proofs.LiteralOutput
import TagTemplate.Proofs.VerbatimText
import TagTemplate.Proofs.CoincidingTags
import TagTemplate.Proofs.Lexing
import TagTemplate.Proofs.Parsing
import TagTemplate.Proofs.GrammaticalScripts
import TagTemplate.Proofs.StatementSequence
import TagTemplate.Proofs.Emissions
import TagTemplate.Proofs.SessionHistory
import TagTemplate.Proofs.GeneratedLiterals
import TagTemplate.Proofs.ScriptLiterals
import TagTemplate.Proofs.CopiedSlices
import TagTemplate.Proofs.SlicedNormal
import TagTemplate.Proofs.SlicedTokens
import TagTemplate.Proofs.SlicedScripts
import TagTemplate.Proofs.SlicedErrors
import TagTemplate.Proofs.SlicesInRange
import TagTemplate.Proofs.EscapedHtml
import TagTemplate.Proofs.SwappedSigns
import TagTemplate.Proofs.UnclosedTags
import TagTemplate.Proofs.SerializedValues
import TagTemplate.Proofs.WrittenPaths
import TagTemplate.Proofs.TrailingComments
import TagTemplate.Proofs.InferredNames
import TagTemplate.Proofs.OutputCalls
import TagTemplate.Proofs.PrintedTags
import TagTemplate.Proofs.ComposedPaths
import TagTemplate.Proofs.LayeredContexts
import TagTemplate.Proofs.ClosingQuotes
import TagTemplate.Proofs.LexicalGrammar
import TagTemplate.Proofs.TiledCode
import TagTemplate.Proofs.LinesAround
