import Citeproc.Citation
import Citeproc.Cites.Basic
import Citeproc.Cites.Join
import Citeproc.Cites.Numbers
import Citeproc.Cites.Years
import Citeproc.Data.Json
import Citeproc.Data.Record
import Citeproc.Data.Schema
import Citeproc.Data.Value
import Citeproc.Data.Yaml
import Citeproc.Data.Yaml.Cursor
import Citeproc.Data.Yaml.Meaning
import Citeproc.Data.Yaml.Node
import Citeproc.Data.Yaml.Scalar
import Citeproc.Data.Yaml.Tag
import Citeproc.Data.Yaml.Token
import Citeproc.Date.Basic
import Citeproc.Date.Reader
import Citeproc.Date.Rendering
import Citeproc.Decimal.Shortest
import Citeproc.Disambiguation.Cite
import Citeproc.Disambiguation.Names
import Citeproc.Disambiguation.Run
import Citeproc.Disambiguation.YearSuffix
import Citeproc.Entry.Basic
import Citeproc.Entry.CslJson
import Citeproc.Entry.Kind
import Citeproc.Entry.Record
import Citeproc.Entry.Variable
import Citeproc.Grouping
import Citeproc.Locale.Basic
import Citeproc.Locale.English
import Citeproc.Locale.Record
import Citeproc.Locale.Resolver
import Citeproc.Markup.Element
import Citeproc.Markup.Name
import Citeproc.Markup.Text
import Citeproc.Markup.Token
import Citeproc.Names.Formatter
import Citeproc.Names.Initials
import Citeproc.Names.List
import Citeproc.Number.Basic
import Citeproc.Number.PageRange
import Citeproc.Number.Roman
import Citeproc.Output.Basic
import Citeproc.Output.Case
import Citeproc.Output.Format
import Citeproc.Output.Html
import Citeproc.Output.PlainText
import Citeproc.Output.Punctuation
import Citeproc.Output.Unnumbered
import Citeproc.Proofs.Disambiguation.Pass
import Citeproc.Proofs.Disambiguation.Remaining
import Citeproc.Proofs.Disambiguation.Stages
import Citeproc.Proofs.FirstOccurrence
import Citeproc.Proofs.Grouping
import Citeproc.Proofs.Names.Expansion
import Citeproc.Proofs.Render.Alike
import Citeproc.Proofs.Render.Expansion
import Citeproc.Proofs.Render.Lockstep
import Citeproc.Proofs.Render.Memo
import Citeproc.Proofs.Render.States
import Citeproc.Render.Visits
import Citeproc.Render.Pages
import Citeproc.Disambiguation.Cited
import Citeproc.Session.Pages
import Citeproc.Proofs.Sample
import Citeproc.Proofs.Session.Numbering
import Citeproc.Proofs.Session.Run
import Citeproc.Proofs.Table
import Citeproc.Render.Condition
import Citeproc.Render.Context
import Citeproc.Render.Interpreter
import Citeproc.Render.Leaf
import Citeproc.Render.State
import Citeproc.Session.Basic
import Citeproc.Session.Cites
import Citeproc.Session.Error
import Citeproc.Session.Listing
import Citeproc.Session.Options
import Citeproc.Session.Placement
import Citeproc.Session.References
import Citeproc.Session.Unsupported
import Citeproc.Sort
import Citeproc.Style.Attribute
import Citeproc.Style.Basic
import Citeproc.Style.Element
import Citeproc.Style.Error
import Citeproc.Style.Keyword
import Citeproc.Style.Reader
import Citeproc.Style.Record
import Citeproc.Style.Rendering
import Citeproc.Style.Vocabulary
import Citeproc.Table
import Citeproc.Text.Base
import Citeproc.Text.Blank
import Citeproc.Text.Case
import Citeproc.Text.Case.Mapping
import Citeproc.Text.Case.Property
import Citeproc.Text.Cased
import Citeproc.Text.Cut
import Citeproc.Text.Digit
import Citeproc.Text.Letter
import Citeproc.Text.Mark
import Citeproc.Text.Numeral
import Citeproc.Text.RangeTable
import Citeproc.Text.SortKey
import Citeproc.Text.Word
import Citeproc.Proofs.Disambiguation.Progress
import Citeproc.Proofs.Disambiguation.EntryOrder
import Citeproc.Proofs.Disambiguation.FixedPoint
import Citeproc.Proofs.Session.NameExpansion
import Citeproc.Proofs.Runs
import Citeproc.Proofs.Style.Nodes
import Citeproc.Proofs.Output.Plain
import Citeproc.Proofs.Output.Tags
import Citeproc.Proofs.Output.Markup
import Citeproc.Proofs.Cites.Numbers
import Citeproc.Proofs.Cites.Years
import Citeproc.Proofs.Cites.Join
import Citeproc.Proofs.Names.Tags
import Citeproc.Proofs.Date.Tags
import Citeproc.Proofs.Render.Marks
import Citeproc.Proofs.Session.Affixes
import Citeproc.Proofs.Session.Uncited
import Citeproc.Proofs.Disambiguation.Cited
import Citeproc.Proofs.Render.Pages
import Citeproc.Proofs.Session.Pages
import Citeproc.Proofs.Session.Positions
import Citeproc.Proofs.Cites.Ranges
import Citeproc.Proofs.Disambiguation.Letters
import Citeproc.Proofs.Style.Outline
import Citeproc.Proofs.Style.Lossless
import Citeproc.Proofs.Style.Children
import Citeproc.Proofs.Style.Content
import Citeproc.Proofs.Session.CiteOrder
import Citeproc.Proofs.Cites.Segments
import Citeproc.Proofs.Cites.SuffixRanges
import Citeproc.Proofs.Cites.Delimiters
import Citeproc.Proofs.Date.Ranges
import Citeproc.Proofs.Text.Digits
import Citeproc.Proofs.Output.Spans
import Citeproc.Proofs.Date.YearSuffix
import Citeproc.Proofs.Text.Lowercase
import Citeproc.Proofs.Text.DigitOrder
import Citeproc.Proofs.Date.Grammar
import Citeproc.Proofs.Date.Reading
import Citeproc.Proofs.Date.Encoding
import Citeproc.Proofs.Date.Order
import Citeproc.Proofs.Locale.Layers
import Citeproc.Proofs.Text.Numerals
import Citeproc.Proofs.Text.Cuts
import Citeproc.Proofs.Number.PageCuts
import Citeproc.Proofs.Number.PageRanges
import Citeproc.Proofs.Number.Lists
import Citeproc.Proofs.Number.Roman
import Citeproc.Proofs.Number.Values
import Citeproc.Proofs.Locale.Ordinals
import Citeproc.Proofs.Output.Quotations
import Citeproc.Proofs.Render.Rules
import Citeproc.Proofs.Output.Decorate
import Citeproc.Proofs.Render.Growth
import Citeproc.Proofs.Render.UsedUp
import Citeproc.Proofs.Render.Dropped
import Citeproc.Proofs.Output.Unnumbered
import Citeproc.Proofs.Render.Spans
import Citeproc.Proofs.Render.NumberSpans
import Citeproc.Proofs.Render.Unused
import Citeproc.Proofs.Cites.AuthorGroups
import Citeproc.Proofs.Style.Layouts
import Citeproc.Proofs.Session.RepeatedAuthors
import Citeproc.Proofs.Output.Doubled
import Citeproc.Proofs.Text.CaseMaps
import Citeproc.Proofs.Text.Letters
import Citeproc.Proofs.Names.Initials
import Citeproc.Proofs.Text.CaseCuts
import Citeproc.Proofs.Text.CasePieces
import Citeproc.Proofs.Output.CasePieces
import Citeproc.Proofs.Date.Uncertainty
import Citeproc.Proofs.Output.Attributes
import Citeproc.Proofs.Data.Members
import Citeproc.Proofs.Entry.CslJson
import Citeproc.Proofs.Output.Parts
import Citeproc.Proofs.Names.Shown
import Citeproc.Proofs.Entry.Types
import Citeproc.Proofs.Render.Reached
