import OutlineSearch.Calendar.Date
import OutlineSearch.Command.Flag
import OutlineSearch.Command.Options
import OutlineSearch.Command.Program
import OutlineSearch.Command.Request
import OutlineSearch.Command.Word
import OutlineSearch.Data.Basic
import OutlineSearch.Data.Checked
import OutlineSearch.Data.Field
import OutlineSearch.Data.Literal
import OutlineSearch.Main
import OutlineSearch.Number.Binary64
import OutlineSearch.Number.Decimal
import OutlineSearch.Outline.Cursor
import OutlineSearch.Outline.Document
import OutlineSearch.Outline.Heading.Basic
import OutlineSearch.Outline.Heading.Reader
import OutlineSearch.Outline.Heading.Title
import OutlineSearch.Outline.Kind
import OutlineSearch.Outline.Priority
import OutlineSearch.Outline.Timestamp.Basic
import OutlineSearch.Outline.Timestamp.Printer
import OutlineSearch.Outline.Timestamp.Reader
import OutlineSearch.Outline.Todo
import OutlineSearch.Pattern.CharSet
import OutlineSearch.Pattern.Escape
import OutlineSearch.Pattern.Fault
import OutlineSearch.Pattern.Matcher
import OutlineSearch.Pattern.Options
import OutlineSearch.Pattern.Reader
import OutlineSearch.Pattern.Syntax
import OutlineSearch.Pattern.Token
import OutlineSearch.Pattern.Width
import OutlineSearch.Proofs.Chain
import OutlineSearch.Proofs.Coverage
import OutlineSearch.Proofs.Cursor
import OutlineSearch.Proofs.Cursor.Calls
import OutlineSearch.Proofs.Cutoff
import OutlineSearch.Proofs.Digits
import OutlineSearch.Proofs.FileSearch
import OutlineSearch.Proofs.FileText
import OutlineSearch.Proofs.Gathering
import OutlineSearch.Proofs.HeadingBlock
import OutlineSearch.Proofs.HeadingLine
import OutlineSearch.Proofs.HeadingText
import OutlineSearch.Proofs.Judgement
import OutlineSearch.Proofs.Listing
import OutlineSearch.Proofs.LowerCase
import OutlineSearch.Proofs.Metadata
import OutlineSearch.Proofs.Number
import OutlineSearch.Proofs.Number.Rounding
import OutlineSearch.Proofs.Number.Shortest
import OutlineSearch.Proofs.OpenHeadings
import OutlineSearch.Proofs.Pieces
import OutlineSearch.Proofs.Pool
import OutlineSearch.Proofs.PriorityOrder
import OutlineSearch.Proofs.Query.Grammar
import OutlineSearch.Proofs.Query.Outcome
import OutlineSearch.Proofs.Records
import OutlineSearch.Proofs.Sections
import OutlineSearch.Proofs.Settings.Escaping
import OutlineSearch.Proofs.Settings.RoundTrip
import OutlineSearch.Proofs.Settings.Stability
import OutlineSearch.Proofs.Strict
import OutlineSearch.Proofs.TextOrder
import OutlineSearch.Proofs.Timestamp.Details
import OutlineSearch.Proofs.Timestamp.Grammar
import OutlineSearch.Proofs.Timestamp.Label
import OutlineSearch.Proofs.Timestamp.Reading
import OutlineSearch.Proofs.Timestamp.Recognition
import OutlineSearch.Proofs.Timestamp.RoundTrip
import OutlineSearch.Proofs.Timestamp.Words
import OutlineSearch.Proofs.TokenOrder
import OutlineSearch.Proofs.Tree.Place
import OutlineSearch.Proofs.Tree.Walking
import OutlineSearch.Proofs.Utf8
import OutlineSearch.Proofs.Yaml.Composing
import OutlineSearch.Proofs.Yaml.Decimal
import OutlineSearch.Proofs.Yaml.Document
import OutlineSearch.Proofs.Yaml.Gap
import OutlineSearch.Proofs.Yaml.Leaf
import OutlineSearch.Proofs.Yaml.Lexing
import OutlineSearch.Proofs.Yaml.Numeral
import OutlineSearch.Proofs.Yaml.Plain
import OutlineSearch.Proofs.Yaml.Quoted
import OutlineSearch.Proofs.Yaml.Refusing
import OutlineSearch.Proofs.Yaml.Runs
import OutlineSearch.Proofs.Yaml.Source
import OutlineSearch.Proofs.Yaml.Spelling
import OutlineSearch.Proofs.Yaml.Writing
import OutlineSearch.Query.Basic
import OutlineSearch.Query.Check
import OutlineSearch.Query.Token
import OutlineSearch.Search.Criteria
import OutlineSearch.Search.Hit
import OutlineSearch.Search.Listing
import OutlineSearch.Search.Report
import OutlineSearch.Search.Run
import OutlineSearch.Search.Scorer
import OutlineSearch.Search.Searcher
import OutlineSearch.Search.Similarity
import OutlineSearch.Settings.Basic
import OutlineSearch.Settings.Check
import OutlineSearch.Settings.File
import OutlineSearch.Settings.LogLine
import OutlineSearch.Settings.Printer
import OutlineSearch.Text.Basic
import OutlineSearch.Text.Blank
import OutlineSearch.Text.Case
import OutlineSearch.Text.Case.Table
import OutlineSearch.Text.CharName
import OutlineSearch.Text.CharName.Table
import OutlineSearch.Text.Identifier
import OutlineSearch.Text.Identifier.Table
import OutlineSearch.Text.Letter
import OutlineSearch.Text.Letter.Table
import OutlineSearch.Text.Lines
import OutlineSearch.Text.Numeral
import OutlineSearch.Text.Quoted
import OutlineSearch.Text.Quoted.Table
import OutlineSearch.Text.Range
import OutlineSearch.Text.Utf8
import OutlineSearch.Tree.Basic
import OutlineSearch.Tree.Path
import OutlineSearch.Tree.Walk
import OutlineSearch.Yaml.Node
import OutlineSearch.Yaml.Printer
import OutlineSearch.Yaml.Scalar
import OutlineSearch.Yaml.Source
import OutlineSearch.Yaml.Style
import OutlineSearch.Yaml.Tag
import OutlineSearch.Yaml.Token
import OutlineSearch.Yaml.Value
