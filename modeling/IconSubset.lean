import IconSubset.CommandLine.Arguments
import IconSubset.CommandLine.Parser
import IconSubset.CommandLine.Program
import IconSubset.Config.Configuration
import IconSubset.Config.Environment
import IconSubset.Config.EnvironmentFile
import IconSubset.Config.Loading
import IconSubset.Config.Message
import IconSubset.Config.Reading
import IconSubset.Config.Setting
import IconSubset.Config.Value
import IconSubset.Config.Variable
import IconSubset.Decimal.Binary64
import IconSubset.Decimal.Notation
import IconSubset.Decimal.Reading
import IconSubset.Decimal.Shortest
import IconSubset.Extraction.Element
import IconSubset.Extraction.Literals
import IconSubset.Extraction.Marking
import IconSubset.Extraction.SourceFile
import IconSubset.Files.Change
import IconSubset.Files.Path
import IconSubset.Files.Tree
import IconSubset.FontAxes
import IconSubset.Grammar.Automaton
import IconSubset.Grammar.Production
import IconSubset.Grammar.Rule
import IconSubset.Grammar.Table
import IconSubset.Grammar.TerminalSet
import IconSubset.Html.Element
import IconSubset.Html.Grammar
import IconSubset.Html.Lexer
import IconSubset.Html.NamedCharacters
import IconSubset.Html.Reference
import IconSubset.Html.Scanner
import IconSubset.Html.Tree
import IconSubset.IconSet
import IconSubset.Json.Printer
import IconSubset.Json.Reading
import IconSubset.Json.Value
import IconSubset.Log.Event
import IconSubset.Log.Filter
import IconSubset.Main
import IconSubset.Output.Format
import IconSubset.Output.Report
import IconSubset.Parse.Machine
import IconSubset.Parse.Recovery
import IconSubset.Parse.Run
import IconSubset.Parse.Source
import IconSubset.Parse.Stack
import IconSubset.Parse.Subtree
import IconSubset.Parse.Thread
import IconSubset.Parse.Tree
import IconSubset.Scan.Collection
import IconSubset.Scan.Project
import IconSubset.Scan.Report
import IconSubset.Settings
import IconSubset.Stylesheet.Address
import IconSubset.Stylesheet.Injection
import IconSubset.Syntax.Cooked
import IconSubset.Syntax.Fault
import IconSubset.Syntax.Node
import IconSubset.Text.Blank
import IconSubset.Text.Digits
import IconSubset.Text.Printable
import IconSubset.Text.Quoted
import IconSubset.Toml.Document
import IconSubset.Toml.Scalar
import IconSubset.Toml.Text
import IconSubset.Tsx.Constant
import IconSubset.Tsx.Grammar
import IconSubset.Tsx.Lexer
import IconSubset.Tsx.Module
import IconSubset.Tsx.Shape
import IconSubset.Tsx.Tree
import IconSubset.Variant
import IconSubset.Proofs.Text.Trimming
import IconSubset.Proofs.Text.Digits
import IconSubset.Proofs.IconSet.Membership
import IconSubset.Proofs.Extraction.Contribution
import IconSubset.Proofs.Scan.Accumulation
import IconSubset.Proofs.Extraction.Evaluation
import IconSubset.Proofs.Tsx.Reading
import IconSubset.Proofs.Tsx.Pieces
import IconSubset.Proofs.Printing.Words
import IconSubset.Proofs.Printing.Expression
import IconSubset.Proofs.Printing.Element
import IconSubset.Proofs.Printing.Module
import IconSubset.Proofs.Tsx.ShapeNodes
import IconSubset.Proofs.Printing.Names
import IconSubset.Proofs.Printing.ElementTexts
import IconSubset.Proofs.Printing.Item
import IconSubset.Proofs.Printing.Declaration
import IconSubset.Proofs.Printing.RoundTrip
import IconSubset.Proofs.Extraction.Marking
import IconSubset.Proofs.Files.PathOrder
import IconSubset.Proofs.Files.Tree
import IconSubset.Proofs.Scan.Collection
import IconSubset.Proofs.Scan.Project
import IconSubset.Proofs.Config.Fields
import IconSubset.Proofs.Config.NullFree
import IconSubset.Proofs.Toml.NullFree
import IconSubset.Proofs.Config.Layering
import IconSubset.Proofs.Config.Precedence
import IconSubset.Proofs.IconSet.Building
import IconSubset.Proofs.Files.Leaves
import IconSubset.Proofs.Files.Walking
import IconSubset.Proofs.Files.Writing
import IconSubset.Proofs.Json.RoundTrip
import IconSubset.Proofs.Html.Reference
import IconSubset.Proofs.Stylesheet.Placement
import IconSubset.Proofs.Stylesheet.Linked
import IconSubset.Proofs.CommandLine.Answers
import IconSubset.Proofs.CommandLine.Effects
import IconSubset.Proofs.Text.Bytes
import IconSubset.Proofs.IconSet.Operations
import IconSubset.Proofs.Text.Splitting
import IconSubset.Proofs.Stylesheet.IconList
import IconSubset.Proofs.Stylesheet.Query
import IconSubset.Proofs.Printing.Literal
import IconSubset.Proofs.Printing.MarkupText
import IconSubset.Proofs.Printing.MarkupIcons
import IconSubset.Proofs.CommandLine.Written
import IconSubset.Proofs.Config.Substitution
import IconSubset.Proofs.Config.Independence
import IconSubset.Proofs.CommandLine.Logging
import IconSubset.Proofs.Extraction.Resolution
import IconSubset.Proofs.Extraction.Runs
import IconSubset.Proofs.Extraction.Padding
import IconSubset.Proofs.Extraction.PaddedElement
import IconSubset.Proofs.Files.SourceName
import IconSubset.Proofs.Scan.Redundancy
import IconSubset.Proofs.Extraction.Properties
import IconSubset.Proofs.Syntax.Address
import IconSubset.Proofs.Parse.Standing
import IconSubset.Proofs.Syntax.FirstFault
import IconSubset.Proofs.Tsx.StringReading
import IconSubset.Proofs.Extraction.StringValue
import IconSubset.Proofs.Tsx.Lossless
import IconSubset.Proofs.Syntax.Standing
import IconSubset.Proofs.Syntax.Location
import IconSubset.Proofs.Decimal.Rounding
import IconSubset.Proofs.Decimal.Shortest
import IconSubset.Proofs.Decimal.Notation
import IconSubset.Proofs.Config.Numerals
import IconSubset.Proofs.Config.ListText
import IconSubset.Proofs.Config.NumericText
import IconSubset.Proofs.Files.SourcePath
import IconSubset.Proofs.Files.Reordering
import IconSubset.Proofs.Scan.Enumeration
import IconSubset.Proofs.Scan.Merging
import IconSubset.Proofs.CommandLine.PlainText
import IconSubset.Proofs.Tsx.Children
import IconSubset.Proofs.Extraction.TemplateSegments
import IconSubset.Proofs.Grammar.Automaton
import IconSubset.Proofs.Parse.Course
import IconSubset.Proofs.Parse.Reading
import IconSubset.Proofs.Parse.Derivation
import IconSubset.Proofs.Parse.Alike
import IconSubset.Proofs.Parse.Passage
import IconSubset.Proofs.Html.Productions
import IconSubset.Proofs.Html.Suffix
import IconSubset.Proofs.Html.Tokens
import IconSubset.Proofs.Stylesheet.Marks
import IconSubset.Proofs.Stylesheet.Scan
import IconSubset.Proofs.Stylesheet.Document
import IconSubset.Proofs.Stylesheet.Continuation
import IconSubset.Proofs.Stylesheet.Opening
import IconSubset.Proofs.Stylesheet.HiddenText
