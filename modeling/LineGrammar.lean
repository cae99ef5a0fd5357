import LineGrammar.Alternative
import LineGrammar.Command.Arguments
import LineGrammar.Command.Report
import LineGrammar.Compile
import LineGrammar.Conversion
import LineGrammar.Document
import LineGrammar.Error
import LineGrammar.Files.Fault
import LineGrammar.Files.Grammar
import LineGrammar.Files.Path
import LineGrammar.Files.Program
import LineGrammar.Files.System
import LineGrammar.Grammar.Basic
import LineGrammar.Grammar.Listing
import LineGrammar.Json
import LineGrammar.Main
import LineGrammar.Pattern.Basic
import LineGrammar.Pattern.Fault
import LineGrammar.Pattern.Meaning
import LineGrammar.Pattern.Plan
import LineGrammar.Pattern.Reader
import LineGrammar.Pattern.Reader.Class
import LineGrammar.Pattern.Reader.Escape
import LineGrammar.Pattern.Reader.Group
import LineGrammar.Pattern.Reader.Name
import LineGrammar.Pattern.Reader.Number
import LineGrammar.Pattern.Sampler
import LineGrammar.Pattern.Tree
import LineGrammar.Proofs.Barren
import LineGrammar.Proofs.Compilation
import LineGrammar.Proofs.Conversion
import LineGrammar.Proofs.Document.Members
import LineGrammar.Proofs.Document.Recovery
import LineGrammar.Proofs.ErrorMessage
import LineGrammar.Proofs.Except
import LineGrammar.Proofs.FanOut
import LineGrammar.Proofs.Files.Component
import LineGrammar.Proofs.Files.Execution
import LineGrammar.Proofs.Files.Location
import LineGrammar.Proofs.Files.Path
import LineGrammar.Proofs.Files.Replacement
import LineGrammar.Proofs.Files.System
import LineGrammar.Proofs.Gathering
import LineGrammar.Proofs.Grammar.Copies
import LineGrammar.Proofs.Grammar.Listing
import LineGrammar.Proofs.Grammar.RuleList
import LineGrammar.Proofs.Grammar.Rules
import LineGrammar.Proofs.History
import LineGrammar.Proofs.Json.Members
import LineGrammar.Proofs.Json.Reader
import LineGrammar.Proofs.Json.RoundTrip
import LineGrammar.Proofs.LineEnds
import LineGrammar.Proofs.LineFormat
import LineGrammar.Proofs.Modes
import LineGrammar.Proofs.Pattern.Case
import LineGrammar.Proofs.Pattern.Drawing
import LineGrammar.Proofs.Pattern.Language
import LineGrammar.Proofs.Pattern.Matching
import LineGrammar.Proofs.Pattern.Meaning
import LineGrammar.Proofs.Reading
import LineGrammar.Proofs.Rearrangement
import LineGrammar.Proofs.Requests
import LineGrammar.Proofs.RuleLine
import LineGrammar.Proofs.Sampling
import LineGrammar.Proofs.SpacedText
import LineGrammar.Proofs.Spacing
import LineGrammar.Proofs.Splitting
import LineGrammar.Proofs.Step
import LineGrammar.Proofs.Symbol.Decoding
import LineGrammar.Proofs.Text.Ends
import LineGrammar.Proofs.Text.EscapedNewline
import LineGrammar.Proofs.Text.Lines
import LineGrammar.Proofs.Text.Quoted
import LineGrammar.Proofs.Verdict
import LineGrammar.Proofs.WellFormed
import LineGrammar.Proofs.Writing
import LineGrammar.Random
import LineGrammar.Random.ChaCha
import LineGrammar.RuleLine
import LineGrammar.Sampler
import LineGrammar.Symbol
import LineGrammar.Text.Basic
import LineGrammar.Text.Blank
import LineGrammar.Text.CharSet
import LineGrammar.Text.Hidden
import LineGrammar.Text.Quoted
import LineGrammar.Token
import LineGrammar.Unicode.Age
import LineGrammar.Unicode.Break
import LineGrammar.Unicode.CaseFold
import LineGrammar.Unicode.Category
import LineGrammar.Unicode.Category.Letter
import LineGrammar.Unicode.Category.Mark
import LineGrammar.Unicode.Category.Symbol
import LineGrammar.Unicode.Property
import LineGrammar.Unicode.Script
import LineGrammar.Unicode.Trait
import LineGrammar.Unicode.Trait.Table
import LineGrammar.Unicode.Value
