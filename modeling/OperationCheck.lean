import OperationCheck.CommandLine.Flag
import OperationCheck.CommandLine.Reader
import OperationCheck.Configuration
import OperationCheck.Documents.Discovery
import OperationCheck.Documents.Document
import OperationCheck.Documents.Kind
import OperationCheck.Documents.Loading
import OperationCheck.Files.Ignore
import OperationCheck.Files.Path
import OperationCheck.Files.Tree
import OperationCheck.Files.Walk
import OperationCheck.Glob.Basic
import OperationCheck.Glob.Reader
import OperationCheck.Http.Address
import OperationCheck.Http.Header
import OperationCheck.Http.Message
import OperationCheck.Http.Network
import OperationCheck.Introspection.Answer
import OperationCheck.Introspection.Listing
import OperationCheck.Introspection.Printer
import OperationCheck.Introspection.Query
import OperationCheck.Introspection.Schema
import OperationCheck.Invocation
import OperationCheck.Json.Reader
import OperationCheck.Json.Scalar
import OperationCheck.Json.Value
import OperationCheck.Language.Fault
import OperationCheck.Language.Lines
import OperationCheck.Language.Reading.Basic
import OperationCheck.Language.Reading.Document
import OperationCheck.Language.Reading.Operation
import OperationCheck.Language.Reading.Text
import OperationCheck.Language.Reading.TypeSystem
import OperationCheck.Language.Reading.Value
import OperationCheck.Language.Syntax
import OperationCheck.Language.Token
import OperationCheck.Main
import OperationCheck.Operations.Check
import OperationCheck.Operations.Fields
import OperationCheck.Operations.Merging
import OperationCheck.Operations.Sameness
import OperationCheck.Operations.Selection
import OperationCheck.Operations.Subscription
import OperationCheck.Operations.Typed
import OperationCheck.Operations.Typing
import OperationCheck.Operations.Variable
import OperationCheck.Operations.Walk
import OperationCheck.Outcome
import OperationCheck.Pattern.Basic
import OperationCheck.Pattern.Bracket
import OperationCheck.Pattern.CharSet
import OperationCheck.Pattern.Escape
import OperationCheck.Pattern.Flags
import OperationCheck.Pattern.Reader
import OperationCheck.Pattern.Search
import OperationCheck.Program
import OperationCheck.Proofs.Documents.Discovery
import OperationCheck.Proofs.Documents.Loading
import OperationCheck.Proofs.Documents.Reading
import OperationCheck.Proofs.Files.Following
import OperationCheck.Proofs.Files.Path
import OperationCheck.Proofs.Files.Resemblance
import OperationCheck.Proofs.Files.Walk
import OperationCheck.Proofs.Glob.Names
import OperationCheck.Proofs.Glob.Pieces
import OperationCheck.Proofs.Glob.Reading
import OperationCheck.Proofs.Glob.Words
import OperationCheck.Proofs.Pattern.Search
import OperationCheck.Proofs.Pattern.Words
import OperationCheck.Proofs.Report.Account
import OperationCheck.Proofs.Rules.History
import OperationCheck.Proofs.Run.Stages
import OperationCheck.Proofs.Http.Exchange
import OperationCheck.Proofs.Source.Fetching
import OperationCheck.Proofs.Source.Responses
import OperationCheck.Proofs.Source.Routes
import OperationCheck.Proofs.Template.Grammar
import OperationCheck.Proofs.Template.Interpolation
import OperationCheck.Proofs.Template.Openers
import OperationCheck.Proofs.Template.Parse
import OperationCheck.Proofs.Template.Places
import OperationCheck.Reach
import OperationCheck.Report.Diagnostic
import OperationCheck.Report.Style
import OperationCheck.Report.Summary
import OperationCheck.Report.Writer
import OperationCheck.Rules.BuiltIn
import OperationCheck.Rules.Registry
import OperationCheck.Rules.Sheet
import OperationCheck.Rules.Table
import OperationCheck.Run
import OperationCheck.Source.Loading
import OperationCheck.Source.Pointer
import OperationCheck.Template.Block
import OperationCheck.Template.Body
import OperationCheck.Template.Opener
import OperationCheck.Text.Blank
import OperationCheck.Text.Bytes
import OperationCheck.Text.Case
import OperationCheck.Text.Decoding
import OperationCheck.Text.Number
import OperationCheck.Text.Position
import OperationCheck.Toml.Quoted
import OperationCheck.Toml.Reader
import OperationCheck.Toml.Scalar
import OperationCheck.Toml.Value
import OperationCheck.TypeSystem.Build
import OperationCheck.TypeSystem.BuiltIn
import OperationCheck.TypeSystem.Check
import OperationCheck.TypeSystem.Implementing
import OperationCheck.TypeSystem.Nesting
import OperationCheck.TypeSystem.Schema
import OperationCheck.TypeSystem.Source
import OperationCheck.TypeSystem.Usage
import OperationCheck.Unicode.Age
import OperationCheck.Unicode.Binary
import OperationCheck.Unicode.Category
import OperationCheck.Unicode.Folding
import OperationCheck.Unicode.GraphemeBreak
import OperationCheck.Unicode.Lookup
import OperationCheck.Unicode.Property
import OperationCheck.Unicode.Script
import OperationCheck.Unicode.ScriptExtension
import OperationCheck.Unicode.SentenceBreak
import OperationCheck.Unicode.Word
import OperationCheck.Unicode.WordBreak
import OperationCheck.Validation.Cause
import OperationCheck.Validation.Directive
import OperationCheck.Validation.Finding
import OperationCheck.Validation.Problem
import OperationCheck.Validation.Reference
import OperationCheck.Validation.Syntax
import OperationCheck.Validation.Value
import OperationCheck.Proofs.Introspection.Definitions
import OperationCheck.Proofs.Introspection.Printing
import OperationCheck.Proofs.TypeSystem.Building
import OperationCheck.Proofs.Rules.Apart
import OperationCheck.Proofs.Rules.BuiltIn
import OperationCheck.Proofs.Run.Selection
import OperationCheck.Proofs.Template.Locations
import OperationCheck.Proofs.Template.Resumption
import OperationCheck.Proofs.Introspection.Rebuilding
import OperationCheck.Proofs.Files.Extension
import OperationCheck.Proofs.Source.Detection
import OperationCheck.Proofs.Template.Escapes
import OperationCheck.Proofs.Rules.Directory
import OperationCheck.Proofs.Run.Exclusion
import OperationCheck.Proofs.Http.Fields
import OperationCheck.Proofs.Http.Headers
import OperationCheck.Proofs.Introspection.Answers
import OperationCheck.Proofs.Report.Limit
import OperationCheck.Proofs.Rules.Linking
import OperationCheck.Proofs.Source.Sending
import OperationCheck.Proofs.Report.Colors
import OperationCheck.Proofs.Rules.Selecting
import OperationCheck.Proofs.Source.Damage
import OperationCheck.Proofs.Template.Extent
import OperationCheck.Proofs.Text.Decoding
import OperationCheck.Proofs.Files.Spelling
import OperationCheck.Proofs.Documents.Splitting
