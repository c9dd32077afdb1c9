import JavaDeps.CommandLine.Console
import JavaDeps.CommandLine.Failure
import JavaDeps.CommandLine.Invocation
import JavaDeps.CommandLine.Level
import JavaDeps.CommandLine.Options
import JavaDeps.CommandLine.Run
import JavaDeps.Config.Document
import JavaDeps.Config.Failure
import JavaDeps.Config.Loading
import JavaDeps.Config.Section
import JavaDeps.Config.Settings
import JavaDeps.Config.Use
import JavaDeps.Config.Validation
import JavaDeps.Config.Variables
import JavaDeps.Decimal.Shortest
import JavaDeps.Digest.Blake3
import JavaDeps.Discovery.Sources
import JavaDeps.Discovery.Units
import JavaDeps.Duration
import JavaDeps.Files.Tree
import JavaDeps.Java.Facts
import JavaDeps.Java.Import
import JavaDeps.Java.Lexemes
import JavaDeps.Java.Name
import JavaDeps.Java.Outline
import JavaDeps.Java.Piece
import JavaDeps.Java.Reference
import JavaDeps.Java.Scan
import JavaDeps.Java.Token
import JavaDeps.Json.Decode
import JavaDeps.Json.Number
import JavaDeps.Json.Reading
import JavaDeps.Json.Token
import JavaDeps.Json.Value
import JavaDeps.Logging.Filter
import JavaDeps.Logging.Level
import JavaDeps.Main
import JavaDeps.Maven.ClassIndex
import JavaDeps.Maven.Coordinate
import JavaDeps.Maven.Label
import JavaDeps.Maven.LockFile
import JavaDeps.Path
import JavaDeps.Pattern.CharSet
import JavaDeps.Pattern.Matching
import JavaDeps.Pattern.Reader
import JavaDeps.Pool.Failure
import JavaDeps.Pool.Handle
import JavaDeps.Pool.Options
import JavaDeps.Pool.State
import JavaDeps.Pool.Crowd
import JavaDeps.Proofs.Resolve.DependencySet
import JavaDeps.Proofs.Sorted.Membership
import JavaDeps.Proofs.Workspace.History
import JavaDeps.Proofs.Workspace.Owners
import JavaDeps.Proofs.Workspace.Refinement
import JavaDeps.Resolve.Classification
import JavaDeps.Resolve.LabelScheme
import JavaDeps.Resolve.Outcome
import JavaDeps.Resolve.Platform
import JavaDeps.Resolve.Report
import JavaDeps.Resolve.Resolver
import JavaDeps.Resolve.Run
import JavaDeps.Resolve.RuntimeRule
import JavaDeps.Resolve.Unit
import JavaDeps.Sorted.Map
import JavaDeps.Sorted.Set
import JavaDeps.Source.File
import JavaDeps.Source.Parser
import JavaDeps.Terminal.Message
import JavaDeps.Terminal.Report
import JavaDeps.Terminal.Style
import JavaDeps.Text.Lines
import JavaDeps.Text.Printable
import JavaDeps.Text.Utf8
import JavaDeps.Toml.Document
import JavaDeps.Toml.Nested
import JavaDeps.Toml.Scalar
import JavaDeps.Toml.Text
import JavaDeps.Toml.Value
import JavaDeps.Toml.Writer
import JavaDeps.Unicode.CodeRun
import JavaDeps.Unicode.Derived
import JavaDeps.Unicode.Fold
import JavaDeps.Unicode.Letters
import JavaDeps.Unicode.Marks
import JavaDeps.Unicode.Numbers
import JavaDeps.Unicode.Property
import JavaDeps.Unicode.Scripts
import JavaDeps.Unicode.Signs
import JavaDeps.Wire.Facts
import JavaDeps.Wire.Message
import JavaDeps.Worker.Command
import JavaDeps.Worker.Host
import JavaDeps.Worker.Reference
import JavaDeps.Workspace.Index
import JavaDeps.Workspace.Package
import JavaDeps.Proofs.Resolve.Settlement
import JavaDeps.Proofs.Resolve.SimpleName
import JavaDeps.Proofs.Resolve.Exactness
import JavaDeps.Proofs.Java.ImportStatement
import JavaDeps.Proofs.Resolve.ImportedTypes
import JavaDeps.Proofs.Json.RoundTrip
import JavaDeps.Proofs.Json.Framing
import JavaDeps.Proofs.Wire.RoundTrip
import JavaDeps.Proofs.Worker.Exchange
import JavaDeps.Proofs.Pool.Steps
import JavaDeps.Proofs.Java.StatementGrammar
import JavaDeps.Proofs.Java.Acceptance
import JavaDeps.Proofs.Java.Erasure
import JavaDeps.Proofs.Java.Relexing
import JavaDeps.Proofs.Workspace.Commutation
import JavaDeps.Proofs.Resolve.Congruence
import JavaDeps.Proofs.Resolve.RunOrder
import JavaDeps.Proofs.Path.Spelling
import JavaDeps.Proofs.Files.Directories
import JavaDeps.Proofs.Discovery.FoundUnits
import JavaDeps.Proofs.Discovery.NamedUnits
import JavaDeps.Proofs.Resolve.Unresolved
import JavaDeps.Proofs.Maven.Representatives
import JavaDeps.Proofs.Maven.Admission
import JavaDeps.Proofs.Maven.LockedClasses
import JavaDeps.Proofs.Pool.Accounting
import JavaDeps.Proofs.Pool.Transcript
import JavaDeps.Proofs.Pool.Service
import JavaDeps.Proofs.Pool.Attribution
import JavaDeps.Proofs.Resolve.Ambiguities
import JavaDeps.Proofs.Resolve.ReportedOnce
import JavaDeps.Proofs.Discovery.Coverage
import JavaDeps.Proofs.Resolve.RunOutcomes
import JavaDeps.Proofs.CommandLine.ResolveRun
import JavaDeps.Proofs.Workspace.Elsewhere
import JavaDeps.Proofs.Resolve.Isolation
import JavaDeps.Proofs.Text.Encoding
import JavaDeps.Proofs.Json.Layout
import JavaDeps.Proofs.Maven.Rewriting
import JavaDeps.Proofs.Wire.Stream
import JavaDeps.Proofs.Maven.LabelShape
import JavaDeps.Proofs.Resolve.ImportForms
import JavaDeps.Proofs.Resolve.Rerun
import JavaDeps.Proofs.Pool.Retry
import JavaDeps.Proofs.Pool.Loans
import JavaDeps.Proofs.Pool.Crowds
import JavaDeps.Proofs.Pool.CrowdRetry
import JavaDeps.Proofs.Pool.Agreement
import JavaDeps.Proofs.Java.Findings
import JavaDeps.Proofs.Java.Chains
import JavaDeps.Proofs.Java.StatementSpans
import JavaDeps.Proofs.Java.Statements
import JavaDeps.Proofs.Java.QualifiedNames
import JavaDeps.Proofs.Java.ReflectiveNames
import JavaDeps.Proofs.Java.TypeLists
import JavaDeps.Proofs.Java.ImportedNames
import JavaDeps.Proofs.Java.ImportNormalisation
import JavaDeps.Proofs.Resolve.DirectoryLabels
import JavaDeps.Proofs.Pool.KeptFacts
import JavaDeps.Proofs.Discovery.ModuleFolding
import JavaDeps.Proofs.Maven.CoordinateText
import JavaDeps.Proofs.Maven.RepeatedCoordinates
import JavaDeps.Proofs.Config.Acceptance
import JavaDeps.Proofs.Config.Conversions
import JavaDeps.Proofs.Config.RootKinds
import JavaDeps.Proofs.Config.FieldReading
import JavaDeps.Proofs.Java.Tiling
import JavaDeps.Proofs.Toml.Overlay
import JavaDeps.Proofs.Config.Overriding
import JavaDeps.Proofs.Text.Numerals
import JavaDeps.Proofs.Toml.QuotedText
import JavaDeps.Proofs.Toml.WrittenValues
import JavaDeps.Proofs.Toml.WrittenDocument
import JavaDeps.Proofs.Config.RoundTrip
import JavaDeps.Proofs.Java.Positions
import JavaDeps.Proofs.Java.SafeOutline
import JavaDeps.Proofs.Java.SafeReferences
import JavaDeps.Proofs.Java.TextBlocks
