import SaltConventions.Bindings
import SaltConventions.Cli
import SaltConventions.Config
import SaltConventions.Config.Reader
import SaltConventions.Diagnostic
import SaltConventions.Error
import SaltConventions.Event
import SaltConventions.FileTree
import SaltConventions.Glob
import SaltConventions.Json
import SaltConventions.Json.Printer
import SaltConventions.Json.Reader
import SaltConventions.Linter
import SaltConventions.Loggers
import SaltConventions.Main
import SaltConventions.Message
import SaltConventions.Modules.Environment
import SaltConventions.Modules.Resolver
import SaltConventions.Modules.StandardLibrary
import SaltConventions.Path
import SaltConventions.Permission
import SaltConventions.Report
import SaltConventions.Rule
import SaltConventions.RuleSet
import SaltConventions.Rules.FileMode
import SaltConventions.Rules.Finalizers
import SaltConventions.Rules.MovedTestCases
import SaltConventions.Rules.OpenFiles
import SaltConventions.Rules.PatchedModules
import SaltConventions.Rules.ReplacedFunctions
import SaltConventions.Rules.ReplacedImports
import SaltConventions.Rules.SourceEncoding
import SaltConventions.Rules.StringFormatting
import SaltConventions.Rules.UngatedImports
import SaltConventions.Rules.VirtualLogging
import SaltConventions.Scope
import SaltConventions.Severity
import SaltConventions.Suppression
import SaltConventions.SyntaxTree
import SaltConventions.SyntaxTree.Exchange
import SaltConventions.SyntaxTree.Stored
import SaltConventions.Text.Blank
import SaltConventions.Text.Bytes
import SaltConventions.Text.Hex
import SaltConventions.Text.Letter
import SaltConventions.Text.LineIndex
import SaltConventions.Text.Literal
import SaltConventions.Text.Lower
import SaltConventions.Text.Pieces
import SaltConventions.Text.Quoted
import SaltConventions.Text.Ranges
import SaltConventions.Text.Substitution
import SaltConventions.Text.Word
import SaltConventions.Toml
import SaltConventions.Toml.Reader
import SaltConventions.Toml.Scalar
import SaltConventions.Toml.Table
import SaltConventions.Visit
import SaltConventions.Proofs.Parts
import SaltConventions.Proofs.Walk
import SaltConventions.Proofs.Dispatch
import SaltConventions.Proofs.Itinerary
import SaltConventions.Proofs.Isolation
import SaltConventions.Proofs.Enclosure
import SaltConventions.Proofs.SourceOrder
import SaltConventions.Proofs.StableOrder
import SaltConventions.Proofs.Disabling
import SaltConventions.Proofs.InlineSuppression
import SaltConventions.Proofs.Literals
import SaltConventions.Proofs.PathOrder
import SaltConventions.Proofs.Spelling
import SaltConventions.Proofs.FoundFiles
import SaltConventions.Proofs.Siblings
import SaltConventions.Proofs.Rearranged
import SaltConventions.Proofs.SameView
import SaltConventions.Proofs.Reports
import SaltConventions.Proofs.Enumeration
import SaltConventions.Proofs.TargetLeaves
import SaltConventions.Proofs.Wording
import SaltConventions.Proofs.GatedImports
import SaltConventions.Proofs.NoLookahead
import SaltConventions.Proofs.BoundNames
import SaltConventions.Proofs.PatchedTargets
import SaltConventions.Proofs.RelativeImports
import SaltConventions.Proofs.OpenCalls
import SaltConventions.Proofs.WorkingDirectory
import SaltConventions.Proofs.SearchPaths
import SaltConventions.Proofs.LintedPaths
import SaltConventions.Proofs.ImportAdvice
import SaltConventions.Proofs.ReplacedNames
import SaltConventions.Proofs.CountedFiles
import SaltConventions.Proofs.RelaxedRuns
import SaltConventions.Proofs.FurtherArguments
import SaltConventions.Proofs.ExitStatus
import SaltConventions.Proofs.History
import SaltConventions.Proofs.ReplacedCalls
import SaltConventions.Proofs.MessageCodes
import SaltConventions.Proofs.KnownLoggers
import SaltConventions.Proofs.VirtualLogs
import SaltConventions.Proofs.Steps
import SaltConventions.Proofs.StringFindings
import SaltConventions.Proofs.LoggerCalls
import SaltConventions.Proofs.FormatStrings
import SaltConventions.Proofs.UnindexedSlots
import SaltConventions.Proofs.SubstitutionGrammar
import SaltConventions.Proofs.BindingHistory
import SaltConventions.Proofs.DottedNames
import SaltConventions.Proofs.ModuleOrigins
import SaltConventions.Proofs.DirectiveKeys
import SaltConventions.Proofs.LiteralRoundTrip
import SaltConventions.Proofs.Placeholders
import SaltConventions.Proofs.OctalModes
import SaltConventions.Proofs.NullBytes
import SaltConventions.Proofs.AcceptedModes
import SaltConventions.Proofs.InlineFunctions
import SaltConventions.Proofs.EncodingDeclarations
import SaltConventions.Proofs.ByteOrderMark
import SaltConventions.Proofs.Listings
import SaltConventions.Proofs.LibraryFiles
import SaltConventions.Proofs.LineNumbers
import SaltConventions.Proofs.LineReadings
import SaltConventions.Proofs.JsonForms
