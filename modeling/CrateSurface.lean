import CrateSurface.CommandLine
import CrateSurface.Document.Basic
import CrateSurface.Document.Loading
import CrateSurface.Document.Order
import CrateSurface.Document.Stats
import CrateSurface.Extraction
import CrateSurface.Files.Path
import CrateSurface.Files.RawPath
import CrateSurface.Files.Tree
import CrateSurface.Files.Utf8
import CrateSurface.Files.View
import CrateSurface.Files.Writing
import CrateSurface.Grammar.Expressions
import CrateSurface.Grammar.Items
import CrateSurface.Grammar.Parse
import CrateSurface.Grammar.Patterns
import CrateSurface.Grammar.Rule
import CrateSurface.Grammar.Scanner
import CrateSurface.Grammar.Symbol
import CrateSurface.Grammar.TokenTrees
import CrateSurface.Grammar.Types
import CrateSurface.Json.Basic
import CrateSurface.Json.Order
import CrateSurface.Json.Reader
import CrateSurface.Json.Writer
import CrateSurface.Log.Console
import CrateSurface.Log.Level
import CrateSurface.Log.Note
import CrateSurface.Log.Session
import CrateSurface.Main
import CrateSurface.Number.Binary64
import CrateSurface.Number.Decimal
import CrateSurface.Number.Integer
import CrateSurface.Proofs.DecimalText
import CrateSurface.Proofs.ModuleTree
import CrateSurface.Proofs.ReachableFiles
import CrateSurface.Proofs.WalkUnfolding
import CrateSurface.Report
import CrateSurface.Settings
import CrateSurface.Sorting
import CrateSurface.Spelling
import CrateSurface.Surface.Declaration
import CrateSurface.Surface.Finding
import CrateSurface.Surface.Module
import CrateSurface.Surface.Outline
import CrateSurface.Surface.Signature
import CrateSurface.Syntax.Node
import CrateSurface.Text.Alphanumeric
import CrateSurface.Text.Blank
import CrateSurface.Text.Bounds
import CrateSurface.Text.Case
import CrateSurface.Text.CodePoint
import CrateSurface.Text.Digit
import CrateSurface.Text.Identifier
import CrateSurface.Text.Printable
import CrateSurface.Text.Quoted
import CrateSurface.Value.Basic
import CrateSurface.Value.Display
import CrateSurface.Value.Order
import CrateSurface.Walk
import CrateSurface.Yaml.Base64
import CrateSurface.Yaml.Meaning
import CrateSurface.Yaml.Node
import CrateSurface.Yaml.Scalar
import CrateSurface.Yaml.Token
import CrateSurface.Proofs.JsonText
import CrateSurface.Proofs.JsonLegible
import CrateSurface.Proofs.SortingPermutes
import CrateSurface.Proofs.DocumentText
import CrateSurface.Proofs.AlikeBodies
import CrateSurface.Proofs.Census
import CrateSurface.Proofs.PrivateContent
import CrateSurface.Proofs.Unsupported
import CrateSurface.Proofs.IssueCensus
import CrateSurface.Proofs.IssueReports
import CrateSurface.Proofs.Calls
import CrateSurface.Proofs.Termination
import CrateSurface.Proofs.Sessions
import CrateSurface.Proofs.Unresolved
import CrateSurface.Proofs.CanonicalPaths
import CrateSurface.Proofs.ModuleLayouts
import CrateSurface.Proofs.SortingOrders
import CrateSurface.Proofs.RecordTree
import CrateSurface.Proofs.ReorderedJson
import CrateSurface.Proofs.ReportText
import CrateSurface.Proofs.ExtractionResults
import CrateSurface.Proofs.ModuleOrder
import CrateSurface.Proofs.CommentedItems
import CrateSurface.Proofs.CommentedWalks
import CrateSurface.Proofs.CommentedTrees
import CrateSurface.Proofs.CleanPaths
import CrateSurface.Proofs.ExpectedFailures
import CrateSurface.Proofs.JsonLines
import CrateSurface.Proofs.WrittenReports
import CrateSurface.Proofs.CommandRuns
import CrateSurface.Proofs.ScannedTokens
import CrateSurface.Proofs.GrammarRules
import CrateSurface.Proofs.ReadingDepth
import CrateSurface.Proofs.ForestsAlike
import CrateSurface.Proofs.ReadingInStep
import CrateSurface.Proofs.SpeltTokens
import CrateSurface.Proofs.ArrayLengths
import CrateSurface.Proofs.AsciiText
import CrateSurface.Proofs.PlainTypes
import CrateSurface.Proofs.JoinedTokens
import CrateSurface.Proofs.OpeningFunctions
import CrateSurface.Proofs.TypeTokens
import CrateSurface.Proofs.CanonicalTypes
import CrateSurface.Proofs.PrefixSigils
import CrateSurface.Proofs.SortingTies
import CrateSurface.Proofs.SyntaxTolerance
import CrateSurface.Proofs.TokenBoundaries
import CrateSurface.Proofs.DocumentOrder
import CrateSurface.Proofs.JsonRests
import CrateSurface.Proofs.DocumentShape
import CrateSurface.Proofs.RecordFilling
import CrateSurface.Proofs.ItemOrder
import CrateSurface.Proofs.ParameterLists
import CrateSurface.Proofs.ExportedMacros
import CrateSurface.Proofs.ChosenLevels
import CrateSurface.Proofs.SettingsFiles
import CrateSurface.Proofs.LevelVerdicts
import CrateSurface.Proofs.WrappedBindings
import CrateSurface.Proofs.FirstOccurrences
import CrateSurface.Proofs.TraitMembers
import CrateSurface.Proofs.SettingSources
import CrateSurface.Proofs.Statistics
import CrateSurface.Proofs.JsonLayouts
import CrateSurface.Proofs.Phases
import CrateSurface.Proofs.FaultCounts
