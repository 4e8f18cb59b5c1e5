import ArchLint.Analysis
import ArchLint.CodeUnit
import ArchLint.Command.Arguments
import ArchLint.Command.Basic
import ArchLint.Command.Flag
import ArchLint.Command.Search
import ArchLint.Command.Usage
import ArchLint.Config
import ArchLint.Config.FromSettings
import ArchLint.Config.ToYaml
import ArchLint.Disk
import ArchLint.Display
import ArchLint.DocTag
import ArchLint.Glob
import ArchLint.Graph.Basic
import ArchLint.Graph.Building
import ArchLint.Graph.Cycles
import ArchLint.Graph.Dependencies
import ArchLint.Graph.Metrics
import ArchLint.IdSet
import ArchLint.ImportPath
import ArchLint.Json.Basic
import ArchLint.Json.Writer
import ArchLint.LineDiff
import ArchLint.Log
import ArchLint.LogLevel
import ArchLint.Main
import ArchLint.ModuleFile.Basic
import ArchLint.ModuleFile.Directives
import ArchLint.Name
import ArchLint.Number.Binary64
import ArchLint.Number.Decimal
import ArchLint.Number.Integer
import ArchLint.Number.Reading
import ArchLint.Pager
import ArchLint.Pattern.Basic
import ArchLint.Pattern.Syntax
import ArchLint.Policy
import ArchLint.Program
import ArchLint.RecentCache
import ArchLint.Region
import ArchLint.Rendering
import ArchLint.Report
import ArchLint.Report.Json
import ArchLint.Report.Yaml
import ArchLint.ReportStore
import ArchLint.Scan
import ArchLint.ScanCache
import ArchLint.Settings.EnvironmentFile
import ArchLint.Settings.Lookup
import ArchLint.Settings.Setting
import ArchLint.SlashPath
import ArchLint.Source.Comment
import ArchLint.Source.Grammar.Basic
import ArchLint.Source.Grammar.Declarations
import ArchLint.Source.Grammar.Expressions
import ArchLint.Source.Grammar.Statements
import ArchLint.Source.Grammar.Types
import ArchLint.Source.Mention
import ArchLint.Source.Parse
import ArchLint.Source.Token
import ArchLint.Source.Token.Literal
import ArchLint.Source.Token.Scan
import ArchLint.Source.Tree
import ArchLint.Source.Units
import ArchLint.SourceFiles
import ArchLint.Spill
import ArchLint.Suggestion
import ArchLint.Table
import ArchLint.Terminal.Cells
import ArchLint.Terminal.Pen
import ArchLint.Terminal.Style
import ArchLint.Terminal.Wrapping
import ArchLint.Text.Base64
import ArchLint.Text.Basic
import ArchLint.Text.Classes
import ArchLint.Text.Cluster
import ArchLint.Text.Composition
import ArchLint.Text.Digest
import ArchLint.Text.Distance
import ArchLint.Text.Folding
import ArchLint.Text.Properties
import ArchLint.Text.Quoted
import ArchLint.Text.Record
import ArchLint.Text.Scripts
import ArchLint.Text.Table
import ArchLint.Text.Utf8
import ArchLint.Text.Width
import ArchLint.Timestamp
import ArchLint.Version
import ArchLint.Workflow
import ArchLint.Yaml.Node
import ArchLint.Yaml.Scalar
import ArchLint.Yaml.Scan
import ArchLint.Yaml.Token
import ArchLint.Yaml.Update
import ArchLint.Yaml.Value
import ArchLint.Yaml.Writer
import ArchLint.Proofs.IdSet
import ArchLint.Proofs.NamedEntries
import ArchLint.Proofs.Trimming
import ArchLint.Proofs.Distinct
import ArchLint.Proofs.WellFormed
import ArchLint.Proofs.Runs
import ArchLint.Proofs.Sealing
import ArchLint.Proofs.Aggregation
import ArchLint.Proofs.Analysis
import ArchLint.Proofs.Violations
import ArchLint.Proofs.Duality
import ArchLint.Proofs.Fans
import ArchLint.Proofs.CycleSearch
import ArchLint.Proofs.CycleClasses
import ArchLint.Proofs.Verdict
import ArchLint.Proofs.Linking
import ArchLint.Proofs.Edges
import ArchLint.Proofs.UndeclaredNames
import ArchLint.Proofs.FileOrder
import ArchLint.Proofs.Muting
import ArchLint.Proofs.MutedRings
import ArchLint.Proofs.Disabling
import ArchLint.Proofs.Registration
import ArchLint.Proofs.ProjectModule
import ArchLint.Proofs.PackageReferences
import ArchLint.Proofs.Records
import ArchLint.Proofs.References
import ArchLint.Proofs.SourceNames
import ArchLint.Proofs.ScannedUnits
import ArchLint.Proofs.Metadata
import ArchLint.Proofs.Trees
import ArchLint.Proofs.Recency
import ArchLint.Proofs.CacheCalls
import ArchLint.Proofs.SavedCache
import ArchLint.Proofs.Listing
import ArchLint.Proofs.ScanHistory
import ArchLint.Proofs.Directories
import ArchLint.Proofs.Removal
import ArchLint.Proofs.SpilledSequences
import ArchLint.Proofs.Numerals
import ArchLint.Proofs.Instants
import ArchLint.Proofs.ReportJson
import ArchLint.Proofs.ReportYaml
import ArchLint.Proofs.SavedReports
import ArchLint.Proofs.FailedSaves
import ArchLint.Proofs.AbsolutePaths
import ArchLint.Proofs.SelectedFiles
import ArchLint.Proofs.NearestModules
import ArchLint.Proofs.Rates
import ArchLint.Proofs.PrintedFindings
import ArchLint.Proofs.Annotations
import ArchLint.Proofs.QualifiedNames
import ArchLint.Proofs.Scrolling
