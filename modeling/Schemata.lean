import Schemata.CommandLine.Invocation
import Schemata.CommandLine.Option
import Schemata.CommandLine.Run
import Schemata.CommandLine.Usage
import Schemata.Failure
import Schemata.Files.Access
import Schemata.Files.Disk
import Schemata.Files.Input
import Schemata.Files.Output
import Schemata.Files.Path
import Schemata.Generation.Accessor
import Schemata.Generation.Comment
import Schemata.Generation.FieldType
import Schemata.Generation.Generator
import Schemata.Generation.Identifier
import Schemata.Generation.ModelFile
import Schemata.Generation.Project
import Schemata.Generation.Timestamp
import Schemata.Json.Limits
import Schemata.Json.Reader
import Schemata.Json.Record
import Schemata.Json.Value
import Schemata.Json.Writer
import Schemata.Main
import Schemata.Markup.Attributes
import Schemata.Markup.Event
import Schemata.Markup.Problem
import Schemata.Markup.Token
import Schemata.Markup.Value
import Schemata.Migration.Difference
import Schemata.Migration.Mysql
import Schemata.Migration.Plan
import Schemata.Migration.Statement
import Schemata.Model.Attribute
import Schemata.Model.Collector
import Schemata.Model.DataModel
import Schemata.Model.DependencyOrder
import Schemata.Model.Entity
import Schemata.Model.Exchange
import Schemata.Model.Fault
import Schemata.Model.Identity
import Schemata.Model.Index
import Schemata.Model.Keyword
import Schemata.Model.Linking
import Schemata.Model.Log
import Schemata.Model.Naming
import Schemata.Model.Reference
import Schemata.Model.Resolution
import Schemata.Model.Validation
import Schemata.Proofs.CommandLine.CleanModels
import Schemata.Proofs.CommandLine.Reading
import Schemata.Proofs.Files.Destination
import Schemata.Proofs.Files.Keeping
import Schemata.Proofs.Files.Sparing
import Schemata.Proofs.Generation.Answers
import Schemata.Proofs.Generation.ChangedFiles
import Schemata.Proofs.Generation.FieldNames
import Schemata.Proofs.Generation.Grounded
import Schemata.Proofs.Generation.KeptFiles
import Schemata.Proofs.Generation.ManyToMany
import Schemata.Proofs.Generation.ModelText
import Schemata.Proofs.Generation.OneToMany
import Schemata.Proofs.Generation.OutputPaths
import Schemata.Proofs.Generation.Relations
import Schemata.Proofs.Generation.SourceText
import Schemata.Proofs.Generation.Surroundings
import Schemata.Proofs.Generation.TableColumns
import Schemata.Proofs.Generation.Ways
import Schemata.Proofs.Json.ReadBack
import Schemata.Proofs.Json.RecordParts
import Schemata.Proofs.Lookup
import Schemata.Proofs.Markup.Elements
import Schemata.Proofs.Migration.Alteration
import Schemata.Proofs.Migration.Binding
import Schemata.Proofs.Migration.Catalog
import Schemata.Proofs.Migration.ClosedText
import Schemata.Proofs.Migration.ConstraintNames
import Schemata.Proofs.Migration.Course
import Schemata.Proofs.Migration.DropOrder
import Schemata.Proofs.Migration.Equivalence
import Schemata.Proofs.Migration.FromNothing
import Schemata.Proofs.Migration.IndexSurvival
import Schemata.Proofs.Migration.IndexedKeys
import Schemata.Proofs.Migration.InitialTables
import Schemata.Proofs.Migration.KeyClause
import Schemata.Proofs.Migration.KeySafety
import Schemata.Proofs.Migration.LastColumn
import Schemata.Proofs.Migration.Nullability
import Schemata.Proofs.Migration.Outcome
import Schemata.Proofs.Migration.Outline
import Schemata.Proofs.Migration.Rebuilding
import Schemata.Proofs.Migration.Script
import Schemata.Proofs.Migration.ScriptReading
import Schemata.Proofs.Migration.TableByTable
import Schemata.Proofs.Model.Calls
import Schemata.Proofs.Model.Completeness
import Schemata.Proofs.Model.Declaration
import Schemata.Proofs.Model.Findings
import Schemata.Proofs.Model.IndexTypes
import Schemata.Proofs.Model.Links
import Schemata.Proofs.Model.Namespaces
import Schemata.Proofs.Model.Placement
import Schemata.Proofs.Model.Registry
import Schemata.Proofs.Model.Relinking
import Schemata.Proofs.Model.RoundTrip
import Schemata.Proofs.Model.SharedIdentities
import Schemata.Proofs.Model.Sound
import Schemata.Proofs.Model.Sweeping
import Schemata.Proofs.Schema.Losses
import Schemata.Proofs.Schema.Marks
import Schemata.Proofs.Schema.Members
import Schemata.Proofs.Schema.Merging
import Schemata.Proofs.Schema.Parts
import Schemata.Proofs.Schema.Reading
import Schemata.Proofs.Text.Listing
import Schemata.Proofs.Text.Literals
import Schemata.Proofs.Text.LowerCase
import Schemata.Proofs.Text.Marks
import Schemata.Proofs.Text.Occurrences
import Schemata.Proofs.Text.SnakeCase
import Schemata.Schema.Document
import Schemata.Schema.Element
import Schemata.Schema.Loading
import Schemata.Schema.Problem
import Schemata.Settings
import Schemata.SettingsFile
import Schemata.Text.Alphanumeric
import Schemata.Text.Blank
import Schemata.Text.CaseMap
import Schemata.Text.CharRange
import Schemata.Text.Decimal
import Schemata.Text.LetterCase
import Schemata.Text.Lines
import Schemata.Text.Natural
import Schemata.Text.Quoted
import Schemata.Text.Replace
import Schemata.Text.Visible
import Schemata.Text.Words
import Schemata.Toml.Document
import Schemata.Toml.Moment
import Schemata.Toml.Number
import Schemata.Toml.Table
import Schemata.Toml.Text
