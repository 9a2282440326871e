import Conformance.Audit
import Conformance.Code
import Conformance.CommandLine.Arguments
import Conformance.CommandLine.Clock
import Conformance.CommandLine.Run
import Conformance.Config
import Conformance.Constraint.Basic
import Conformance.Constraint.Codec
import Conformance.Date
import Conformance.Diagnostic.Basic
import Conformance.Diagnostic.Codec
import Conformance.Dict
import Conformance.Document.Basic
import Conformance.Document.JsonReader
import Conformance.Document.JsonWriter
import Conformance.Failure
import Conformance.FileTree.Basic
import Conformance.Glob
import Conformance.Main
import Conformance.Override.Apply
import Conformance.Override.Codec
import Conformance.Override.Policy
import Conformance.Pattern
import Conformance.Project.Discovery
import Conformance.Project.Inclusion
import Conformance.Project.Index
import Conformance.Project.Path
import Conformance.Proofs.Canonical
import Conformance.Proofs.Dict
import Conformance.Proofs.Document.Codecs
import Conformance.Proofs.Document.Reading
import Conformance.Proofs.Document.Room
import Conformance.Proofs.Document.Scalars
import Conformance.Proofs.Document.Storable
import Conformance.Proofs.Document.Values
import Conformance.Proofs.Document.Writing
import Conformance.Proofs.FileTree
import Conformance.Proofs.Override.Suppression
import Conformance.Proofs.Registry
import Conformance.Proofs.Resolution.Chain
import Conformance.Proofs.Resolution.Entries
import Conformance.Proofs.Resolution.Flatten
import Conformance.Proofs.Resolution.Inheritance
import Conformance.Proofs.Resolution.Merge
import Conformance.Proofs.ResultCache
import Conformance.Proofs.ResultCache.Log
import Conformance.Proofs.ResultCache.Persistence
import Conformance.Proofs.ResultCache.RoundTrip
import Conformance.Proofs.Schedule
import Conformance.Proofs.Session
import Conformance.Proofs.Tag.Blocks
import Conformance.Proofs.Text
import Conformance.Proofs.Validator.Reach
import Conformance.Proofs.Workspace.Accounting
import Conformance.Proofs.Workspace.Check
import Conformance.Proofs.Workspace.Dependence
import Conformance.Proofs.Workspace.History
import Conformance.Proofs.Workspace.ImportLists
import Conformance.Proofs.Workspace.Input
import Conformance.Proofs.Workspace.Isolation
import Conformance.Proofs.Workspace.Project
import Conformance.Proofs.Workspace.Run
import Conformance.Proofs.Workspace.Stored
import Conformance.Proofs.Workspace.Transparency
import Conformance.Regex.CharSet
import Conformance.Regex.CharTable
import Conformance.Regex.Footprint
import Conformance.Regex.Node
import Conformance.Regex.Program
import Conformance.Regex.Property
import Conformance.Regex.Reader.Class
import Conformance.Regex.Reader.Escape
import Conformance.Regex.Reader.Expression
import Conformance.Regex.Reader.Input
import Conformance.Regex.Search
import Conformance.Regex.Tables.Age
import Conformance.Regex.Tables.CaseFold
import Conformance.Regex.Tables.Casing
import Conformance.Regex.Tables.Category
import Conformance.Regex.Tables.Emoji
import Conformance.Regex.Tables.Script
import Conformance.Regex.Tables.Segmentation
import Conformance.Regex.Tables.Traits
import Conformance.Regex.Utf8
import Conformance.Registry.Basic
import Conformance.Registry.Codec
import Conformance.Report.Architecture
import Conformance.Report.Render
import Conformance.Report.Style
import Conformance.Resolution.Basic
import Conformance.Resolution.Codec
import Conformance.Resolution.Merge
import Conformance.ResultCache.Basic
import Conformance.ResultCache.Entry
import Conformance.Rule
import Conformance.Schedule
import Conformance.Session
import Conformance.Sha256
import Conformance.Similarity
import Conformance.Source.ImportClause
import Conformance.Source.LineCount
import Conformance.Source.Model
import Conformance.Source.ModelCodec
import Conformance.Source.StoredModel
import Conformance.Source.TextModel
import Conformance.Tag.Basic
import Conformance.Tag.Codec
import Conformance.Tag.Scan
import Conformance.Text.Basic
import Conformance.Text.Chars
import Conformance.Toml.Reader
import Conformance.Toml.Scalar
import Conformance.Toml.Table
import Conformance.Validator.Basic
import Conformance.Validator.Calls
import Conformance.Validator.Catalogue
import Conformance.Validator.Content
import Conformance.Validator.Coverage
import Conformance.Validator.Declarations
import Conformance.Validator.Imports
import Conformance.Validator.Intents
import Conformance.Validator.Placement
import Conformance.Workspace.Basic
import Conformance.Workspace.Check
import Conformance.Workspace.Codec
import Conformance.Workspace.Run
import Conformance.Proofs.Validator.Verdicts
import Conformance.Proofs.Validator.Ranges
import Conformance.Proofs.Workspace.Targets
import Conformance.Proofs.Registry.Checksum
import Conformance.Proofs.Resolution.Locality
import Conformance.Proofs.Session.Contention
import Conformance.Proofs.Workspace.Company
import Conformance.Proofs.Glob
import Conformance.Proofs.Override.Expiry
import Conformance.Proofs.Project.Cycles
import Conformance.Proofs.Registry.Merging
import Conformance.Proofs.Tag.Collected
import Conformance.Proofs.Audit
import Conformance.Proofs.Project.Path
import Conformance.Proofs.Project.Modules
import Conformance.Proofs.Project.Discovery
import Conformance.Proofs.Resolution.Latest
import Conformance.Proofs.Resolution.CycleBans
import Conformance.Proofs.Override.Matching
import Conformance.Proofs.Pattern
import Conformance.Proofs.Validator.Intents
import Conformance.Proofs.Validator.IntentConflicts
import Conformance.Proofs.Validator.IntentBinding
import Conformance.Proofs.Tag.Steps
import Conformance.Proofs.Tag.Scanning
import Conformance.Proofs.Source.BlockComments
import Conformance.Proofs.Tag.Comments
import Conformance.Proofs.Validator.Content
import Conformance.Proofs.Similarity
import Conformance.Proofs.Project.Importers
import Conformance.Proofs.Schedule.Deadlines
import Conformance.Proofs.ResultCache.Key
import Conformance.Proofs.Constraint.Template
import Conformance.Proofs.Constraint.Substitution
import Conformance.Proofs.Resolution.Repeats
import Conformance.Proofs.Source.ImportClause
