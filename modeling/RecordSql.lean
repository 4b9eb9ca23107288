import RecordSql.Builder
import RecordSql.Factory
import RecordSql.Transformer
import RecordSql.Value.Order
import RecordSql.World.Declaration
import RecordSql.World.Mapping
import RecordSql.Builder.Altered
import RecordSql.Builder.Draft
import RecordSql.Proofs.Registry.Entry
import RecordSql.Proofs.Registry.Call
import RecordSql.Proofs.Registry.Stranding
import RecordSql.Proofs.Registry.Soundness
import RecordSql.Proofs.Registry.History
import RecordSql.Proofs.Builder.Tables
import RecordSql.Proofs.Frame
import RecordSql.Proofs.Registry.Commutation
import RecordSql.Proofs.World.Registries
import RecordSql.Proofs.DeclarationOrder
import RecordSql.Proofs.Refinement
import RecordSql.Proofs.Statement.Marks
import RecordSql.Proofs.Statement.Template
import RecordSql.Proofs.Statement.Slots
import RecordSql.Proofs.Statement.Plain
import RecordSql.Proofs.Statement.Balance
import RecordSql.Proofs.Statement.Placeholders
import RecordSql.Proofs.Views
import RecordSql.Proofs.Statement.Outline
import RecordSql.Proofs.Statement.Parts
import RecordSql.Proofs.Statement.Secrecy
import RecordSql.Proofs.Statement.Clause
import RecordSql.Proofs.Statement.Repetition
import RecordSql.Proofs.Statement.Conjunction
import RecordSql.Proofs.Statement.Shorthands
import RecordSql.Proofs.Statement.OperatorSets
import RecordSql.Proofs.Statement.Projection
import RecordSql.Proofs.Mapping.Extraction
import RecordSql.Proofs.Mapping.Selection
import RecordSql.Proofs.Mapping.Storage
import RecordSql.Proofs.Mapping.Presence
import RecordSql.Proofs.Statement.Joins
import RecordSql.Proofs.Statement.Aliases
import RecordSql.Proofs.Statement.Precedence
import RecordSql.Proofs.Statement.Rows
import RecordSql.Proofs.Statement.Assignments
import RecordSql.Proofs.Statement.PartialSources
import RecordSql.Proofs.Statement.Strictness
import RecordSql.Proofs.Json.Numbers
import RecordSql.Proofs.Json.Floats
import RecordSql.Proofs.Json.Collections
import RecordSql.Proofs.Json.RoundTrip
import RecordSql.Proofs.Mapping.Transformers
import RecordSql.Proofs.World.Reading
import RecordSql.Proofs.Registry.Classes
import RecordSql.Proofs.World.Declaration
import RecordSql.Proofs.Agreement
import RecordSql.Proofs.Statement.Growth
import RecordSql.Proofs.World.Growth
import RecordSql.Proofs.World.OwnRegistry
import RecordSql.Proofs.World.Ordinary
import RecordSql.Proofs.World.Rows
import RecordSql.Proofs.Landing
import RecordSql.Proofs.Statement.Failures
import RecordSql.Proofs.World.Answers
import RecordSql.Proofs.World.Assembly
import RecordSql.Proofs.World.Failures
import RecordSql.Proofs.World.Entities
import RecordSql.Proofs.World.Reviving
import RecordSql.Proofs.World.PartialUpdates
import RecordSql.Proofs.World.Inheritance
import RecordSql.Proofs.World.Kept
import RecordSql.Proofs.World.Interchange
import RecordSql.Proofs.Registry.Refusals
import RecordSql.Proofs.Assoc
import RecordSql.Proofs.Statement.Settings
import RecordSql.Proofs.Statement.Shortcuts
import RecordSql.Proofs.Mapping.Culprits
import RecordSql.Proofs.Statement.Culprits
