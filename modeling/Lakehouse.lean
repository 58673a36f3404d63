import Lakehouse.Calendar
import Lakehouse.Catalog.Backend
import Lakehouse.Catalog.Config
import Lakehouse.Decimal.Layout
import Lakehouse.Declaration.Basic
import Lakehouse.Declaration.Document
import Lakehouse.Declaration.Load
import Lakehouse.Declaration.Projection
import Lakehouse.Failure
import Lakehouse.Integration.Resolve
import Lakehouse.Json
import Lakehouse.Metadata.Gather
import Lakehouse.Model
import Lakehouse.Partition.Chunk
import Lakehouse.Registry
import Lakehouse.RelationKey
import Lakehouse.StorageRelation
import Lakehouse.Table.Merge
import Lakehouse.Template.Value
import Lakehouse.Text.Blank
import Lakehouse.Text.LowerCase
import Lakehouse.Text.Quoted
import Lakehouse.Text.Token
import Lakehouse.Text.Utf8
import Lakehouse.Yaml.Anchors
import Lakehouse.Yaml.Document
import Lakehouse.Yaml.Node
import Lakehouse.Yaml.Scalar
import Lakehouse.Yaml.Token
import Lakehouse.Yaml.Token.Cursor
import Lakehouse.Yaml.Token.Lexer
import Lakehouse.Yaml.Token.Text
import Lakehouse.Proofs.WorkerPool.History
import Lakehouse.Proofs.WorkerPool.Delivery
import Lakehouse.Proofs.Metadata.Rows
import Lakehouse.Proofs.Metadata.Account
import Lakehouse.Proofs.Metadata.Coverage
import Lakehouse.Proofs.Metadata.Schedule
import Lakehouse.Proofs.Metadata.Scope
import Lakehouse.Proofs.Partition.Packing
import Lakehouse.Proofs.Partition.Retry
import Lakehouse.Proofs.Partition.Reading
import Lakehouse.Proofs.Metadata.Table
import Lakehouse.Proofs.Registry.Run
import Lakehouse.Proofs.Registry.Writes
import Lakehouse.Proofs.Integration.Precedence
import Lakehouse.Proofs.Declaration.Projected
import Lakehouse.Proofs.Declaration.WellFormed
import Lakehouse.Proofs.Registry.Declared
import Lakehouse.Proofs.Registry.Naming
import Lakehouse.Proofs.Registry.Resolution
import Lakehouse.Proofs.Table.MergedRow
import Lakehouse.Proofs.Metadata.Retained
import Lakehouse.Proofs.Partition.Fewest
import Lakehouse.Proofs.WorkerPool.Breaking
import Lakehouse.Proofs.Metadata.Arrival
import Lakehouse.Proofs.Decimal.Numeral
import Lakehouse.Proofs.Integration.Validity
import Lakehouse.Proofs.Integration.Resolvable
import Lakehouse.Proofs.Integration.Apart
import Lakehouse.Proofs.Integration.Levels
import Lakehouse.Proofs.Integration.Volume
import Lakehouse.Proofs.Declaration.Understood
import Lakehouse.Proofs.Declaration.InUse
import Lakehouse.Proofs.Declaration.Violated
import Lakehouse.Proofs.Model.Unset
import Lakehouse.Proofs.Model.Written
import Lakehouse.Proofs.WorkerPool.Calls
import Lakehouse.Proofs.WorkerPool.Connections
import Lakehouse.Proofs.WorkerPool.Stopping
import Lakehouse.Proofs.WorkerPool.Serial
import Lakehouse.Proofs.Metadata.PlanOrder
import Lakehouse.Proofs.Metadata.Restriction
import Lakehouse.Proofs.Text.NormalForm
import Lakehouse.Proofs.Text.LetterCase
import Lakehouse.Proofs.RelationKey.NormalForm
import Lakehouse.Proofs.RelationKey.Spelling
import Lakehouse.Proofs.Integration.Filled
import Lakehouse.Proofs.Registry.Shown
import Lakehouse.Proofs.Declaration.Record
import Lakehouse.Proofs.Declaration.Spelled
import Lakehouse.Proofs.Declaration.Misspelled
import Lakehouse.Proofs.Declaration.Respelled
import Lakehouse.Proofs.Declaration.Extended
import Lakehouse.Proofs.Declaration.RoundTrip
import Lakehouse.Proofs.Failure.Wrapping
