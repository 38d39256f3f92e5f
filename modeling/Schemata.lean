import Schemata.JsonSchema.Warnings
import Schemata.Schema.Blueprint
import Schemata.Schema.Conversions
import Schemata.Schema.Describe
import Schemata.Main
import Schemata.Proofs.Ast.WireFormat
import Schemata.Proofs.Schema.Binding
import Schemata.Proofs.Schema.DescriptionRoundTrip
import Schemata.Proofs.Schema.FixedPoints
import Schemata.Proofs.Schema.Redescribing
import Schemata.Proofs.Schema.Termination
import Schemata.Proofs.Schema.UnionRoundTrip
import Schemata.Proofs.JsonSchema.RoundTrip
import Schemata.Proofs.JsonSchema.Importing
import Schemata.Proofs.JsonSchema.Buildable
import Schemata.Proofs.JsonSchema.FixedPoint
import Schemata.Proofs.Schema.Filling
import Schemata.Proofs.JsonSchema.Persisting
import Schemata.Proofs.Schema.Dispatch
import Schemata.Proofs.Schema.OmittedDefaults
import Schemata.Proofs.Schema.DescribingEnds
import Schemata.Proofs.JsonSchema.Widening
import Schemata.Proofs.Schema.DepthLimit
import Schemata.Proofs.Schema.ErrorPaths
import Schemata.Proofs.Schema.FieldOrder
import Schemata.Proofs.Schema.Requiring
import Schemata.Proofs.Number.Multiples
import Schemata.Proofs.Schema.UniqueItems
import Schemata.Proofs.Schema.RecordRoundTrip
import Schemata.Proofs.Command.Overriding
import Schemata.Proofs.JsonSchema.Requiring
import Schemata.Proofs.JsonSchema.Requiring
import Schemata.Proofs.Command.Overriding
import Schemata.Proofs.Schema.HopLimit
