import PolyQuery.Main
import PolyQuery.Proofs.Document.InsertedRows
import PolyQuery.Proofs.Query.FullTable
import PolyQuery.Proofs.Query.StoredPages
import PolyQuery.Proofs.Sql.DocumentAgreement
import PolyQuery.Proofs.Sql.ReadBack
import PolyQuery.Schema.Registry
import PolyQuery.Sql.Value
import PolyQuery.Proofs.Document.InterruptedWrites
import PolyQuery.Proofs.Document.PlainKeys
import PolyQuery.Proofs.Document.EqualRows
import PolyQuery.Proofs.AlikeEntries
import PolyQuery.Proofs.Computation.Alike
import PolyQuery.Proofs.Sql.Replacement
import PolyQuery.Proofs.Sql.ReplacedStatements
import PolyQuery.Proofs.Sql.OperandsApart
import PolyQuery.Proofs.Document.RenamedKeys
import PolyQuery.Proofs.Document.RenamedFilters
import PolyQuery.Proofs.Document.RenamedUpdates
import PolyQuery.Proofs.Document.RenamedCollections
import PolyQuery.Proofs.Document.RenamedStores
import PolyQuery.Proofs.Document.RenamedQueries
import PolyQuery.Proofs.Document.RenamedOperations
import PolyQuery.Proofs.Document.ColumnNames
import PolyQuery.Proofs.Document.AffectedDocuments
import PolyQuery.Proofs.Document.BatchUpdates
import PolyQuery.Proofs.Document.RepeatedUpserts
import PolyQuery.Proofs.Document.ProvidedValues
import PolyQuery.Proofs.Sql.MutationAgreement
import PolyQuery.Proofs.Document.OrderTerms
import PolyQuery.Proofs.Document.OrderedDocuments
import PolyQuery.Proofs.Sql.WrittenRows
import PolyQuery.Proofs.Sql.SchemaClosure
import PolyQuery.Proofs.Sql.BatchPayloads
import PolyQuery.Proofs.Sql.CountedRows
import PolyQuery.Proofs.Document.PagedPipelines
import PolyQuery.Proofs.Query.DefaultOrder
import PolyQuery.Proofs.Schema.DerivedVariants
import PolyQuery.Proofs.Document.CompilationChecks
import PolyQuery.Proofs.Document.RespelledIdentifiers
import PolyQuery.Proofs.Document.IdentifierSpellings
import PolyQuery.Proofs.Document.ExactDeletes
import PolyQuery.Proofs.Document.ExactUpdates
import PolyQuery.Proofs.Regex.Spans
import PolyQuery.Proofs.Document.TouchedPaths
import PolyQuery.Proofs.Regex.LikePatterns
import PolyQuery.Proofs.Sql.QuotedNames
import PolyQuery.Proofs.Document.ConsistentOrders
import PolyQuery.Proofs.Document.IntegerComparisons
import PolyQuery.Proofs.Document.NestedValues
import PolyQuery.Proofs.Document.AlikeFilters
import PolyQuery.Proofs.Document.BareValues
import PolyQuery.Proofs.Document.StagedFinds
import PolyQuery.Proofs.Query.Moves
import PolyQuery.Proofs.Query.Neighbours
import PolyQuery.Proofs.Query.FailedMoves
import PolyQuery.Proofs.Document.ObjectRoutes
import PolyQuery.Proofs.Document.ReplayedUpdates
import PolyQuery.Proofs.Document.IdentifierRoundTrips
import PolyQuery.Proofs.Query.GatheredConditions
import PolyQuery.Proofs.Query.CompletedRows
import PolyQuery.Proofs.Document.MovedFields
import PolyQuery.Proofs.Document.ReorderedValues
import PolyQuery.Proofs.Document.ReorderedFilters
import PolyQuery.Proofs.Document.MadeCollections
import PolyQuery.Proofs.Number.RoundedResults
import PolyQuery.Proofs.Document.IntegerUpdates
import PolyQuery.Proofs.Json.WrittenRecords
import PolyQuery.Proofs.Schema.WrittenSchemas
import PolyQuery.Proofs.Document.WrittenOperations
import PolyQuery.Proofs.Document.WrittenPaths
import PolyQuery.Proofs.Sql.NumberedOperands
