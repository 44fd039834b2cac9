import DataAccess.Catalog.Display
import DataAccess.Catalog.Provider
import DataAccess.Context
import DataAccess.Execution.Scripted
import DataAccess.OpenFlags
import DataAccess.Polling
import DataAccess.Sample
import DataAccess.Streaming.Exchange
import DataAccess.Proofs.MarkerPlaces
import DataAccess.Proofs.ParameterBinding
import DataAccess.Proofs.QuoteScan
import DataAccess.Proofs.SealedRendering
import DataAccess.Proofs.ChannelTraffic
import DataAccess.Proofs.LeaseBalance
import DataAccess.Proofs.RowDelivery
import DataAccess.Proofs.TerminalAnswers
import DataAccess.Proofs.ErrorAnswers
import DataAccess.Proofs.StreamWindow
import DataAccess.Proofs.RowWindow
import DataAccess.Proofs.StoreConsistency
import DataAccess.Proofs.UpdateAtomicity
import DataAccess.Proofs.ProducedRows
import DataAccess.Proofs.LookupRules
import DataAccess.Proofs.TableRefinement
import DataAccess.Proofs.CacheCoherence
import DataAccess.Proofs.SharedRegistry
import DataAccess.Proofs.LookupInvariants
import DataAccess.Proofs.NameOrder
import DataAccess.Proofs.NamedSchemas
import DataAccess.Proofs.RefreshRace
import DataAccess.Proofs.LabelParts
import DataAccess.Proofs.LabelSearch
import DataAccess.Proofs.LabelRoundTrip
import DataAccess.Proofs.LabelSoundness
import DataAccess.Proofs.BoundParameters
import DataAccess.Proofs.ThreeValuedFilters
import DataAccess.Proofs.BuildHistory
import DataAccess.Proofs.OwnColumns
import DataAccess.Proofs.ConnectionCustody
import DataAccess.Proofs.ConnectionLedger
import DataAccess.Proofs.QueryConnections
import DataAccess.Proofs.ConnectionOwners
import DataAccess.Proofs.ActiveLeases
import DataAccess.Proofs.TableNames
import DataAccess.Proofs.SchemaSpellings
import DataAccess.Proofs.ValueOrder
import DataAccess.Proofs.RowOrder
import DataAccess.Proofs.StreamAnswers
import DataAccess.Proofs.OrderedRows
import DataAccess.Proofs.AliasedColumns
import DataAccess.Proofs.ColumnReferences
import DataAccess.Proofs.RowDeletion
import DataAccess.Proofs.TableStatements
import DataAccess.Proofs.LiteralReader
import DataAccess.Proofs.StoreRecords
import DataAccess.Proofs.EmptySelection
import DataAccess.Proofs.MembershipTests
import DataAccess.Proofs.ClauseAliases
import DataAccess.Proofs.TableAliases
import DataAccess.Proofs.DefaultSchema
import DataAccess.Proofs.CaseRules
import DataAccess.Proofs.QuotedLabels
import DataAccess.Proofs.PatternSegments
import DataAccess.Proofs.LeasePeak
import DataAccess.Proofs.DeletionErrors
import DataAccess.Proofs.ColumnSizes
