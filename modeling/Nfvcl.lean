import Nfvcl.KeyedList
import Nfvcl.Effects
import Nfvcl.Runs
import Nfvcl.Codec
import Nfvcl.PyValue
import Nfvcl.PyInt
import Nfvcl.NetworkModels
import Nfvcl.AddressText
import Nfvcl.VimModels
import Nfvcl.ClusterModels
import Nfvcl.TopologyModel
import Nfvcl.FiniteMap
import Nfvcl.TopologyRefinement
import Nfvcl.FreeSpans
import Nfvcl.Ipam
import Nfvcl.Topology
import Nfvcl.RangeReservation
import Nfvcl.VimUpdates
import Nfvcl.VimLists
import Nfvcl.TopologyAtomicity
import Nfvcl.TopologyEffects
import Nfvcl.TopologyItems
import Nfvcl.TopologyClients
import Nfvcl.TopologyIntegrity
import Nfvcl.TopologyStore
import Nfvcl.TopologyWorker
import Nfvcl.LowerNames
import Nfvcl.TopologyCodec
import Nfvcl.PduProvider
import Nfvcl.PduLocks
import Nfvcl.BlueprintWorker
import Nfvcl.WorkerCallbacks
import Nfvcl.BlueprintManager
import Nfvcl.LcmSteps
import Nfvcl.LcmClaims
import Nfvcl.WorkerOwnership
import Nfvcl.DestroyedBlueprints
import Nfvcl.BlueprintProtection
import Nfvcl.DeleteAll
import Nfvcl.LcmFrames
import Nfvcl.BlueprintLineage
import Nfvcl.LcmCalls
import Nfvcl.ChildBlueprints
import Nfvcl.DestroyRetry
import Nfvcl.Core5GModels
import Nfvcl.Generic5GDay2
import Nfvcl.Day2Transactions
import Nfvcl.Day2References
import Nfvcl.Generic5GEdge
import Nfvcl.EdgeAreas
import Nfvcl.EdgeUpdates
import Nfvcl.EdgeConfigs
import Nfvcl.EdgeRecovery
import Nfvcl.TopologyDeletion
import Nfvcl.Day2Uniqueness
import Nfvcl.Day2Undo
import Nfvcl.EdgeChildren
import Nfvcl.EdgeRecords
import Nfvcl.UpfRecords
import Nfvcl.RouterRoutes
import Nfvcl.UpfBlueprints
import Nfvcl.UpfSteps
import Nfvcl.UpfReports
import Nfvcl.ListUpdates
import Nfvcl.OaiCore
import Nfvcl.K8sBlueprint
import Nfvcl.WorkerNumbers
import Nfvcl.KeyedTrees
import Nfvcl.BlueprintSerialization
import Nfvcl.UeransimBlueprint
import Nfvcl.Retries
import Nfvcl.Free5gcValues
import Nfvcl.UeransimRegistry
import Nfvcl.Free5gcBuilders
import Nfvcl.Dicts
import Nfvcl.Free5gcSubscriber
import Nfvcl.Loops
import Nfvcl.SubscriberRecords
import Nfvcl.PlmnParts
import Nfvcl.AthonetSmf
import Nfvcl.AthonetUdr
import Nfvcl.SliceAreas
import Nfvcl.Numerals
import Nfvcl.GnbConfigs
import Nfvcl.EdgeEntries
import Nfvcl.OaiSubscribers
import Nfvcl.GnbUpfs
import Nfvcl.SliceIdText
import Nfvcl.OaiCoreValues
import Nfvcl.OaiSliceIds
import Nfvcl.Maintained
import Nfvcl.EdgeFrames
import Nfvcl.AthonetCore
import Nfvcl.CorePdu
import Nfvcl.AthonetArea
import Nfvcl.Free5gcCore
import Nfvcl.Free5gcRuns
import Nfvcl.Free5gcPlans
import Nfvcl.Free5gcAreas
import Nfvcl.Free5gcRebuild
import Nfvcl.PrometheusTargets
import Nfvcl.SdCoreValues
import Nfvcl.SdCoreRegistry
import Nfvcl.SdCoreDeployments
import Nfvcl.SdCoreRuns
import Nfvcl.Projections
import Nfvcl.K8sDeletion
import Nfvcl.K8sLoadBalancers
import Nfvcl.PoolNodes
import Nfvcl.RangeRelease
import Nfvcl.K8sDestroy
import Nfvcl.UeransimDeletion
import Nfvcl.Handlers
import Nfvcl.YamlValues
import Nfvcl.PlaybookActions
import Nfvcl.HorseCallbacks
import Nfvcl.DeletedWorkers
import Nfvcl.UpfConfigured
import Nfvcl.VimNames
import Nfvcl.SpanComplement
import Nfvcl.ConfiguredUpfs
import Nfvcl.AvailableRanges
import Nfvcl.SdCoreRebuild
import Nfvcl.SdCoreUpdates
import Nfvcl.VimSetUpdates
import Nfvcl.PoolsFollow
import Nfvcl.OverlappingRanges
import Nfvcl.VyosNat
import Nfvcl.HelmPlugins
import Nfvcl.MutatedLoops
import Nfvcl.ProxmoxNetworks
import Nfvcl.Traversals
import Nfvcl.Migration001
import Nfvcl.Doubles
import Nfvcl.PluginManifests
import Nfvcl.ManifestSelection
import Nfvcl.PerformanceManager
import Nfvcl.OperationRecords
import Nfvcl.PerformanceRuns
import Nfvcl.MeasuredMessages
import Nfvcl.OpenstackProvider
import Nfvcl.OpenstackTracking
import Nfvcl.OpenstackInterfaces
import Nfvcl.NestedDicts
import Nfvcl.ProxmoxVms
import Nfvcl.Day2Routes
import Nfvcl.K8sCharts
import Nfvcl.OaiUeDict
import Nfvcl.GnbLocks
import Nfvcl.TreeGrafts
import Nfvcl.TextPieces
import Nfvcl.BlueprintLoading
import Nfvcl.BlueprintPersistence
import Nfvcl.DictLoops
import Nfvcl.BlueprintReading
import Nfvcl.BlueprintRoundTrip
import Nfvcl.LoadedBlueprints
import Nfvcl.DurableRuns
import Nfvcl.Migrations
import Nfvcl.GroupedLists
import Nfvcl.OaiEditors
import Nfvcl.Playbooks
import Nfvcl.UeransimSims
import Nfvcl.UeransimVms
import Nfvcl.UeransimDrift
import Nfvcl.K8sManifests
