import CleanRoom.Analytics.AllowedFields
import CleanRoom.Analytics.CountedRuns
import CleanRoom.Analytics.DateRanges
import CleanRoom.Analytics.JobIds
import CleanRoom.Analytics.PodScheduling
import CleanRoom.Analytics.QuerySteps
import CleanRoom.Analytics.RuntimeTotals
import CleanRoom.Analytics.WrittenDatasets
import CleanRoom.ApiServerProxy.AnchoredPatterns
import CleanRoom.ApiServerProxy.EffectiveContainer
import CleanRoom.ApiServerProxy.RejectedPods
import CleanRoom.BlobFuse.CommandLine
import CleanRoom.BlobFuse.Reopen
import CleanRoom.BlobFuse.Restaging
import CleanRoom.BlobFuse.StoredSizes
import CleanRoom.CcfProvider.NodeNames
import CleanRoom.CcfProvider.NodeRemoval
import CleanRoom.CcfProvider.ReadonlyLedgers
import CleanRoom.Cose.Messages
import CleanRoom.Cvm.PcrSoundness
import CleanRoom.Filter.BodyFidelity
import CleanRoom.Frontend.StorageIdentities
import CleanRoom.Governance.ContractListing
import CleanRoom.Governance.CurrentVotes
import CleanRoom.Governance.EventTimestamps
import CleanRoom.Governance.LabelSelection
import CleanRoom.Governance.OperatorContainment
import CleanRoom.Governance.PolicyStore
import CleanRoom.Governance.SigningKeys
import CleanRoom.Recovery.JoinPolicyUpdates
import CleanRoom.RestApi.HttpClientManager
