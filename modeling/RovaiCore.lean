import RovaiCore.ExecutionReader
import RovaiCore.RuntimeDiffReplay
import RovaiCore.FileChangeProjector
import RovaiCore.ExecutionTextRuns
import RovaiCore.TerminalAdmission
import RovaiCore.DeliveryAgreement
import RovaiCore.ActivityMerging
import RovaiCore.UsageAccounting
import RovaiCore.WebSessionRuns
import RovaiCore.MissionPreparation
import RovaiCore.MissionCleanupSafety
import RovaiCore.SingleChatFifo
import RovaiCore.AuthorityPreparation
import RovaiCore.ExecutionConsoleSettlement
import RovaiCore.RoundCompletion
import RovaiCore.ActionProgress
import RovaiCore.LatestReports
import RovaiCore.FileNetChange
import RovaiCore.AutomationSchedule
import RovaiCore.NotificationOutbox
import RovaiCore.InterruptedRunEffects
import RovaiCore.RedeliveryReceipts
import RovaiCore.BlobRecovery
import RovaiCore.BatchPrefix
import RovaiCore.ToolLeaseRuns
import RovaiCore.NativeBindingRuns
import RovaiCore.NetworkRecoveryRuns
import RovaiCore.ActiveWaitRuns
import RovaiCore.ThreadReferencePages
import RovaiCore.DisplayPathIdentity
import RovaiCore.MemoryDisclosure
import RovaiCore.MemoryRuns
import RovaiCore.FileEditRuns
import RovaiCore.ComposerRoundTrip
import RovaiCore.UsageCost
import RovaiCore.UsageGrowth
import RovaiCore.AutomationClock
import RovaiCore.LiveNarration
import RovaiCore.DraftQuotes
import RovaiCore.MissionChanges
import RovaiCore.MissionPatch
import RovaiCore.SnapshotSections
import RovaiCore.MemoryQuota
import RovaiCore.RuntimeLoss
import RovaiCore.CanonicalJson
