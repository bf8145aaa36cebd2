import Hypeman.AutoStandby.ActiveInstances
import Hypeman.AutoStandby.ConnectionTable
import Hypeman.AutoStandby.Persistence
import Hypeman.AutoStandby.Truncation
import Hypeman.AutoStandby.Workers
import Hypeman.Builders.Exclusion
import Hypeman.Builders.Reconciliation
import Hypeman.Builds.BaseImages
import Hypeman.Builds.EventStream
import Hypeman.Builds.SourceHash
import Hypeman.EgressProxy.Ownership
import Hypeman.ForkVM.SparseCopy
import Hypeman.GuestInit.ShellQuote
import Hypeman.GuestMemory.Controller
import Hypeman.GuestMemory.KernelArgs
import Hypeman.Images.Promotion
import Hypeman.Images.ReadyWaits
import Hypeman.Ingresses.Manager
import Hypeman.Instances.AdmissionSync
import Hypeman.Instances.CompressionPlan
import Hypeman.Instances.ExitSentinel
import Hypeman.Instances.FailedCreation
import Hypeman.Instances.HealthStatus
import Hypeman.Instances.ManualStops
import Hypeman.Instances.PhaseHistory
import Hypeman.Instances.ProcessIdentity
import Hypeman.Instances.RateLimits
import Hypeman.Instances.RequestTotals
import Hypeman.Instances.RestartAttempts
import Hypeman.Instances.RestoreCleanup
import Hypeman.Instances.SnapshotMemory
import Hypeman.Instances.SnapshotReplacement
import Hypeman.Instances.SnapshotRetention
import Hypeman.Instances.SnapshotSchedules
import Hypeman.Instances.VolumeDevices
import Hypeman.Network.AddressChoice
import Hypeman.Queue.Keyed
import Hypeman.Resources.GpuSlots
import Hypeman.UffdGraduate.Controller
import Hypeman.UffdPager.Paths
import Hypeman.UffdPager.Residency
import Hypeman.UffdPager.Retry
import Hypeman.Volumes.Locks
import Hypeman.Volumes.RunningTotal
