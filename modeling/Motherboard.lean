import Motherboard.Bench.Call
import Motherboard.Bench.Image
import Motherboard.Bench.Script
import Motherboard.Bench.Setup
import Motherboard.Proofs.ByteLanes
import Motherboard.Proofs.Observer
import Motherboard.Proofs.BusRun
import Motherboard.Proofs.Decomposition
import Motherboard.Proofs.MemoryCells
import Motherboard.Proofs.FlatMemory
import Motherboard.Proofs.Replay
import Motherboard.Proofs.Decoders
import Motherboard.Proofs.EventHistory
import Motherboard.Proofs.SplitAdvance
import Motherboard.Proofs.FastForward
import Motherboard.Proofs.LookingAhead
import Motherboard.Proofs.EventFates
import Motherboard.Proofs.EventOrder
import Motherboard.Proofs.Punctuality
import Motherboard.Proofs.InstalledPage
import Motherboard.Proofs.PageLayout
import Motherboard.Proofs.PagePermissions
import Motherboard.Proofs.AddressSelection
import Motherboard.Proofs.PageRouting
import Motherboard.Proofs.BankCells
import Motherboard.Proofs.WriteProtection
import Motherboard.Proofs.SlotHistory
import Motherboard.Proofs.HandOver
import Motherboard.Proofs.WiredOr
import Motherboard.Proofs.FreshMachine
import Motherboard.Proofs.SilentAccess
import Motherboard.Proofs.Restart
import Motherboard.Proofs.Listeners
import Motherboard.Proofs.MappingCalls
import Motherboard.Proofs.RegisteredTargets
import Motherboard.Proofs.LastWriter
import Motherboard.Proofs.FaultReports
import Motherboard.Proofs.ValueWidth
import Motherboard.Proofs.WellFormedResults
import Motherboard.Proofs.RunReports
import Motherboard.Proofs.Carriage
import Motherboard.Proofs.Bookkeeping
import Motherboard.Proofs.FloatingReads
import Motherboard.Proofs.RoutingPolicy
import Motherboard.Proofs.TrustedPath
import Motherboard.Proofs.QuietAccess
import Motherboard.Proofs.TrapMatching
import Motherboard.Proofs.HostView
import Motherboard.Proofs.TransparentTraps
import Motherboard.Proofs.WrittenValues
import Motherboard.Proofs.IdleTime
import Motherboard.Proofs.ResetCalls
import Motherboard.Proofs.OwnedWindow
import Motherboard.Proofs.MachineReset
import Motherboard.Proofs.BankedWindow
import Motherboard.Proofs.WideCycles
import Motherboard.Proofs.SlotOverrides
import Motherboard.Proofs.PagePartition
import Motherboard.Proofs.MappedRange
import Motherboard.Proofs.LaneRoundTrip
