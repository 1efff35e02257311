import OpenRsp.DuoSessionEvents
import OpenRsp.RemovalHistory
import OpenRsp.Daemon.OwnershipRuns
import OpenRsp.Daemon.SingleTuning
import OpenRsp.Daemon.DuoTuning
import OpenRsp.Daemon.Refusal
import OpenRsp.Daemon.WriteFailures
import OpenRsp.Daemon.Departures
import OpenRsp.Daemon.ReceiverHandle
import OpenRsp.Daemon.SwapOutcomes
import OpenRsp.Daemon.Advertising
import OpenRsp.Daemon.OpenedReceivers
import OpenRsp.Compat.CallbackContiguity
import OpenRsp.Compat.Overload
import OpenRsp.Daemon.WriteReports
import OpenRsp.Compat.ResponseOrder
import OpenRsp.Compat.DuoRequests
import OpenRsp.Framing
import OpenRsp.GainPlan
import OpenRsp.Compat.SyncSchedule
import OpenRsp.Compat.DecimatingFilters
import OpenRsp.Compat.Selection
import OpenRsp.Compat.GainChecks
import OpenRsp.Compat.DualUpdate
import OpenRsp.Compat.SwapAgreement
import OpenRsp.Driver.Synthesiser
import OpenRsp.Driver.Transfers
import OpenRsp.Driver.SampleStream
