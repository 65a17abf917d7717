import Lan865x.BitField
import Lan865x.Transition
import Lan865x.Memory
import Lan865x.Framing
import Lan865x.Wire
import Lan865x.ReceivePath
import Lan865x.ReceiveTransfer
import Lan865x.Reassembly
import Lan865x.ReceiveRun
import Lan865x.ReceiveBounds
import Lan865x.ReceiveLifeCycle
import Lan865x.OverflowRecovery
import Lan865x.StickyBits
import Lan865x.TransmitPath
import Lan865x.PtpThread
import Lan865x.StatusEvents
import Lan865x.TimestampClones
import Lan865x.SpiThread
import Lan865x.TransmitBuild
import Lan865x.Segmentation
import Lan865x.FlowControl
import Lan865x.TransmitQueue
import Lan865x.TimestampRuns
import Lan865x.CaptureRequest
import Lan865x.TransferLength
import Lan865x.Timeline
import Lan865x.SpiWait
import Lan865x.RegisterBus
import Lan865x.PtpClock
import Lan865x.Custody
import Lan865x.MacAddress
import Lan865x.Probe
import Lan865x.ProbeAddress
import Lan865x.ControlCommand
import Lan865x.ControlDevice
import Lan865x.ControlEcho
import Lan865x.SpiBus
import Lan865x.XmitOwnership
import Lan865x.FrameFlags
import Lan865x.SplitCounter
import Lan865x.RunningClock
import Lan865x.ClockStorage
import Lan865x.PtpFailures
import Lan865x.FrequencyAdjust
import Lan865x.MulticastFilter
import Lan865x.Alignment
import Lan865x.TimestampConfig
import Lan865x.FaultyLink
import Lan865x.MdioBus
import Lan865x.TransmitStatistics
import Lan865x.TxCursor
import Lan865x.ControlSharing
import Lan865x.TransmitAccounts
import Lan865x.ReceiveAccounts
import Lan865x.TransmitProgress
import Lan865x.Network
import Lan865x.ControlPlane
import Lan865x.NetDevice
import Lan865x.LossyBus
import Lan865x.ChipSetup
import Lan865x.Station
import Lan865x.StationProgress
import Lan865x.RegisterTool
import Lan865x.DeferredWork
import Lan865x.MulticastWork
