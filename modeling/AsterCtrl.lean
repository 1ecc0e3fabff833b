import AsterCtrl.Spec.Can.AcknowledgedTaken
import AsterCtrl.Spec.Can.FastPathInvalid
import AsterCtrl.Spec.Can.FastPathOrder
import AsterCtrl.Spec.Can.HeartbeatNumbers
import AsterCtrl.Spec.Can.ReliableInvalid
import AsterCtrl.Spec.Can.ReliableRecovery
import AsterCtrl.Spec.Can.ReliableSenderHistory
import AsterCtrl.Spec.Can.RpcBackpressure
import AsterCtrl.Spec.Can.RpcClientCompletion
import AsterCtrl.Spec.Can.RpcRecovery
import AsterCtrl.Spec.Can.RpcRequestIntegrity
import AsterCtrl.Spec.Can.RpcServerSession
import AsterCtrl.Spec.Can.TimeSync
import AsterCtrl.Spec.Can.TimeTicks
import AsterCtrl.Spec.Can.TransportReset
import AsterCtrl.Spec.Can.TransportTimes
import AsterCtrl.Spec.Cli.EndpointNames
import AsterCtrl.Spec.Cli.FrameCounts
import AsterCtrl.Spec.Cli.LinkAgreement
import AsterCtrl.Spec.Cli.MessageSizes
import AsterCtrl.Spec.Cli.StartupOrder
import AsterCtrl.Spec.Cli.UsbRoutes
import AsterCtrl.Spec.Cli.Wiring
import AsterCtrl.Spec.Linux.ExecutorQueue
import AsterCtrl.Spec.Linux.Flattening
import AsterCtrl.Spec.Linux.SupervisorLifecycle
import AsterCtrl.Spec.LocalCalls
import AsterCtrl.Spec.NameResolution
import AsterCtrl.Spec.Proto.Utf8Validity
import AsterCtrl.Spec.Usb.BurstDetection
import AsterCtrl.Spec.Usb.CobsRoundTrip
import AsterCtrl.Spec.Usb.PacketChannel
import AsterCtrl.Spec.Usb.SharedBuffer
import AsterCtrl.Spec.Zephyr.ArenaRegions
import AsterCtrl.Spec.Zephyr.CanTransmit
import AsterCtrl.Spec.Zephyr.DueOrder
