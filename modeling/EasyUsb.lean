import EasyUsb.FrameConsistency
import EasyUsb.Producers
import EasyUsb.SnapshotFreshness
import EasyUsb.ShutdownDrain
import EasyUsb.Redelivery
import EasyUsb.RegistryRoutes
import EasyUsb.RequestBound
import EasyUsb.ReaderFetch
import EasyUsb.Device
import EasyUsb.HeaderEquality
import EasyUsb.Safety
import EasyUsb.RegistryReach
import EasyUsb.RegistryCommutes
import EasyUsb.SessionRelease
import EasyUsb.TaskProgress
import EasyUsb.SnapshotReads
import EasyUsb.SessionReturns
import EasyUsb.BrokenStream
import EasyUsb.NarrowConnection
import EasyUsb.CommandSpecific
import EasyUsb.Foundation.Hangup
import EasyUsb.Foundation.Series
