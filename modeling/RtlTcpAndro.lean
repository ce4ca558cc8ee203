import RtlTcpAndro.Interleaving.Places
import RtlTcpAndro.SdrTcp.ClientShutdown
import RtlTcpAndro.SdrTcp.ListenerLife
import RtlTcpAndro.SdrTcp.PoolStages
import RtlTcpAndro.SdrTcp.PoolCapacity
import RtlTcpAndro.SdrTcp.BufferCapacity
import RtlTcpAndro.SdrTcp.Queue
import RtlTcpAndro.SdrTcp.Resources
import RtlTcpAndro.SdrTcp.StopRequests
import RtlTcpAndro.SdrTcp.StreamIntegrity
import RtlTcpAndro.HackRf.GainCommands
import RtlTcpAndro.HackRf.ReceivedSamples
import RtlTcpAndro.HackRf.Closing
import RtlTcpAndro.HackRf.DeviceSettings
import RtlTcpAndro.RtlSdrDevice.Cancellation
import RtlTcpAndro.RtlSdrDevice.Teardown
import RtlTcpAndro.RtlSdrDevice.StartupValues
import RtlTcpAndro.RtlSdrDevice.Transfers
import RtlTcpAndro.RtlSdrDevice.TransferRelease
import RtlTcpAndro.RtlSdrDevice.ZeroIf
import RtlTcpAndro.RtlSdrDevice.Crystals
import RtlTcpAndro.RtlSdrDevice.SampleRates
import RtlTcpAndro.RtlSdrDevice.FreqCorrection
import RtlTcpAndro.RtlSdrDevice.AllOrNothing
import RtlTcpAndro.RtlSdrDevice.TunerGains
import RtlTcpAndro.RtlSdrDevice.E4000Settings
import RtlTcpAndro.RtlSdrDevice.RemoteE4000
import RtlTcpAndro.RtlSdrDevice.Eeprom
import RtlTcpAndro.RtlSdrDevice.FirFilter
import RtlTcpAndro.RtlSdr.Recorder
import RtlTcpAndro.RtlSdr.DeviceSearch
import RtlTcpAndro.Tuners.E4k
import RtlTcpAndro.Tuners.E4kPll
import RtlTcpAndro.Tuners.E4kTuning
import RtlTcpAndro.Tuners.Fc001xLoops
import RtlTcpAndro.Tuners.Fc2580
import RtlTcpAndro.Tuners.R82xxPll
import RtlTcpAndro.Tuners.R82xxSdm
import RtlTcpAndro.Tuners.R82xxShadow
import RtlTcpAndro.Tuners.R82xxInputs
import RtlTcpAndro.Tuners.R82xxBandwidth
import RtlTcpAndro.Tuners.R82xxGain
import RtlTcpAndro.Tuners.R82xxUpconversion
import RtlTcpAndro.BinaryRunnerService.OpenRequests
import RtlTcpAndro.BinaryRunnerService.HandledEvents
import RtlTcpAndro.SdrDriverTools.SdrDevice
import RtlTcpAndro.SdrDriverTools.UsbPermissionObtainer
import RtlTcpAndro.SdrDriverTools.Log
import RtlTcpAndro.SdrDriverTools.ArgumentComposition
import RtlTcpAndro.SdrDriverTools.QuotedValues
import RtlTcpAndro.SdrDriverTools.StartupOptions
