import SignetBase.Memory
import SignetBase.Run
import SignetBase.Simulation
import SignetBase.Slots
import SignetBase.Tape
import SignetBase.Common
import SignetBase.Cbc
import SignetBase.CbcLayers
import SignetBase.KeyedBlocks
import SignetBase.ShiftRegister
import SignetBase.Blocks
import SignetBase.RawHid
import SignetBase.Access
import SignetBase.Firmware.State
import SignetBase.Firmware.Protocol
import SignetBase.Firmware.Db
import SignetBase.Firmware.Scan
import SignetBase.Firmware.Store
import SignetBase.Firmware.Commands
import SignetBase.Firmware.Events
import SignetBase.Firmware.Control
import SignetBase.Firmware.Reading
import SignetBase.Firmware.Transitions
import SignetBase.Firmware.CmdData
import SignetBase.Firmware.Login
import SignetBase.Firmware.Outputs
import SignetBase.Firmware.Masked
import SignetBase.Firmware.ButtonAuth
import SignetBase.Firmware.ButtonRuns
import SignetBase.Firmware.FlashRequests
import SignetBase.Firmware.FlashOperations
import SignetBase.Firmware.FlashDriver
import SignetBase.Firmware.FlashIntegrity
import SignetBase.Firmware.FlashRuns
import SignetBase.Firmware.UpdatePlan
import SignetBase.Firmware.Repair
import SignetBase.Firmware.Recovery
import SignetBase.Firmware.PageWrite
import SignetBase.Firmware.Updates
import SignetBase.Firmware.Commits
import SignetBase.Firmware.PowerLoss
import SignetBase.Firmware.Rand
import SignetBase.Firmware.Touches
import SignetBase.Firmware.RecordTouches
import SignetBase.Firmware.PacketSafety
import SignetBase.Firmware.BlockCrc
import SignetBase.Firmware.EraseFlashPages
import SignetBase.Firmware.LoginKeys
import SignetBase.Firmware.LoginToken
import SignetBase.Firmware.CleartextTyping
import SignetBase.Firmware.RootPage
import SignetBase.Firmware.RootSteps
import SignetBase.Firmware.CleartextStore
import SignetBase.Firmware.CleartextPending
import SignetBase.Firmware.CleartextRuns
import SignetBase.FirmwareHc.MemoryLayout
import SignetBase.FirmwareHc.RootBlock
import SignetBase.FirmwareHc.RootSync
import SignetBase.FirmwareHc.BufferFifo
import SignetBase.FirmwareHc.Pipeline
import SignetBase.FirmwareHc.MassStorage
import SignetBase.FirmwareHc.VolumeIsolation
import SignetBase.FirmwareHc.Disk
import SignetBase.FirmwareHc.DiskTransfer
import SignetBase.FirmwareHc.DiskChunks
import SignetBase.FirmwareHc.DiskRuns
import SignetBase.FirmwareHc.DiskProgress
import SignetBase.FirmwareHc.Rand
import SignetBase.FirmwareHc.SignCount
import SignetBase.FirmwareHc.TxRing
import SignetBase.FirmwareHc.CtaphidWrite
import SignetBase.FirmwareHc.CtaphidReceive
import SignetBase.FirmwareHc.CtaphidSteps
import SignetBase.FirmwareHc.CtaphidRuns
import SignetBase.FirmwareHc.CtaphidAssembly
import SignetBase.FirmwareHc.CtaphidAnswers
import SignetBase.FirmwareHc.RawHidRx
import SignetBase.FirmwareHc.PacketReads
import SignetBase.FirmwareHc.WriteFlash
import SignetBase.FirmwareHc.Startup
import SignetBase.Host.EntryFormat
import SignetBase.FirmwareHc.UpdateUid
import SignetBase.FirmwareHc.RecordFits
import SignetBase.FirmwareHc.ScanBlocks
import SignetBase.FirmwareHc.RecordStore
import SignetBase.FirmwareHc.RecordMap
import SignetBase.FirmwareHc.RecordBlocks
import SignetBase.FirmwareHc.RecordSteps
import SignetBase.FirmwareHc.RecordPhases
import SignetBase.FirmwareHc.RecordPackets
import SignetBase.FirmwareHc.RecordEvents
import SignetBase.FirmwareHc.RecordProgress
import SignetBase.FirmwareHc.RecordRuns
import SignetBase.PartGeometry
import SignetBase.RecordIv
import SignetBase.RandBits
import SignetBase.Firmware.RandLevel
import SignetBase.FirmwareHc.RandLevel
import SignetBase.RandAnswers
import SignetBase.Host.Responses
import SignetBase.Host.Safety
import SignetBase.Host.Framing
import SignetBase.Host.MessageResidue
import SignetBase.Host.Delivery
import SignetBase.Host.DeliveryRuns
import SignetBase.Host.Transport
import SignetBase.Host.TransportRuns
import SignetBase.Host.TransportProgress
import SignetBase.Host.Typing
