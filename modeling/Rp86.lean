import Rp86.Bus.Equiv.ExecutionClock
import Rp86.Bus.Equiv.PinCodecs
import Rp86.Host.Equiv.Broker
import Rp86.Host.Equiv.Console
import Rp86.Host.Equiv.Exchange
import Rp86.Host.Equiv.MemoryAccess
import Rp86.Host.Equiv.ReadDirectory
import Rp86.Host.Equiv.ReadFile
import Rp86.Host.Equiv.Remote
import Rp86.Host.Equiv.Replies
import Rp86.Host.Equiv.RequestChannel
import Rp86.Host.Equiv.Sequences
import Rp86.Host.Equiv.Telemetry
import Rp86.Host.Equiv.WebApi
import Rp86.Host.Equiv.WorkloadFile
import Rp86.HostProtocol.Equiv.RecordSlot
import Rp86.Lab.Equiv.Contributions
import Rp86.Lab.Equiv.Machine
import Rp86.Lab.Equiv.Omf
import Rp86.Lab.Equiv.Symbols
import Rp86.Processor.Equiv.ContextSwitch
import Rp86.Processor.Equiv.ResetHandoff
import Rp86.Runtime.Equiv.CdcCommandParser
import Rp86.Runtime.Equiv.Contention
import Rp86.Runtime.Equiv.Evidence
import Rp86.Runtime.Equiv.FaultFlags
import Rp86.Runtime.Equiv.Fence
import Rp86.Runtime.Equiv.FinalResult
import Rp86.Runtime.Equiv.FreshResult
import Rp86.Runtime.Equiv.IdlePrepare
import Rp86.Runtime.Equiv.InactiveLane
import Rp86.Runtime.Equiv.LiveRound
import Rp86.Runtime.Equiv.NativeOutput
import Rp86.Runtime.Equiv.PreparedStream
import Rp86.Runtime.Equiv.Publication
import Rp86.Runtime.Equiv.Starvation
import Rp86.Runtime.Equiv.Stop
import Rp86.Runtime.Equiv.TickPhase
import Rp86.Runtime.Equiv.TransferIsolation
import Rp86.Runtime.Equiv.Upload
import Rp86.Storage.Equiv.CommitAtomic
import Rp86.Storage.Equiv.FlashDisk
import Rp86.Storage.Equiv.UploadName
