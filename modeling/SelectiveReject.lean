import SelectiveReject.Lib.Machine
import SelectiveReject.Lib.Counter
import SelectiveReject.Lib.DirectMap
import SelectiveReject.Lib.Reassembly
import SelectiveReject.Lib.OnesComplement
import SelectiveReject.Lib.Rand48
import SelectiveReject.Lib.Decimal
import SelectiveReject.Posix
import SelectiveReject.Packet
import SelectiveReject.Window
import SelectiveReject.Buffer
import SelectiveReject.Rcopy
import SelectiveReject.Server
import SelectiveReject.Network
import SelectiveReject.Corruption
import SelectiveReject.Pdu
import SelectiveReject.FirstPacket
import SelectiveReject.RoundTrip
import SelectiveReject.Admission
import SelectiveReject.WindowInv
import SelectiveReject.RrOrder
import SelectiveReject.BufferInv
import SelectiveReject.BufferRefine
import SelectiveReject.RejectDiscipline
import SelectiveReject.EarlyEof
import SelectiveReject.ShortWrite
import SelectiveReject.SlotSafety
import SelectiveReject.Damage
import SelectiveReject.EofTries
import SelectiveReject.RcopyInv
import SelectiveReject.Terminate
import SelectiveReject.Peer
import SelectiveReject.NetworkInv
import SelectiveReject.Agreement
import SelectiveReject.EndToEnd
import SelectiveReject.Setup
import SelectiveReject.SequenceSpace
import SelectiveReject.PacketManager
import SelectiveReject.SettingsManager
import SelectiveReject.Transcript
import SelectiveReject.Injection
import SelectiveReject.Lib.Blocking
import SelectiveReject.Program
import SelectiveReject.Recovery
import SelectiveReject.CommandLine
import SelectiveReject.PollLib
import SelectiveReject.Fleet
