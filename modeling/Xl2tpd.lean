import Xl2tpd.Accesses
import Xl2tpd.Acks
import Xl2tpd.Actions
import Xl2tpd.Addresses
import Xl2tpd.Admission
import Xl2tpd.Agreement
import Xl2tpd.Anchors
import Xl2tpd.Async
import Xl2tpd.Auth
import Xl2tpd.AvpBounds
import Xl2tpd.AvpGrammar
import Xl2tpd.AvpLoop
import Xl2tpd.Channel
import Xl2tpd.Chunks
import Xl2tpd.Client
import Xl2tpd.Closing
import Xl2tpd.ConfigText
import Xl2tpd.ControlPipe
import Xl2tpd.Counters
import Xl2tpd.Daemon
import Xl2tpd.Disconnect
import Xl2tpd.Expansion
import Xl2tpd.Faults
import Xl2tpd.Fcs
import Xl2tpd.Handshake
import Xl2tpd.Hiding
import Xl2tpd.Identity
import Xl2tpd.Isolation
import Xl2tpd.Ledger
import Xl2tpd.Ledger.Call
import Xl2tpd.Ledger.Control
import Xl2tpd.Ledger.Daemon
import Xl2tpd.Ledger.Entries
import Xl2tpd.Ledger.Origin
import Xl2tpd.Ledger.Packet
import Xl2tpd.Lib.Buckets
import Xl2tpd.Lib.CString
import Xl2tpd.Lib.Channel
import Xl2tpd.Lib.Crc
import Xl2tpd.Lib.History
import Xl2tpd.Messages
import Xl2tpd.Newcomers
import Xl2tpd.OptionText
import Xl2tpd.Owners
import Xl2tpd.Payload
import Xl2tpd.Pieces
import Xl2tpd.Pool
import Xl2tpd.Progress
import Xl2tpd.Pty
import Xl2tpd.RangeText
import Xl2tpd.Ranges
import Xl2tpd.Reconfiguration
import Xl2tpd.Retransmission
import Xl2tpd.RoundTrip
import Xl2tpd.Secrets
import Xl2tpd.Sequence
import Xl2tpd.Sessions
import Xl2tpd.Settling
import Xl2tpd.Sim.Avp
import Xl2tpd.Sim.Call
import Xl2tpd.Sim.Control
import Xl2tpd.Sim.Daemon
import Xl2tpd.Sim.Dial
import Xl2tpd.Sim.Packet
import Xl2tpd.Simulation
import Xl2tpd.Sweeps
import Xl2tpd.Timers
import Xl2tpd.View
