import Xl2tpd.Lib.Keyed
import Xl2tpd.Lib.Program
import Xl2tpd.Wire

/-!
# The daemon's data

Structures keep the source's field names. A pointer to a structure that the source frees is a
reference number that is never used again, so a pointer into freed memory no longer resolves.
Pointers that may be null are options. The call `self` of a tunnel stands for the control
connection.
-/

namespace Xl2tpd

set_option autoImplicit false

abbrev TunnelRef := Nat
abbrev CallRef := Nat
abbrev LnsRef := Nat
abbrev LacRef := Nat

/-- A `struct call *` inside a known tunnel. -/
inductive CallId
  | self
  | call (ref : CallRef)
  deriving DecidableEq, Repr

/-- Control message types; `zero` is the initial value of `msgtype`. -/
inductive MsgType
  | zero | SCCRQ | SCCRP | SCCCN | StopCCN | Hello | OCRQ | OCRP | OCCN | ICRQ | ICRP | ICCN
  | CDN | WEN | SLI
  | unassigned (number : Nat)
  deriving DecidableEq, Repr

def MsgType.toNat : MsgType → Nat
  | .zero => 0 | .SCCRQ => 1 | .SCCRP => 2 | .SCCCN => 3 | .StopCCN => 4 | .Hello => 6
  | .OCRQ => 7 | .OCRP => 8 | .OCCN => 9 | .ICRQ => 10 | .ICRP => 11 | .ICCN => 12
  | .CDN => 14 | .WEN => 15 | .SLI => 16 | .unassigned number => number

def MsgType.ofNat : Nat → MsgType
  | 0 => .zero | 1 => .SCCRQ | 2 => .SCCRP | 3 => .SCCCN | 4 => .StopCCN | 6 => .Hello
  | 7 => .OCRQ | 8 => .OCRP | 9 => .OCCN | 10 => .ICRQ | 11 => .ICRP | 12 => .ICCN
  | 14 => .CDN | 15 => .WEN | 16 => .SLI | number => .unassigned number

inductive TunnelState
  | idle | SCCRQ | SCCRP | SCCCN
  deriving DecidableEq, Repr

inductive CallState
  | idle | ICRQ | ICRP | ICCN | OCRQ
  deriving DecidableEq, Repr

structure Timeval where
  sec : Nat
  usec : Nat
  deriving DecidableEq, Repr

/-- `struct sockaddr_in`, without the family. -/
structure SockAddr where
  addr : Nat
  port : Nat
  deriving DecidableEq, Repr

/-- `struct challenge`, without the hash context. The vector points into the packet. -/
structure Challenge where
  ss : Nat := 0
  secret : Bytes := []
  challenge : Option Bytes := none
  response : Bytes := List.replicate 16 0
  reply : Bytes := List.replicate 16 0
  vector : Option Bytes := none
  challenged : Bool := false
  deriving DecidableEq, Repr

structure Call where
  ref : CallRef
  container : TunnelRef := 0
  lbit : Bool := false
  seqReqd : Bool := false
  txPkts : Nat := 0
  rxPkts : Nat := 0
  txBytes : Nat := 0
  rxBytes : Nat := 0
  state : CallState := .idle
  frame : Int := 0
  msgtype : Option MsgType := some .zero
  ourcid : UInt16 := 0
  cid : Int := 0
  qcid : Int := -1
  bearer : Int := -1
  serno : Nat := 0
  addr : Nat := 0
  txspeed : Int := 0
  rxspeed : Int := 0
  ppd : Int := 0
  physchan : Int := -1
  dialed : Bytes := []
  dialing : Bytes := []
  subaddy : Bytes := []
  needclose : Bool := false
  closing : Bool := false
  fd : Int := -1
  pppd : Int := 0
  result : Int := -1
  error : Int := -1
  fbit : Bool := false
  ourfbit : Bool := false
  cnu : Bool := false
  errormsg : Bytes := []
  dataSeqNum : UInt16 := 0
  dataRecSeqNum : UInt16 := 0
  closeSs : UInt16 := 0
  pLr : Int := -1
  lns : Option LnsRef := none
  lac : Option LacRef := none
  dialNo : Bytes := []

structure Tunnel where
  ref : TunnelRef
  calls : List Call := []
  fc : Int := -1
  ourfc : Nat := 3
  bc : Int := -1
  hbit : Bool := false
  ourbc : Nat := 0
  tid : Int := -1
  refme : Nat := 0
  refhim : Nat := 0
  ourtid : UInt16
  qtid : Int := -1
  firmware : Int := 0
  peer : SockAddr
  count : Int := 0
  state : TunnelState := .idle
  controlSeqNum : UInt16 := 0
  controlRecSeqNum : UInt16 := 0
  cLr : Nat := 0
  rws : Int := 0
  ourrws : Int := 4
  rxspeed : Int := 10000000
  txspeed : Int := 10000000
  self : Call
  lns : Option LnsRef := none
  lac : Option LacRef := none
  hostname : Bytes := []
  vendor : Bytes := []
  chalUs : Challenge := {}
  chalThem : Challenge := {}

/-- A control packet waiting to be acknowledged, with its header in host order. -/
structure Buffer where
  tunnel : TunnelRef
  header : ControlHdr
  body : Bytes
  peer : SockAddr
  retries : Nat := 0
  deriving DecidableEq, Repr

/-- A pending timer event: the function to run and its argument. -/
inductive Event
  | hello (tunnel : TunnelRef)
  | magicLacDial (lac : LacRef)
  | controlXmit (buffer : Buffer)
  deriving DecidableEq, Repr

structure Entry where
  id : Nat
  tv : Timeval
  event : Event
  deriving DecidableEq, Repr

/-- `struct iprange`, with the addresses in host order. -/
structure IpRange where
  start : Nat
  stop : Nat
  allow : Bool
  deriving DecidableEq, Repr

structure Host where
  hostname : Bytes
  port : Int
  deriving DecidableEq, Repr

/-- An LNS entry; the defaults are those of `new_lns`. -/
structure Lns where
  ref : LnsRef
  localaddr : Nat := 0
  exclusive : Bool := false
  tunRws : Int := 4
  callRws : Int := 4
  rxspeed : Int := 10000000
  txspeed : Int := 10000000
  hbit : Bool := false
  lbit : Bool := false
  challenge : Bool := false
  authpeer : Bool := false
  authself : Bool := true
  authname : Bytes := []
  peername : Bytes := []
  hostname : Bytes := []
  entname : Bytes := []
  lacs : List IpRange := []
  range : List IpRange := []
  localrange : List IpRange := []
  assignIp : Bool := true
  passwdauth : Bool := false
  papRequire : Bool := false
  chapRequire : Bool := false
  papRefuse : Bool := false
  chapRefuse : Bool := false
  debug : Bool := false
  passPeer : Bool := false
  pppoptfile : Bytes := []
  t : Option TunnelRef := none

/-- A LAC entry with the defaults of `new_lac`: `rsched` is the pending redial, `t` and `c` what was
dialed. -/
structure Lac where
  ref : LacRef
  lns : List Host := []
  rsched : Option Nat := none
  tunRws : Int := 4
  callRws : Int := 4
  rxspeed : Int := 0
  txspeed : Int := 0
  active : Bool := false
  hbit : Bool := false
  lbit : Bool := false
  challenge : Bool := false
  localaddr : Nat := 0
  remoteaddr : Nat := 0
  authname : Bytes := []
  password : Bytes := []
  peername : Bytes := []
  hostname : Bytes := []
  entname : Bytes := []
  authpeer : Bool := false
  authself : Bool := true
  papRequire : Bool := false
  chapRequire : Bool := false
  papRefuse : Bool := false
  chapRefuse : Bool := false
  autodial : Bool := false
  defaultroute : Bool := false
  redial : Bool := false
  rmax : Int := 0
  rtries : Int := 0
  rtimeout : Int := 30
  passPeer : Bool := false
  pppoptfile : Bytes := []
  debug : Bool := false
  t : Option TunnelRef := none
  c : Option (TunnelRef × CallRef) := none

/-- Where a pointer is used that may be null. -/
inductive NullSite
  | finishCallHead | finishTunnelLns | finishCallLns | finishCallLac
  | avpCallHead
  | callLac
  deriving DecidableEq, Repr

/-- A null pointer or freed memory is used, a loop leaves its buffer, or does not end. -/
inductive Fault
  | null (site : NullSite)
  | freed
  | overrun
  | diverges
  deriving DecidableEq, Repr

/-- What a run did, in order. -/
inductive Obs
  /-- `add_control_hdr` gave the message its number. -/
  | numbered (tunnel : TunnelRef) (ns : UInt16) (body : Bytes)
  /-- `udp_xmit` of a control packet. -/
  | xmit (tunnel : TunnelRef) (header : ControlHdr) (body : Bytes)
  /-- `udp_xmit` of a payload packet. -/
  | payload (tunnel : TunnelRef) (packet : Bytes)
  /-- `control_xmit` found the packet acknowledged and dropped it. -/
  | tossed (tunnel : TunnelRef) (ns : UInt16)
  /-- A message other than a ZLB passed `check_control`. -/
  | accepted (tunnel : TunnelRef) (body : Bytes)
  /-- `message_type_avp` ran on an AVP with the given M bit. -/
  | verdict (tunnel : TunnelRef) (call : CallId) (type : MsgType) (mandatory : Bool)
      (admitted : Bool)
  /-- `control_finish` entered the branch of a message type. -/
  | finish (tunnel : TunnelRef) (call : CallId) (type : MsgType)
  /-- A challenge was drawn for the peer. -/
  | challenge (tunnel : TunnelRef) (value : Bytes)
  /-- A tunnel entered `SCCCN`: the tunnel as it was then, and its entries. -/
  | established (tunnel : Tunnel) (lns : Option Lns) (lac : Option Lac)
  | connectPppol2tp (tunnel : TunnelRef)
  /-- `start_pppd` was called. -/
  | startPppd (tunnel : TunnelRef) (call : CallId) (options : List Bytes)
  | killPppd (pid : Int)
  /-- `write_packet` put a frame on the pty of a call. -/
  | writePacket (tunnel : TunnelRef) (call : CallId) (octets : Bytes)

/-- The daemon's globals. `fresh` numbers the heap objects, `drawn` and `spawned` count calls to the
entropy source and the system, `trace` is the history. -/
structure Daemon where
  tunnels : List Tunnel := []
  tunnelCount : Int := 0
  events : List Entry := []
  lnslist : List Lns := []
  deflns : Option Lns := none
  laclist : List Lac := []
  deflac : Option Lac := none
  uaddr : Nat → List Nat := fun _ => []
  globalSerno : Nat := 1
  switchIo : Bool := false
  dialNoTmp : Bytes := []
  now : Timeval := ⟨0, 0⟩
  fresh : Nat := 0
  drawn : Nat := 0
  spawned : Nat := 0
  trace : List Obs := []

/-- How the system answers `start_pppd`. -/
inductive Spawn
  | noDevice
  | noTty (fd : Int)
  | forked (fd : Int) (pid : Int)
  deriving DecidableEq, Repr

/-- What the daemon cannot change: configuration, files and the system. -/
structure Env where
  md5 : Bytes → Fin 16 → UInt8
  getSecret : Bytes → Bytes → Option Bytes
  hostname : Bytes
  gethostbyname : Bytes → Option Nat
  entropy : Nat → UInt8
  spawn : Nat → Spawn
  passwordPipe : Nat → Option Nat
  ptyWrite : Nat → Bool
  kernelSupport : Bool
  maxRetries : Nat
  accesscontrol : Bool
  ipsecsaref : Bool

abbrev Prog := EStateM Fault Daemon

end Xl2tpd
