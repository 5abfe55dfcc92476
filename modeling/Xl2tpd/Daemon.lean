import Xl2tpd.Config
import Xl2tpd.Packet

/-!
# The event loop

Everything that can happen to the daemon is an input: a datagram, a timer that is due, the sweep,
a request on the control pipe, the exit of a pppd, data from a pty, the passing of time. A run
takes inputs in any order.
-/

namespace Xl2tpd

set_option autoImplicit false

/-! ## Timers -/

def hello (env : Env) (t : TunnelRef) : Prog Unit := do
  sendControl env t .self (addMessageTypeAvp .Hello)
  scheduleHello t

def runEvent (env : Env) : Event → Prog Unit
  | .hello t => hello env t
  | .magicLacDial lac => magicLacDial env lac
  | .controlXmit buffer => controlXmit env buffer

/-- One round of `process_schedule`: the first entry, if it is due. -/
def fireEvent (env : Env) : Prog Unit := do
  let state ← get
  match state.events with
  | [] => pure ()
  | entry :: rest =>
      whenever (entry.tv.lesseq state.now) do
        modify fun state => { state with events := rest }
        runEvent env entry.event

/-! ## The sweep -/

/-- `needclose ^ closing`. -/
def Call.pending (call : Call) : Bool := call.needclose != call.closing

/-- The calls of a tunnel: the first pending one is closed, then the walk starts
again. -/
def sweepCalls (env : Env) (t : TunnelRef) : Nat → Prog Unit
  | 0 => throw .diverges
  | fuel + 1 => do
      let tunnel ← readTunnel t
      match tunnel.calls.find? Call.pending with
      | none => pure ()
      | some call => do
          callClose env t (.call call.ref)
          sweepCalls env t fuel

/-- A walk along the tunnels up to the first one that had to be closed; true if
there was one. -/
def sweepTunnels (env : Env) : List TunnelRef → Prog Bool
  | [] => pure false
  | t :: rest => do
      let tunnel ← readTunnel t
      sweepCalls env t (tunnel.calls.length + 1)
      let tunnel ← readTunnel t
      if tunnel.self.pending then do
        callClose env t .self
        pure true
      else sweepTunnels env rest

def sweep (env : Env) : Nat → Prog Unit
  | 0 => throw .diverges
  | fuel + 1 => do
      let state ← get
      let closed ← sweepTunnels env (state.tunnels.map Tunnel.ref)
      whenever closed (sweep env fuel)

/-- `build_fdset`. Every walk but the last takes one tunnel out of the pending
ones. -/
def buildFdset (env : Env) : Prog Unit := do
  let state ← get
  sweep env (state.tunnels.length + 1)

/-! ## Children and ptys -/

def Daemon.findCall (state : Daemon) (test : Call → Bool) : Option (TunnelRef × Call) :=
  state.tunnels.findSome? fun tunnel => (tunnel.calls.find? test).map fun call => (tunnel.ref, call)

/-- `child_handler` for one process. -/
def childHandler (env : Env) (pid : Int) : Prog Unit := do
  let state ← get
  match state.findCall fun call => call.pppd = pid with
  | none => pure ()
  | some (t, found) => do
      let c : CallId := .call found.ref
      writeCall t c fun call => { call with pppd := 0, needclose := true }
      whenever env.kernelSupport (callClose env t c)
      writeCall t c fun call => { call with fd := -1 }

/-- The header of `add_payload_hdr`, in front of a packet from the pty. -/
def payloadPacket (tunnel : Tunnel) (call : Call) (packet : Bytes) : Bytes :=
  let flow := call.fbit || call.ourfbit
  let ver : UInt16 := (if call.lbit then 0x4000 else 0) ||| (if flow then 0x0800 else 0) ||| 2
  let sequence :=
    if flow then netBytes call.dataSeqNum ++ netBytes call.dataRecSeqNum else []
  let ids := netBytes (UInt16.ofInt tunnel.tid) ++ netBytes (UInt16.ofInt call.cid)
  let length := minPayloadHdrLen + (if call.lbit then 2 else 0) + sequence.length + packet.length
  netBytes ver ++ (if call.lbit then netBytes (UInt16.ofNat length) else []) ++ ids ++ sequence ++
    packet

/-- `add_payload_hdr` on the buffer: where the outgoing packet starts, and its octets. -/
def addPayloadHdr (tunnel : Tunnel) (call : Call) (buf : PppBuf) : PppBuf where
  start := buf.start - payloadHdrSize + 2 + (if call.fbit || call.ourfbit then 0 else 4) +
    (if call.lbit then 0 else 2)
  octets := payloadPacket tunnel call buf.octets

def sendPayload (t : TunnelRef) (c : CallId) (packet : Bytes) : Prog Unit := do
  let tunnel ← readTunnel t
  let call ← readCall t c
  whenever (!(call.fd < 0)) do
    let octets := payloadPacket tunnel call packet
    writeCall t c fun call =>
      { call with
        dataSeqNum := call.dataSeqNum + 1
        txBytes := call.txBytes + octets.length
        txPkts := call.txPkts + 1 }
    emit (.payload t octets)

def failPty (t : TunnelRef) (c : CallId) (message : Bytes) : Prog Unit := do
  let call ← readCall t c
  whenever (!(call.fd < 0))
    (writeCall t c fun call => { call with errormsg := message, needclose := true })

/-! ## Requests -/

/-- `strcasecmp` is zero. -/
def sameName (first second : Bytes) : Bool := first.map lower = second.map lower
where
  lower (octet : UInt8) : UInt8 := if 65 ≤ octet ∧ octet ≤ 90 then octet + 32 else octet

def leadingNumber (digits : Bytes) : Nat :=
  (digits.takeWhile fun octet => 48 ≤ octet ∧ octet ≤ 57).foldl
    (fun value octet => 10 * value + (octet.toNat - 48)) 0

/-- The number in front of a text: `strtol`, which stops at the limits of a `long`, cut to an
`int`. -/
def atoi (value : Bytes) : Int :=
  let number : Int :=
    match value.dropWhile fun octet => octet = 32 || (9 ≤ octet && octet ≤ 13) with
    | 45 :: digits => -(leadingNumber digits : Int)
    | 43 :: digits => leadingNumber digits
    | digits => leadingNumber digits
  (max (-2 ^ 63) (min number (2 ^ 63 - 1))).bmod (2 ^ 32)

def findLac (state : Daemon) (name : Bytes) : Option Lac :=
  state.laclist.find? fun entry => sameName entry.entname name

def lacHangup (cid : Int) : Prog Unit := do
  let state ← get
  match state.findCall fun call => (call.ourcid.toNat : Int) = cid with
  | none => pure ()
  | some (t, found) => do
      writeCall t (.call found.ref) fun call => { call with errormsg := text "Goodbye!" }
      emit (.killPppd found.pppd)

def lacDisconnect (env : Env) (tid : Int) : Prog Unit := do
  let state ← get
  match state.tunnels.find? fun tunnel => (tunnel.ourtid.toNat : Int) = tid with
  | none => pure ()
  | some tunnel => do
      writeCall tunnel.ref .self fun call =>
        { call with needclose := true, errormsg := text "Goodbye!" }
      callClose env tunnel.ref .self

def controlHandleTunnel (env : Env) (host : Bytes) : Prog Unit := do
  let _ ← l2tpCall env host udpListenPort none none

/-- A call on a tunnel that is named by number. -/
def callByNumber (env : Env) (name : Bytes) : Prog Unit :=
  whenever (atoi name ≠ 0) do
    let _ ← lacCall env (atoi name) none none

def dialEntry (env : Env) (lac : LacRef) : Prog Unit := do
  let entry ← readLac lac
  whenever entry.c.isNone (magicLacDial env lac)

/-- The credentials of a connect request replace those of the entry. -/
def Lac.connect (entry : Lac) (authname password : Option Bytes) : Lac :=
  { entry with
    active := true
    rtries := 0
    authname := (authname.map fun value => value.take strlen).getD entry.authname
    password := (password.map fun value => value.take strlen).getD entry.password }

def controlHandleLacConnect (env : Env) (name : Bytes) (authname password : Option Bytes) :
    Prog Unit := do
  modify fun state => { state with switchIo := true }
  let state ← get
  match findLac state name with
  | some found => do
      writeLac found.ref fun entry => entry.connect authname password
      dialEntry env found.ref
  | none => callByNumber env name

def controlHandleLacOutgoingCall (env : Env) (name : Bytes) (number : Bytes) : Prog Unit := do
  modify fun state => { state with switchIo := false, dialNoTmp := number }
  let state ← get
  match findLac state name with
  | some found => do
      writeLac found.ref fun entry => { entry with active := true, rtries := 0 }
      dialEntry env found.ref
  | none => callByNumber env name

def controlHandleLacDisconnect (env : Env) (name : Bytes) : Prog Unit := do
  let state ← get
  match findLac state name with
  | some found => do
      writeLac found.ref fun entry => { entry with active := false, rtries := 0 }
      match found.t with
      | none => pure ()
      | some t => do
          let tunnel ← readTunnel t
          lacDisconnect env tunnel.ourtid.toNat
  | none => whenever (atoi name ≠ 0) (lacDisconnect env (atoi name))

/-- Dials a LAC entry that asks for it when it is read or added. -/
def autodialEntry (env : Env) (lac : LacRef) : Prog Unit := do
  let entry ← readLac lac
  whenever entry.autodial do
    writeLac lac fun entry => { entry with active := true }
    modify fun state => { state with switchIo := true }
    magicLacDial env lac

/-- The add request for a LAC. An entry that exists is left alone. -/
def controlHandleLacAddModify (env : Env) (name : Bytes) (settings : List Setting) :
    Prog Unit := do
  let state ← get
  match findLac state name with
  | some _ => pure ()
  | none => do
      let ref ← allocate
      let (entry, success) :=
        applySettings Setting.applyLac { ref := ref, entname := name.take strlen } settings
      whenever success do
        modify fun state => { state with laclist := entry :: state.laclist }
        autodialEntry env ref

/-- `lac->t->lac = NULL`, and the same for the tunnel's own call. -/
def dropTunnelLac (lac : LacRef) : Prog Unit := do
  let entry ← readLac lac
  match entry.t with
  | none => pure ()
  | some t =>
      writeTunnel t fun tunnel =>
        { tunnel with lac := none, self := { tunnel.self with lac := none } }

def detachTunnel (env : Env) (lac : LacRef) : Prog Unit := do
  let entry ← readLac lac
  match entry.t with
  | none => pure ()
  | some t => do
      let tunnel ← readTunnel t
      lacDisconnect env tunnel.ourtid.toNat
      dropTunnelLac lac

/-- `c->lac = NULL` for a call and all calls behind it in the list. -/
def clearLacFrom (ref : CallRef) (calls : List Call) : List Call :=
  (calls.takeWhile fun call => call.ref ≠ ref) ++
    (calls.dropWhile fun call => call.ref ≠ ref).map fun call => { call with lac := none }

def detachCalls (lac : LacRef) : Prog Unit := do
  let entry ← readLac lac
  match entry.c with
  | none => pure ()
  | some (t, ref) => do
      let _ ← readCall t (.call ref)
      writeTunnel t fun tunnel => { tunnel with calls := clearLacFrom ref tunnel.calls }

def controlHandleLacRemove (env : Env) (name : Bytes) : Prog Unit := do
  let state ← get
  match findLac state name with
  | none => pure ()
  | some found => do
      writeLac found.ref fun entry => { entry with active := false, rtries := 0 }
      detachTunnel env found.ref
      detachCalls found.ref
      modify fun state => { state with laclist := Keyed.remove Lac.ref found.ref state.laclist }

def findLnsByName (state : Daemon) (name : Bytes) : Option Lns :=
  if name = text "default" then state.deflns
  else state.lnslist.find? fun entry => sameName entry.entname name

/-- The entry an LNS request is about, made for it if there is none. -/
def lnsEntry (name : Bytes) : Prog LnsRef := do
  let state ← get
  match findLnsByName state name with
  | some entry => pure entry.ref
  | none => do
      let ref ← allocate
      modify fun state =>
        { state with lnslist := { ref := ref, entname := name.take strlen } :: state.lnslist }
      pure ref

/-- The add request for an LNS: an entry that exists is changed in place. -/
def controlHandleLnsAddModify (name : Bytes) (settings : List Setting) : Prog Unit := do
  let ref ← lnsEntry name
  writeLns ref fun entry => (applySettings Setting.applyLns entry settings).1

/-- Closes the calls of a tunnel; the next one is read from the call just closed. -/
def closeCalls (env : Env) (t : TunnelRef) (refs : List CallRef) : Prog Unit :=
  refs.forM fun ref => do
    callClose env t (.call ref)
    let _ ← readCall t (.call ref)

def closeLnsCalls (env : Env) (lns : LnsRef) (refs : List TunnelRef) : Prog Unit :=
  refs.forM fun t => do
    let tunnel ← readTunnel t
    whenever (tunnel.lns = some lns) (closeCalls env t (tunnel.calls.map Call.ref))

def controlHandleLnsRemove (env : Env) (name : Bytes) : Prog Unit := do
  let state ← get
  match state.lnslist.find? fun entry => sameName entry.entname name with
  | none => pure ()
  | some found => do
      closeLnsCalls env found.ref (state.tunnels.map Tunnel.ref)
      modify fun state => { state with lnslist := Keyed.remove Lns.ref found.ref state.lnslist }

/-- A request on the control pipe, its text taken apart. -/
inductive Request
  | tunnel (host : Bytes)
  | lacConnect (name : Bytes) (authname password : Option Bytes)
  | lacOutgoingCall (name number : Bytes)
  | lacHangup (cid : Int)
  | lacDisconnect (name : Bytes)
  | lacAddModify (name : Bytes) (settings : List Setting)
  | lacRemove (name : Bytes)
  | lnsAddModify (name : Bytes) (settings : List Setting)
  | lnsRemove (name : Bytes)

def doControl (env : Env) : Request → Prog Unit
  | .tunnel host => controlHandleTunnel env host
  | .lacConnect name authname password => controlHandleLacConnect env name authname password
  | .lacOutgoingCall name number => controlHandleLacOutgoingCall env name number
  | .lacHangup cid => lacHangup cid
  | .lacDisconnect name => controlHandleLacDisconnect env name
  | .lacAddModify name settings => controlHandleLacAddModify env name settings
  | .lacRemove name => controlHandleLacRemove env name
  | .lnsAddModify name settings => controlHandleLnsAddModify name settings
  | .lnsRemove name => controlHandleLnsRemove env name

/-! ## Runs -/

inductive Input
  | datagram (datagram : Datagram)
  | timer
  | sweep
  | request (request : Request)
  | childExit (pid : Int)
  | ptyPacket (tunnel : TunnelRef) (call : CallRef) (packet : Bytes)
  | ptyError (tunnel : TunnelRef) (call : CallRef) (message : Bytes)
  | tick (now : Timeval)

def exec (env : Env) : Input → Prog Unit
  | .datagram datagram => receive env datagram
  | .timer => fireEvent env
  | .sweep => buildFdset env
  | .request request => doControl env request
  | .childExit pid => childHandler env pid
  | .ptyPacket t ref packet => sendPayload t (.call ref) packet
  | .ptyError t ref message => failPty t (.call ref) message
  | .tick now =>
      modify fun state => if state.now.lesseq now then { state with now := now } else state

/-- The state before `init` dials anything: a configuration and nothing else. -/
structure Booted (state : Daemon) : Prop where
  tunnels : state.tunnels = []
  tunnelCount : state.tunnelCount = 0
  events : state.events = []
  uaddr : state.uaddr = fun _ => []
  switchIo : state.switchIo = false
  trace : state.trace = []
  lnsRefs : ((state.lnslist ++ state.deflns.toList).map Lns.ref).Nodup
  lacRefs : (state.laclist.map Lac.ref).Nodup
  lnsFresh : ∀ entry ∈ state.lnslist ++ state.deflns.toList,
    entry.ref < state.fresh ∧ entry.t = none
  lacFresh : ∀ entry ∈ state.laclist,
    entry.ref < state.fresh ∧ entry.t = none ∧ entry.c = none ∧ entry.rsched = none

/-- The end of `init`. -/
def init (env : Env) : Prog Unit := do
  let state ← get
  (state.laclist.map Lac.ref).forM (autodialEntry env)

/-- The states between the inputs of a run whose steps all meet a condition. -/
inductive Runs (env : Env) (condition : Daemon → Input → Prop) : Daemon → Prop
  | boot {start state : Daemon} (booted : Booted start) (ran : init env start = .ok () state) :
      Runs env condition state
  | step {before after : Daemon} {input : Input} (reached : Runs env condition before)
      (meets : condition before input) (ran : exec env input before = .ok () after) :
      Runs env condition after

def Reachable (env : Env) : Daemon → Prop := Runs env fun _ _ => True

end Xl2tpd
