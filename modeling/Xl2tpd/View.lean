import Mathlib.Data.Multiset.Filter
import Xl2tpd.Call

/-!
# The abstract daemon

What the invariants of the protocol are about: of a tunnel its state, owners, authentication and
sequence numbers, of a call its state, owners and closing flags, the waiting control packets, the
terms of the entries, and the history. An `Action` is everything the program can do to this view
at once.
-/

namespace Xl2tpd

set_option autoImplicit false

structure CallCore where
  ref : CallRef
  state : CallState
  lns : Option LnsRef
  lac : Option LacRef
  msgtype : Option MsgType
  needclose : Bool
  closing : Bool
  closeSs : UInt16

structure TunnelCore where
  ref : TunnelRef
  state : TunnelState
  lns : Option LnsRef
  lac : Option LacRef
  hostname : Bytes
  challenge : Option Bytes
  response : Bytes
  challenged : Bool
  controlSeqNum : UInt16
  controlRecSeqNum : UInt16
  cLr : Nat
  self : CallCore
  calls : List CallCore

/-- What an entry says about authentication. -/
structure Terms where
  challenge : Bool
  hostname : Bytes
  peername : Bytes

structure View where
  tunnels : List TunnelCore
  buffers : Multiset Buffer
  lns : LnsRef → Option Terms
  lac : LacRef → Option Terms
  trace : List Obs
  fresh : Nat

/-! ## The view of a state -/

def Call.core (call : Call) : CallCore :=
  ⟨call.ref, call.state, call.lns, call.lac, call.msgtype, call.needclose, call.closing,
    call.closeSs⟩

def Call.marks (call : Call) : Bool × Bool × CallState := (call.needclose, call.closing, call.state)

def Tunnel.core (tunnel : Tunnel) : TunnelCore :=
  { ref := tunnel.ref
    state := tunnel.state
    lns := tunnel.lns
    lac := tunnel.lac
    hostname := tunnel.hostname
    challenge := tunnel.chalThem.challenge
    response := tunnel.chalThem.response
    challenged := tunnel.chalThem.challenged
    controlSeqNum := tunnel.controlSeqNum
    controlRecSeqNum := tunnel.controlRecSeqNum
    cLr := tunnel.cLr
    self := tunnel.self.core
    calls := tunnel.calls.map Call.core }

def Lns.terms (entry : Lns) : Terms := ⟨entry.challenge, entry.hostname, entry.peername⟩

def Lac.terms (entry : Lac) : Terms := ⟨entry.challenge, entry.hostname, entry.peername⟩

def Event.buffer? : Event → Option Buffer
  | .controlXmit buffer => some buffer
  | _ => none

def waiting (entries : List Entry) : Multiset Buffer :=
  (entries.filterMap fun entry => entry.event.buffer? : List Buffer)

def Daemon.view (state : Daemon) : View where
  tunnels := state.tunnels.map Tunnel.core
  buffers := waiting state.events
  lns := fun ref => (state.lns? ref).map Lns.terms
  lac := fun ref => (state.lac? ref).map Lac.terms
  trace := state.trace
  fresh := state.fresh

/-! ## Reading and writing a view -/

def TunnelCore.call? (core : TunnelCore) : CallId → Option CallCore
  | .self => some core.self
  | .call ref => Keyed.find CallCore.ref ref core.calls

def TunnelCore.setCall (core : TunnelCore) (call : CallId) (change : CallCore → CallCore) :
    TunnelCore :=
  match call with
  | .self => { core with self := change core.self }
  | .call ref => { core with calls := Keyed.update CallCore.ref ref change core.calls }

def View.tunnel? (view : View) (t : TunnelRef) : Option TunnelCore :=
  Keyed.find TunnelCore.ref t view.tunnels

def View.setTunnel (view : View) (t : TunnelRef) (change : TunnelCore → TunnelCore) : View :=
  { view with tunnels := Keyed.update TunnelCore.ref t change view.tunnels }

def View.log (view : View) (notes : List Obs) : View := { view with trace := view.trace ++ notes }

/-! ## Actions -/

inductive CallMove
  | mark
  | release
  /-- A message ran out of retries. -/
  | timeout
  | close
  | closeSs (ns : UInt16)
  | msgtype (type : Option MsgType)
  | enter (state : CallState)
  deriving DecidableEq

def CallMove.apply : CallMove → CallCore → CallCore
  | .mark, core => { core with needclose := true }
  | .release, core => { core with needclose := false, closing := true }
  | .timeout, core =>
      if core.needclose then { core with needclose := false, closing := true }
      else { core with needclose := true }
  | .close, core => { core with closing := true }
  | .closeSs ns, core => { core with closeSs := ns }
  | .msgtype type, core => { core with msgtype := type }
  | .enter state, core => { core with state := state }

inductive Move
  | hostname (name : Bytes)
  /-- The owners of a tunnel we open. -/
  | adopt (lns : Option LnsRef) (lac : Option LacRef)
  /-- The LNS entry for a peer that opens a tunnel. -/
  | choose (lns : Option LnsRef)
  | request
  | answer
  | challenged
  /-- The response computed when the peer's own is already there. -/
  | verify (response : Bytes)
  /-- The response computed before the peer is asked. -/
  | expect (response : Bytes)
  /-- A ZLB on the tunnel or on one of its calls. -/
  | acked (call : CallId) (nr : UInt16)
  /-- A packet that is not delivered and moves the counter all the same. -/
  | miscount (nr : UInt16)
  | addCall (call : CallCore)
  | dropCall (ref : CallRef)
  | detach (ref : CallRef)
  | disown
  | call (call : CallId) (move : CallMove)

/-- A ZLB that acknowledges the closing notice of a call, as the source tests it. -/
def CallCore.acked (core : CallCore) (cLr : Nat) : CallCore :=
  { core with needclose := core.needclose && !(core.closing && core.closeSs.toNat ≤ cLr) }

def detached (ref : CallRef) (calls : List CallCore) : List CallCore :=
  (calls.takeWhile fun call => call.ref ≠ ref) ++
    (calls.dropWhile fun call => call.ref ≠ ref).map fun call => { call with lac := none }

def Move.apply : Move → TunnelCore → TunnelCore
  | .hostname name, core => { core with hostname := name }
  | .adopt lns lac, core =>
      { core with lns := lns, lac := lac, self := { core.self with lns := lns, lac := lac } }
  | .choose lns, core => { core with lns := lns }
  | .request, core => { core with state := .SCCRQ }
  | .answer, core => { core with state := .SCCRP }
  | .challenged, core => { core with challenged := true }
  | .verify response, core => { core with response := response, challenged := true }
  | .expect response, core => { core with response := response, challenged := true }
  | .acked c nr, core =>
      { core with cLr := nr.toNat }.setCall c fun found => found.acked nr.toNat
  | .miscount nr, core =>
      { core with controlRecSeqNum := core.controlRecSeqNum + 1, cLr := nr.toNat }
  | .addCall added, core => { core with calls := added :: core.calls }
  | .dropCall ref, core => { core with calls := Keyed.remove CallCore.ref ref core.calls }
  | .detach ref, core => { core with calls := detached ref core.calls }
  | .disown, core => { core with lac := none, self := { core.self with lac := none } }
  | .call c change, core => core.setCall c change.apply

/-- What becomes of a packet that `control_xmit` looks at. -/
inductive Fate
  | queued | tossed | dropped
  deriving DecidableEq

inductive Action
  | link (ref selfRef : Nat)
  | unlink (t : TunnelRef)
  | move (t : TunnelRef) (move : Move)
  /-- A challenge for the peer, in our SCCRQ or in our answer to the peer's. -/
  | draw (t : TunnelRef) (value : Bytes) (answering : Bool)
  | establish (tunnel : Tunnel) (lns : Option Lns) (lac : Option Lac)
  | accept (t : TunnelRef) (header : ControlHdr) (body : Bytes)
  | zlb (t : TunnelRef) (header : ControlHdr)
  /-- A message numbered and given to `control_xmit` for the first time. -/
  | send (buffer : Buffer) (fate : Fate)
  /-- The timer of a waiting packet, which is taken out of the queue. -/
  | resend (buffer : Buffer) (fate : Fate)
  /-- The timer of a packet whose tunnel is gone. -/
  | lose (buffer : Buffer)
  | deschedule (t : TunnelRef)
  | addLns (terms : Terms)
  | editLns (lns : LnsRef) (terms : Option Terms)
  | addLac (terms : Terms)
  | removeLac (lac : LacRef)
  /-- The verdict on a message type, or the branch of `control_finish` entered. -/
  | note (observed : Obs)

def Fate.apply (buffer : Buffer) (view : View) : Fate → View
  | .queued =>
      { view with buffers := buffer ::ₘ view.buffers }.log
        [.xmit buffer.tunnel buffer.header buffer.body]
  | .tossed => view.log [.tossed buffer.tunnel buffer.header.Ns]
  | .dropped => view

def CallCore.blank (ref : CallRef) : CallCore :=
  ⟨ref, .idle, none, none, some .zero, false, false, 0⟩

def TunnelCore.blank (ref selfRef : Nat) : TunnelCore where
  ref := ref
  state := .idle
  lns := none
  lac := none
  hostname := []
  challenge := none
  response := List.replicate 16 0
  challenged := false
  controlSeqNum := 0
  controlRecSeqNum := 0
  cLr := 0
  self := CallCore.blank selfRef
  calls := []

def Action.apply (view : View) : Action → View
  | .link ref selfRef =>
      { view with tunnels := TunnelCore.blank ref selfRef :: view.tunnels, fresh := ref + 2 }
  | .unlink t => { view with tunnels := Keyed.remove TunnelCore.ref t view.tunnels }
  | .move t change => view.setTunnel t change.apply
  | .draw t value _ =>
      (view.setTunnel t fun core => { core with challenge := some value }).log [.challenge t value]
  | .establish tunnel lns lac =>
      (view.setTunnel tunnel.ref fun core => { core with state := .SCCCN }).log
        [.established tunnel lns lac]
  | .accept t header body =>
      (view.setTunnel t (Move.miscount header.Nr).apply).log [.accepted t body]
  | .zlb t header => view.log [.xmit t header []]
  | .send buffer fate =>
      fate.apply buffer
        ((view.setTunnel buffer.tunnel fun core =>
          { core with controlSeqNum := core.controlSeqNum + 1 }).log
          [.numbered buffer.tunnel buffer.header.Ns buffer.body])
  | .resend buffer fate =>
      fate.apply buffer.tried { view with buffers := view.buffers.erase buffer }
  | .lose buffer => { view with buffers := view.buffers.erase buffer }
  | .deschedule t => { view with buffers := view.buffers.filter fun buffer => buffer.tunnel ≠ t }
  | .addLns terms =>
      { view with lns := Function.update view.lns view.fresh (some terms), fresh := view.fresh + 1 }
  | .editLns lns terms => { view with lns := Function.update view.lns lns terms }
  | .addLac terms =>
      { view with lac := Function.update view.lac view.fresh (some terms), fresh := view.fresh + 1 }
  | .removeLac lac => { view with lac := Function.update view.lac lac none }
  | .note observed => view.log [observed]

end Xl2tpd
