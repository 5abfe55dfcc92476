import Xl2tpd.State

/-!
# Reading and writing the daemon's structures

A program that follows a pointer to a freed structure stops with `Fault.freed`.
-/

namespace Xl2tpd

set_option autoImplicit false

def Daemon.tunnel? (state : Daemon) (tunnel : TunnelRef) : Option Tunnel :=
  Keyed.find Tunnel.ref tunnel state.tunnels

def Daemon.setTunnel (state : Daemon) (tunnel : TunnelRef) (change : Tunnel → Tunnel) : Daemon :=
  { state with tunnels := Keyed.update Tunnel.ref tunnel change state.tunnels }

def Tunnel.call? (tunnel : Tunnel) : CallId → Option Call
  | .self => some tunnel.self
  | .call ref => Keyed.find Call.ref ref tunnel.calls

def Tunnel.setCall (tunnel : Tunnel) (call : CallId) (change : Call → Call) : Tunnel :=
  match call with
  | .self => { tunnel with self := change tunnel.self }
  | .call ref => { tunnel with calls := Keyed.update Call.ref ref change tunnel.calls }

def Daemon.call? (state : Daemon) (tunnel : TunnelRef) (call : CallId) : Option Call :=
  (state.tunnel? tunnel).bind fun found => found.call? call

def Daemon.setCall (state : Daemon) (tunnel : TunnelRef) (call : CallId)
    (change : Call → Call) : Daemon :=
  state.setTunnel tunnel fun found => found.setCall call change

def Daemon.lns? (state : Daemon) (lns : LnsRef) : Option Lns :=
  Keyed.find Lns.ref lns (state.lnslist ++ state.deflns.toList)

def Daemon.setLns (state : Daemon) (lns : LnsRef) (change : Lns → Lns) : Daemon :=
  { state with
    lnslist := Keyed.update Lns.ref lns change state.lnslist
    deflns := state.deflns.map fun entry => if entry.ref = lns then change entry else entry }

def Daemon.lac? (state : Daemon) (lac : LacRef) : Option Lac :=
  Keyed.find Lac.ref lac state.laclist

def Daemon.setLac (state : Daemon) (lac : LacRef) (change : Lac → Lac) : Daemon :=
  { state with laclist := Keyed.update Lac.ref lac change state.laclist }

def Daemon.emit (state : Daemon) (observed : Obs) : Daemon :=
  { state with trace := state.trace ++ [observed] }

/-! ## Programs -/

def deref {Value : Type} (pointer : Daemon → Option Value) : Prog Value := fun state =>
  match pointer state with
  | some value => .ok value state
  | none => .error .freed state

/-- A pointer that the source uses without a test. -/
def nonNull {Value : Type} (site : NullSite) (pointer : Option Value) : Prog Value :=
  match pointer with
  | some value => pure value
  | none => throw (.null site)

def readTunnel (tunnel : TunnelRef) : Prog Tunnel := deref fun state => state.tunnel? tunnel

def readCall (tunnel : TunnelRef) (call : CallId) : Prog Call :=
  deref fun state => state.call? tunnel call

def readLns (lns : LnsRef) : Prog Lns := deref fun state => state.lns? lns

def readLac (lac : LacRef) : Prog Lac := deref fun state => state.lac? lac

/-- `if (lns) ... lns->field`: the entry of a pointer that may be null. -/
def readLnsIf : Option LnsRef → Prog (Option Lns)
  | none => pure none
  | some lns => do
      let entry ← readLns lns
      pure (some entry)

def readLacIf : Option LacRef → Prog (Option Lac)
  | none => pure none
  | some lac => do
      let entry ← readLac lac
      pure (some entry)

def writeTunnel (tunnel : TunnelRef) (change : Tunnel → Tunnel) : Prog Unit := do
  let _ ← readTunnel tunnel
  modify fun state => state.setTunnel tunnel change

def writeCall (tunnel : TunnelRef) (call : CallId) (change : Call → Call) : Prog Unit := do
  let _ ← readCall tunnel call
  modify fun state => state.setCall tunnel call change

def writeLns (lns : LnsRef) (change : Lns → Lns) : Prog Unit := do
  let _ ← readLns lns
  modify fun state => state.setLns lns change

def writeLac (lac : LacRef) (change : Lac → Lac) : Prog Unit := do
  let _ ← readLac lac
  modify fun state => state.setLac lac change

def emit (observed : Obs) : Prog Unit := modify fun state => state.emit observed

def whenever (condition : Bool) (action : Prog Unit) : Prog Unit :=
  if condition then action else pure ()

def allocate : Prog Nat := do
  let state ← get
  set { state with fresh := state.fresh + 1 }
  pure state.fresh

def getEntropy (env : Env) (count : Nat) : Prog Bytes := do
  let state ← get
  set { state with drawn := state.drawn + count }
  pure ((List.range count).map fun offset => env.entropy (state.drawn + offset))

end Xl2tpd
