import Xl2tpd.Aaa
import Xl2tpd.AvpSend
import Xl2tpd.Scheduler

/-!
# Tunnels and calls: creation, transmission, closing

`control_xmit` closes a tunnel when a message runs out of retries, and closing a tunnel transmits
a StopCCN. Each is written over the other, and the knot is tied with a bound on the nesting.
-/

namespace Xl2tpd

set_option autoImplicit false

/-- The buffer `MAXSTRLEN` leaves room for, without the terminator. -/
def maxText : Nat := 119

/-- `vsnprintf` into an error text, and the newline at its end taken off. -/
def errorText (message : Bytes) : Bytes :=
  let stored := message.take maxText
  if stored.getLast? = some 10 then stored.dropLast else stored

def resultError : Int := 2

def resultClear : Int := 1

def vendorError : Int := 6

def errorInvalid : Int := 6

def errorNores : Int := 4

def errorReserved : Int := 3

def errorLength : Int := 2

def setError (t : TunnelRef) (c : CallId) (error : Int) (message : Bytes) : Prog Unit :=
  writeCall t c fun call =>
    { call with
      error := error
      result := resultError
      needclose := true
      errormsg := errorText message }

/-! ## Creation -/

/-- `new_call`; the call that becomes a tunnel's `self` gets no number of its own. -/
def newCall (env : Env) (parent : Option Tunnel) : Prog Call := do
  let ref ← allocate
  match parent with
  | none => pure { ref := ref }
  | some tunnel => do
      let entropy ← getEntropy env 2
      pure
        { ref := ref
          container := tunnel.ref
          ourcid := hostWord entropy 0
          lns := tunnel.lns
          lac := tunnel.lac }

def newTunnel (env : Env) (peer : SockAddr) (refme refhim : Nat) : Prog Tunnel := do
  let ref ← allocate
  let entropy ← getEntropy env 2
  let self ← newCall env none
  pure
    { ref := ref
      ourtid := hostWord entropy 0
      peer := peer
      refme := refme
      refhim := refhim
      self := { self with container := ref, ourfbit := true } }

def linkCall (t : TunnelRef) (call : Call) : Prog Unit :=
  writeTunnel t fun tunnel =>
    { tunnel with calls := call :: tunnel.calls, count := tunnel.count + 1 }

def getTunnel (state : Daemon) (tunnel : UInt16) : Option TunnelRef :=
  if tunnel = 0 then none
  else (state.tunnels.find? fun st => st.ourtid = tunnel).map Tunnel.ref

def findTunnel (env : Env) (state : Daemon) (tunnel : UInt16) (refhim : Nat) : Option Tunnel :=
  state.tunnels.find? fun st =>
    st.ourtid = tunnel &&
      (!env.ipsecsaref || st.refhim = refhim || refhim = 0 || st.refhim = 0)

def getCall (env : Env) (tunnel call : UInt16) (peer : SockAddr) (refme refhim : Nat) :
    Prog (Option (TunnelRef × CallId)) := do
  let state ← get
  if tunnel ≠ 0 then
    match findTunnel env state tunnel refhim with
    | none => pure none
    | some st =>
        if call ≠ 0 then
          pure ((st.calls.find? fun sc => sc.ourcid = call).map fun sc => (st.ref, .call sc.ref))
        else pure (some (st.ref, .self))
  else if call ≠ 0 then pure none
  else do
    let st ← newTunnel env peer refme refhim
    modify fun state =>
      { state with tunnels := st :: state.tunnels, tunnelCount := state.tunnelCount + 1 }
    pure (some (st.ref, .self))

/-! ## Transmission -/

def addControlHdr (t : TunnelRef) (c : CallId) (body : Bytes) : Prog Buffer := do
  let tunnel ← readTunnel t
  let call ← readCall t c
  writeTunnel t fun tunnel => { tunnel with controlSeqNum := tunnel.controlSeqNum + 1 }
  pure
    { tunnel := t
      header :=
        { ver := controlVer
          length := UInt16.ofNat (controlHdrSize + body.length)
          tid := UInt16.ofInt tunnel.tid
          cid := UInt16.ofInt call.cid
          Ns := tunnel.controlSeqNum
          Nr := tunnel.controlRecSeqNum }
      body := body
      peer := tunnel.peer }

def udpXmit (buffer : Buffer) : Prog Unit := do
  let _ ← readTunnel buffer.tunnel
  emit (.xmit buffer.tunnel buffer.header buffer.body)

def controlZlb (t : TunnelRef) (c : CallId) : Prog Unit := do
  let buffer ← addControlHdr t c []
  writeTunnel t fun tunnel => { tunnel with controlSeqNum := tunnel.controlSeqNum - 1 }
  udpXmit buffer

/-- The delay before the next try, doubling up to 2^31 seconds. -/
def backoff (retries : Nat) : Timeval := ⟨2 ^ min (retries - 1) 31, 0⟩

/-- `needclose = 0; closing = -1`: nothing is left to be told, destroy the object. -/
def Call.release (call : Call) : Call := { call with needclose := false, closing := true }

/-- Running out of retries: the peer is to be told, or else the tunnel is given up. -/
def Call.timeout (call : Call) : Call :=
  if call.needclose then call.release
  else { call with errormsg := text "Timeout", needclose := true }

def Buffer.tried (buffer : Buffer) : Buffer := { buffer with retries := buffer.retries + 1 }

def controlXmitWith (env : Env) (callClose : TunnelRef → CallId → Prog Unit) (buffer : Buffer) :
    Prog Unit := do
  let t := buffer.tunnel
  let tunnel ← readTunnel t
  if buffer.header.Ns.toNat < tunnel.cLr then emit (.tossed t buffer.header.Ns)
  else if env.maxRetries < buffer.tried.retries then do
    writeCall t .self Call.timeout
    callClose t .self
  else do
    let _ ← schedule (backoff buffer.tried.retries) (.controlXmit buffer.tried)
    udpXmit buffer.tried

def sendControlWith (env : Env) (callClose : TunnelRef → CallId → Prog Unit) (t : TunnelRef)
    (c : CallId) (body : Bytes) : Prog Unit := do
  let buffer ← addControlHdr t c body
  emit (.numbered t buffer.header.Ns body)
  controlXmitWith env callClose buffer

/-- The Random Vector AVP, sent where the tunnel allows hidden AVPs. -/
def addVector (env : Env) (t : TunnelRef) : Prog Bytes := do
  let tunnel ← readTunnel t
  if tunnel.hbit then do
    let vector ← mkChallenge env vectorSize
    writeTunnel t fun tunnel =>
      { tunnel with chalThem := { tunnel.chalThem with vector := some vector } }
    pure (addRandvectAvp vector)
  else pure []

/-! ## Destruction -/

/-- Schedules the redial of a LAC entry that asks for it and has none pending. -/
def scheduleRedial (lac : LacRef) : Prog Unit := do
  let entry ← readLac lac
  whenever (entry.redial && 0 < entry.rtimeout && entry.rsched.isNone && entry.active) do
    let id ← schedule ⟨entry.rtimeout.toNat, 0⟩ (.magicLacDial lac)
    writeLac lac fun entry => { entry with rsched := some id }

def releaseLocalAddr (lns : Option LnsRef) : Prog Unit :=
  match lns with
  | none => pure ()
  | some lns => do
      let entry ← readLns lns
      whenever (entry.localrange ≠ []) (unreserveAddr entry.localaddr)

/-- The part of `destroy_call` before the call is unlinked. -/
def releaseCall (call : Call) : Prog Unit := do
  whenever (call.addr ≠ 0) (unreserveAddr call.addr)
  releaseLocalAddr call.lns
  whenever (0 < call.pppd) (emit (.killPppd call.pppd))

/-- The part of `destroy_call` after the call is unlinked. -/
def forgetCall (call : Call) : Prog Unit :=
  match call.lac with
  | none => pure ()
  | some lac => do
      writeLac lac fun entry => { entry with c := none }
      scheduleRedial lac

def destroyCall (t : TunnelRef) (ref : CallRef) : Prog Unit := do
  let call ← readCall t (.call ref)
  releaseCall call
  writeTunnel t fun tunnel =>
    { tunnel with calls := Keyed.remove Call.ref ref tunnel.calls, count := tunnel.count - 1 }
  forgetCall call

def forgetTunnelLac (lac : Option LacRef) : Prog Unit :=
  match lac with
  | none => pure ()
  | some lac => do
      writeLac lac fun entry => { entry with t := none }
      scheduleRedial lac

def forgetTunnelLns (lns : Option LnsRef) : Prog Unit :=
  match lns with
  | none => pure ()
  | some lns => writeLns lns fun entry => { entry with t := none }

def unlinkTunnel (t : TunnelRef) : Prog Unit :=
  modify fun state =>
    { state with
      tunnels := Keyed.remove Tunnel.ref t state.tunnels
      tunnelCount := state.tunnelCount - 1 }

def destroyTunnel (t : TunnelRef) : Prog Unit := do
  let tunnel ← readTunnel t
  (tunnel.calls.map Call.ref).forM (destroyCall t)
  unlinkTunnel t
  forgetTunnelLac tunnel.lac
  forgetTunnelLns tunnel.lns
  releaseCall tunnel.self
  forgetCall tunnel.self

/-! ## Closing -/

/-- The timer entries `call_close` takes out of the queue with a tunnel. -/
def Event.belongs (t : TunnelRef) : Event → Bool
  | .hello tunnel => tunnel = t
  | .magicLacDial _ => false
  | .controlXmit buffer => buffer.tunnel = t

def descheduleTunnel (t : TunnelRef) : Prog Unit :=
  modify fun state => { state with events := state.events.filter fun entry => !entry.event.belongs t }

/-- The result code and error code a closing notice reports when none was set. -/
def Call.withResult (call : Call) : Call :=
  { call with
    result := if call.result < 0 then resultClear else call.result
    error := if call.error < 0 then 0 else call.error }

def stopCcnBody (env : Env) (t : TunnelRef) : Prog Bytes := do
  let vector ← addVector env t
  writeCall t .self Call.withResult
  let tunnel ← readTunnel t
  pure (addMessageTypeAvp .StopCCN ++ vector ++ addTunnelidAvp tunnel.ourtid ++
    addResultCodeAvp tunnel.self.result tunnel.self.error tunnel.self.errormsg)

def cdnBody (env : Env) (t : TunnelRef) (c : CallId) : Prog Bytes := do
  let vector ← addVector env t
  writeCall t c Call.withResult
  let call ← readCall t c
  pure (addMessageTypeAvp .CDN ++ vector ++ addResultCodeAvp call.result call.error call.errormsg ++
    addCallidAvp call.ourcid)

def closeTunnelWith (env : Env) (callClose : TunnelRef → CallId → Prog Unit) (t : TunnelRef) :
    Prog Unit := do
  let tunnel ← readTunnel t
  descheduleTunnel t
  if tunnel.self.closing then destroyTunnel t
  else do
    writeCall t .self fun call => { call with closeSs := tunnel.controlSeqNum }
    let body ← stopCcnBody env t
    sendControlWith env callClose t .self body
    let tunnel ← readTunnel t
    (tunnel.calls.map Call.ref).forM fun ref => do
      writeCall t (.call ref) Call.release
      callClose t (.call ref)
    writeCall t .self fun call => { call with closing := true }

def closeCallWith (env : Env) (callClose : TunnelRef → CallId → Prog Unit) (t : TunnelRef)
    (ref : CallRef) : Prog Unit := do
  let tunnel ← readTunnel t
  let call ← readCall t (.call ref)
  if call.closing then destroyCall t ref
  else do
    writeCall t (.call ref) fun call => { call with closeSs := tunnel.controlSeqNum }
    let body ← cdnBody env t (.call ref)
    sendControlWith env callClose t (.call ref) body
    writeCall t (.call ref) fun call => { call with closing := true }

/-- `call_close`, nested at most `depth` times. -/
def callCloseN (env : Env) : Nat → TunnelRef → CallId → Prog Unit
  | 0, _, _ => throw .diverges
  | depth + 1, t, .self => closeTunnelWith env (callCloseN env depth) t
  | depth + 1, t, .call ref => closeCallWith env (callCloseN env depth) t ref

/-- With no retries closing a call closes the tunnel, which destroys it; it nests no deeper. -/
def callClose (env : Env) : TunnelRef → CallId → Prog Unit := callCloseN env 3

def controlXmit (env : Env) : Buffer → Prog Unit := controlXmitWith env (callClose env)

def sendControl (env : Env) : TunnelRef → CallId → Bytes → Prog Unit :=
  sendControlWith env (callClose env)

end Xl2tpd
