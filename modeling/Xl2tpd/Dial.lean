import Xl2tpd.Call

/-!
# Starting tunnels and calls from this side

Branch 0 of `control_finish` and the functions of `xl2tpd.c` that lead to it: a LAC entry, a
redial timer or a request opens a tunnel or places a call.
-/

namespace Xl2tpd

set_option autoImplicit false

def syncFraming : Nat := 1

def asyncFraming : Nat := 2

def defaultMinBps : Int := 10000

def defaultMaxBps : Int := 10000000

def udpListenPort : Int := 1701

/-! ## Messages -/

/-- The host name we report: the LAC entry's, else the LNS entry's, else our own. -/
def ourHostname (env : Env) (tunnel : Tunnel) : Prog Bytes := do
  let lac ← readLacIf tunnel.lac
  match lac.map Lac.hostname with
  | some (octet :: name) => pure (octet :: name)
  | _ => do
      let lns ← readLnsIf tunnel.lns
      match lns.map Lns.hostname with
      | some (octet :: name) => pure (octet :: name)
      | _ => pure env.hostname

/-- The AVPs that SCCRQ and SCCRP have in common, from the protocol version on. -/
def capabilityAvps (env : Env) (t : TunnelRef) : Prog Bytes := do
  let tunnel ← readTunnel t
  let hostname ← ourHostname env tunnel
  pure (addProtocolAvp ++ addFrameCapsAvp tunnel.ourfc ++ addBearerCapsAvp tunnel.ourbc ++
    addFirmwareAvp ++ addHostnameAvp hostname ++ addVendorAvp ++ addTunnelidAvp tunnel.ourtid ++
    if 0 ≤ tunnel.ourrws then addAvpRws tunnel.ourrws else [])

def drawChallenge (env : Env) (t : TunnelRef) : Prog Bytes := do
  let value ← mkChallenge env mdSigSize
  writeTunnel t fun tunnel =>
    { tunnel with chalThem := { tunnel.chalThem with challenge := some value } }
  emit (.challenge t value)
  pure value

/-- What the entry of a tunnel we open prescribes for it. -/
def adoptEntry (t : TunnelRef) : Prog Unit := do
  let tunnel ← readTunnel t
  match tunnel.lns with
  | some lns => do
      let entry ← readLns lns
      writeTunnel t fun tunnel =>
        { tunnel with
          ourrws := entry.tunRws
          hbit := entry.hbit
          rxspeed := entry.rxspeed
          txspeed := entry.txspeed }
  | none =>
      match tunnel.lac with
      | some lac => do
          let entry ← readLac lac
          writeTunnel t fun tunnel =>
            { tunnel with
              ourrws := entry.tunRws
              hbit := entry.hbit
              rxspeed := entry.rxspeed
              txspeed := entry.txspeed }
      | none => pure ()

/-- `(t->lac && t->lac->challenge) || (t->lns && t->lns->challenge)`. -/
def ownerChallenge (tunnel : Tunnel) : Prog Bool := do
  let lac ← readLacIf tunnel.lac
  if (lac.map Lac.challenge).getD false then pure true
  else do
    let lns ← readLnsIf tunnel.lns
    pure ((lns.map Lns.challenge).getD false)

/-- The challenge of an SCCRQ; the response cannot be told before the peer's name
is known. -/
def openChallenge (env : Env) (t : TunnelRef) : Prog Bytes := do
  let tunnel ← readTunnel t
  let challenge ← ownerChallenge tunnel
  if challenge then do
    let value ← drawChallenge env t
    writeTunnel t fun tunnel =>
      { tunnel with chalThem := { tunnel.chalThem with challenged := true } }
    pure (addChallengeAvp value)
  else pure []

/-- Branch 0 of `control_finish` on a tunnel: send an SCCRQ. -/
def initiateTunnel (env : Env) (t : TunnelRef) : Prog Unit := do
  adoptEntry t
  let vector ← addVector env t
  let capabilities ← capabilityAvps env t
  let challenge ← openChallenge env t
  -- The source sets the state before it builds the message, which does not read it.
  writeTunnel t fun tunnel => { tunnel with state := .SCCRQ }
  writeCall t .self fun call => { call with cnu := false }
  sendControl env t .self (addMessageTypeAvp .SCCRQ ++ vector ++ capabilities ++ challenge)

/-- The L bit our entry wants on the payload packets of a call we place. -/
def entryLbit (call : Call) : Prog Bool := do
  match call.lns with
  | some lns => do
      let entry ← readLns lns
      pure entry.lbit
  | none =>
      match call.lac with
      | some lac => do
          let entry ← readLac lac
          pure entry.lbit
      | none => pure call.lbit

/-- The L bit of an outgoing call: a LAC entry's setting is not used there. -/
def outgoingLbit (call : Call) : Prog Bool := do
  match call.lns with
  | some lns => do
      let entry ← readLns lns
      pure entry.lbit
  | none => pure call.lbit

/-- `t->fc & SYNC_FRAMING ? SYNC_FRAMING : ASYNC_FRAMING`, on an `int` that is -1
when the peer did not tell. -/
def preferredFrame (fc : Int) : Int := if fc % 2 = 1 then syncFraming else asyncFraming

/-- The serial number of a call we place. -/
def takeSerno (t : TunnelRef) (c : CallId) : Prog Nat := do
  let state ← get
  let serno := state.globalSerno
  writeCall t c fun call => { call with serno := serno }
  modify fun state => { state with globalSerno := (serno + 1) % 2 ^ 32 }
  pure serno

def sendIcrq (env : Env) (t : TunnelRef) (c : CallId) : Prog Unit := do
  let call ← readCall t c
  let lbit ← entryLbit call
  writeCall t c fun call => { call with state := .ICRQ, lbit := lbit }
  let vector ← addVector env t
  let serno ← takeSerno t c
  writeCall t c fun call => { call with cnu := false }
  sendControl env t c (addMessageTypeAvp .ICRQ ++ vector ++ addCallidAvp call.ourcid ++
    addSernoAvp serno ++ addBearerAvp 0)

def sendOcrq (env : Env) (t : TunnelRef) (c : CallId) : Prog Unit := do
  let tunnel ← readTunnel t
  let call ← readCall t c
  let lbit ← outgoingLbit call
  let frame := preferredFrame tunnel.fc
  writeCall t c fun call => { call with state := .OCRQ, lbit := lbit, frame := frame }
  let serno ← takeSerno t c
  writeCall t c fun call => { call with cnu := false }
  sendControl env t c (addMessageTypeAvp .OCRQ ++ addCallidAvp call.ourcid ++ addSernoAvp serno ++
    addMinbpsAvp defaultMinBps ++ addMaxbpsAvp defaultMaxBps ++ addBearerAvp 0 ++
    addFrameAvp frame ++ addNumberAvp call.dialNo)

/-- Branch 0 of `control_finish` on a call: send an ICRQ or an OCRQ. -/
def initiateCall (env : Env) (t : TunnelRef) (c : CallId) : Prog Unit := do
  let state ← get
  if state.switchIo then sendIcrq env t c else sendOcrq env t c

def initiate (env : Env) (t : TunnelRef) (c : CallId) : Prog Unit :=
  match c with
  | .self => initiateTunnel env t
  | .call ref => initiateCall env t (.call ref)

/-! ## Dialing -/

def recordLac (lac : Option LacRef) (change : Lac → Lac) : Prog Unit :=
  match lac with
  | none => pure ()
  | some lac => writeLac lac change

def recordLns (lns : Option LnsRef) (change : Lns → Lns) : Prog Unit :=
  match lns with
  | none => pure ()
  | some lns => writeLns lns change

/-- `l2tp_call`, true when a tunnel was started. A failed name lookup uses the LAC
entry untested; `htons` cuts the port. -/
def l2tpCall (env : Env) (host : Bytes) (port : Int) (lac : Option LacRef)
    (lns : Option LnsRef) : Prog Bool := do
  match env.gethostbyname host with
  | none => do
      let entry ← nonNull .callLac lac
      scheduleRedial entry
      pure false
  | some addr => do
      match ← getCall env 0 0 ⟨addr, (UInt16.ofInt port).toNat⟩ 0 0 with
      | none => pure false
      | some (t, c) => do
          writeTunnel t fun tunnel =>
            { tunnel with
              tid := 0
              lac := lac
              lns := lns
              self := { tunnel.self with lac := lac, lns := lns } }
          recordLac lac fun entry => { entry with t := some t }
          recordLns lns fun entry => { entry with t := some t }
          initiate env t c
          pure true

def magicLacTunnel (env : Env) (lac : LacRef) : Prog Unit := do
  let entry ← readLac lac
  let state ← get
  match entry.lns with
  | host :: _ => do
      let _ ← l2tpCall env host.hostname host.port (some lac) none
  | [] =>
      match (state.deflac.map Lac.lns).getD [] with
      | host :: _ => do
          let _ ← l2tpCall env host.hostname host.port (some lac) none
      | [] => pure ()

/-- `lac_call`, true when the tunnel was found. -/
def lacCall (env : Env) (tid : Int) (lac : Option LacRef) (lns : Option LnsRef) : Prog Bool := do
  let state ← get
  match state.tunnels.find? fun t => (t.ourtid.toNat : Int) = tid with
  | none => pure false
  | some tunnel => do
      let t := tunnel.ref
      let call ← newCall env (some tunnel)
      linkCall t { call with lac := lac, lns := lns, dialNo := state.dialNoTmp }
      recordLac lac fun entry => { entry with c := some (t, call.ref) }
      initiate env t (.call call.ref)
      pure true

def magicLacDial (env : Env) (lac : LacRef) : Prog Unit := do
  let entry ← readLac lac
  whenever entry.active do
    writeLac lac fun entry => { entry with rsched := none, rtries := entry.rtries + 1 }
    whenever (!(entry.rmax ≠ 0 && entry.rmax < entry.rtries + 1)) do
      match entry.t with
      | none => magicLacTunnel env lac
      | some t => do
          let tunnel ← readTunnel t
          let _ ← lacCall env tunnel.ourtid.toNat (some lac) none

end Xl2tpd
