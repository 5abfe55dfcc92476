import Xl2tpd.Avp
import Xl2tpd.Dial

/-!
# The state machine

`control_finish`, a definition for each branch. A branch returns true where the
source returns 0.
-/

namespace Xl2tpd

set_option autoImplicit false

/-! ## pppd -/

def ipaddy (addr : Nat) : Bytes :=
  decimal (addr / 2 ^ 24 % 256 : Nat) ++ text "." ++ decimal (addr / 2 ^ 16 % 256 : Nat) ++
    text "." ++ decimal (addr / 2 ^ 8 % 256 : Nat) ++ text "." ++ decimal (addr % 256 : Nat)

/-- `add_opt`: an option is cut to the size of its array. -/
def addOpt (option : Bytes) : List Bytes := [option.take maxText]

def optionalIp (addr : Nat) : Bytes := if addr ≠ 0 then ipaddy addr else []

/-- The options common to every entry: which authentication pppd may use. -/
def authOptions (authself papRefuse chapRefuse : Bool) : List Bytes :=
  if authself then
    (if papRefuse then addOpt (text "refuse-pap") else []) ++
      (if chapRefuse then addOpt (text "refuse-chap") else [])
  else addOpt (text "refuse-pap") ++ addOpt (text "refuse-chap")

def fileOptions (pppoptfile : Bytes) : List Bytes :=
  if pppoptfile ≠ [] then addOpt (text "file") ++ addOpt pppoptfile else []

def nameOptions (authname : Bytes) (debug : Bool) : List Bytes :=
  (if authname ≠ [] then addOpt (text "name") ++ addOpt authname else []) ++
    if debug then addOpt (text "debug") else []

def peerOptions (passPeer : Bool) (peer : SockAddr) : List Bytes :=
  if passPeer then addOpt (text "ipparam") ++ addOpt (ipaddy peer.addr) else []

def lacOptions (entry : Lac) : List Bytes :=
  (if entry.defaultroute then addOpt (text "defaultroute") else []) ++
    addOpt (optionalIp entry.localaddr ++ text ":" ++ optionalIp entry.remoteaddr) ++
    authOptions entry.authself entry.papRefuse entry.chapRefuse ++
    (if entry.authpeer then
      addOpt (text "auth") ++ (if entry.papRequire then addOpt (text "require-pap") else []) ++
        if entry.chapRequire then addOpt (text "require-chap") else []
    else []) ++
    nameOptions entry.authname entry.debug

def lnsOptions (entry : Lns) (addr : Nat) (peer : SockAddr) : List Bytes :=
  addOpt (optionalIp entry.localaddr ++ text ":" ++ ipaddy addr) ++
    authOptions entry.authself entry.papRefuse entry.chapRefuse ++
    (if entry.authpeer then
      addOpt (text "auth") ++ (if entry.papRequire then addOpt (text "require-pap") else []) ++
        (if entry.chapRequire then addOpt (text "require-chap") else []) ++
        if entry.passwdauth then addOpt (text "login") else []
    else []) ++
    nameOptions entry.authname entry.debug ++ fileOptions entry.pppoptfile ++
    peerOptions entry.passPeer peer

def askSystem {Answer : Type} (answers : Nat → Answer) : Prog Answer := do
  let state ← get
  set { state with spawned := state.spawned + 1 }
  pure (answers state.spawned)

/-- `start_pppd`; with kernel support the call keeps no descriptor. -/
def startPppd (env : Env) (t : TunnelRef) (c : CallId) (options : List Bytes) : Prog Unit := do
  let call ← readCall t c
  emit (.startPppd t c options)
  whenever (!(0 < call.pppd) && !(-1 < call.fd)) do
    let answer ← askSystem env.spawn
    match answer with
    | .noDevice => pure ()
    | .noTty fd => whenever (!env.kernelSupport) (writeCall t c fun call => { call with fd := fd })
    | .forked fd pid =>
        writeCall t c fun call =>
          { call with fd := if env.kernelSupport then call.fd else fd, pppd := pid }

/-! ## Tunnel management -/

def refuse (t : TunnelRef) (c : CallId) (message : String) : Prog Bool := do
  setError t c vendorError (text message)
  pure false

/-- Another tunnel of the same peer with the same peer number. -/
def duplicateTunnel (env : Env) (state : Daemon) (tunnel : Tunnel) : Bool :=
  state.tunnels.any fun other =>
    other.tid = tunnel.tid && other.peer.addr = tunnel.peer.addr &&
      (!env.ipsecsaref || other.refhim = tunnel.refhim) && other.ref ≠ tunnel.ref

/-- The response to the peer's challenge in an SCCRP, sent even when no secret was
found. -/
def respondSccrp (env : Env) (t : TunnelRef) : Prog Bytes := do
  let tunnel ← readTunnel t
  if tunnel.chalUs.challenged then do
    writeTunnel t fun tunnel => tunnel.setChal .us fun chal => { chal with ss := 2 }
    let _ ← handleChallenge env t .us
    let tunnel ← readTunnel t
    pure (addChalrespAvp tunnel.chalUs.response)
  else pure []

/-- The challenge of an SCCRP, with the response we expect to it in the SCCCN. -/
def challengeSccrp (env : Env) (t : TunnelRef) (challenge : Bool) : Prog (Option Bytes) := do
  if challenge then do
    let value ← drawChallenge env t
    writeTunnel t fun tunnel => tunnel.setChal .them fun chal => { chal with ss := 3 }
    let success ← handleChallenge env t .them
    pure (if success then some (addChallengeAvp value) else none)
  else pure (some [])

/-- The part of the SCCRQ branch that answers with an SCCRP. -/
def answerSccrq (env : Env) (t : TunnelRef) (c : CallId) (entry : Lns) : Prog Bool := do
  writeTunnel t fun tunnel => { tunnel with state := .SCCRP }
  let vector ← addVector env t
  let capabilities ← capabilityAvps env t
  let response ← respondSccrp env t
  let challenge ← challengeSccrp env t entry.challenge
  match challenge with
  | none => refuse t c "No secret on our side"
  | some challenge => do
      writeCall t c fun call => { call with cnu := false }
      sendControl env t c
        (addMessageTypeAvp .SCCRP ++ vector ++ capabilities ++ response ++ challenge)
      pure true

def finishSccrq (env : Env) (t : TunnelRef) (c : CallId) : Prog Bool := do
  let tunnel ← readTunnel t
  if tunnel.tid ≤ 0 then refuse t c "Specify your assigned tunnel ID"
  else do
    let state ← get
    let lns := getLns env state tunnel
    writeTunnel t fun tunnel => { tunnel with lns := lns }
    match lns with
    | none => refuse t c "No Authorization"
    | some lns => do
        let entry ← readLns lns
        writeTunnel t fun tunnel => { tunnel with ourrws := entry.tunRws, hbit := entry.hbit }
        if tunnel.fc < 0 then refuse t c "Specify framing capability"
        else if tunnel.hostname = [] ∧ (tunnel.chalUs.challenged ∨ entry.challenge) then
          refuse t c "Specify your hostname"
        else if duplicateTunnel env state tunnel then do
          -- The first request is being served; this tunnel goes without a word.
          writeCall t c Call.release
          pure true
        else answerSccrq env t c entry

def establish (t : TunnelRef) : Prog Unit := do
  writeTunnel t fun tunnel => { tunnel with state := .SCCCN }
  let tunnel ← readTunnel t
  let state ← get
  emit (.established tunnel (tunnel.lns.bind state.lns?) (tunnel.lac.bind state.lac?))

def connectPppol2tp (env : Env) (t : TunnelRef) : Prog Unit :=
  whenever env.kernelSupport (emit (.connectPppol2tp t))

def helloDelay : Timeval := ⟨60, 0⟩

def scheduleHello (t : TunnelRef) : Prog Unit := do
  let _ ← readTunnel t
  let _ ← schedule helloDelay (.hello t)

/-- The check of the peer's response in an SCCRP: the complaint, if there is one. -/
def verifySccrp (env : Env) (t : TunnelRef) : Prog (Option String) := do
  let tunnel ← readTunnel t
  if tunnel.chalThem.challenged then do
    writeTunnel t fun tunnel => tunnel.setChal .them fun chal => { chal with ss := 2 }
    let success ← handleChallenge env t .them
    let tunnel ← readTunnel t
    if !success then pure (some "No secret key on our side")
    else if tunnel.chalThem.reply ≠ tunnel.chalThem.response then
      pure (some "Invalid challenge authentication")
    else pure none
  else pure none

/-- The response to the challenge of an SCCRP, for the SCCCN. -/
def respondScccn (env : Env) (t : TunnelRef) : Prog (Option Bytes) := do
  let tunnel ← readTunnel t
  if tunnel.chalUs.challenged then do
    writeTunnel t fun tunnel => tunnel.setChal .us fun chal => { chal with ss := 3 }
    let success ← handleChallenge env t .us
    let tunnel ← readTunnel t
    pure (if success then some (addChalrespAvp tunnel.chalUs.response) else none)
  else pure (some [])

/-- A tunnel that a LAC entry asked for goes on to place the call. -/
def dialOn (env : Env) (t : TunnelRef) : Prog Unit := do
  let tunnel ← readTunnel t
  match tunnel.lac with
  | none => pure ()
  | some lac => magicLacDial env lac

/-- The part of the SCCRP branch that answers with an SCCCN. -/
def answerSccrp (env : Env) (t : TunnelRef) (c : CallId) (response : Bytes) : Prog Unit := do
  establish t
  let vector ← addVector env t
  writeCall t c fun call => { call with cnu := false }
  sendControl env t c (addMessageTypeAvp .SCCCN ++ vector ++ response)
  connectPppol2tp env t
  scheduleHello t
  dialOn env t

def finishSccrp (env : Env) (t : TunnelRef) (c : CallId) : Prog Bool := do
  let tunnel ← readTunnel t
  if tunnel.fc < 0 then refuse t c "Specify framing capability"
  else if tunnel.hostname = [] ∧ (tunnel.chalThem.challenged ∨ tunnel.chalUs.challenged) then
    refuse t c "Specify your hostname"
  else if tunnel.tid ≤ 0 then refuse t c "Specify your assigned tunnel ID"
  else do
    let complaint ← verifySccrp env t
    match complaint with
    | some message => refuse t c message
    | none => do
        let response ← respondScccn env t
        match response with
        | none => refuse t c "No secret key on our end"
        | some response => do
            answerSccrp env t c response
            pure true

def finishScccn (env : Env) (t : TunnelRef) (c : CallId) : Prog Bool := do
  let tunnel ← readTunnel t
  if tunnel.chalThem.challenged ∧ tunnel.chalThem.reply ≠ tunnel.chalThem.response then
    refuse t c "Invalid challenge authentication"
  else do
    establish t
    let lns ← nonNull .finishTunnelLns tunnel.lns
    let _ ← readLns lns
    connectPppol2tp env t
    scheduleHello t
    pure true

/-- A client that disconnects with our number in the place of its own. -/
def Tunnel.swapsIds (tunnel : Tunnel) : Bool :=
  tunnel.firmware = 0xff00 && tunnel.vendor.take 27 = text "Deterministic Networks Inc."

def finishStopccn (t : TunnelRef) (c : CallId) : Prog Bool := do
  let tunnel ← readTunnel t
  let tmptid : Int := if tunnel.swapsIds then tunnel.ourtid.toNat else tunnel.tid
  if tunnel.qtid < 0 then pure false
  else if tunnel.qtid ≠ tmptid ∧ 0 < tmptid then pure false
  else do
    writeTunnel t fun tunnel =>
      { tunnel with tid := if tunnel.tid = 0 then tunnel.qtid else tunnel.tid }
    if tunnel.self.result < 0 then pure false
    else do
      writeCall t c Call.release
      pure true

/-! ## Call management -/

/-- The part of the ICRQ branch that answers with an ICRP. -/
def answerIcrq (env : Env) (t : TunnelRef) (p : CallId) : Prog Bool := do
  let call ← readCall t p
  writeCall t p fun call => { call with state := .ICRP }
  let vector ← addVector env t
  writeCall t p fun call => { call with cnu := false }
  sendControl env t p (addMessageTypeAvp .ICRP ++ vector ++ addCallidAvp call.ourcid)
  pure true

def assignAddr (t : TunnelRef) (p : CallId) (entry : Lns) : Prog Bool := do
  if entry.assignIp then do
    let state ← get
    let addr ← getAddr state.uaddr entry.range
    writeCall t p fun call => { call with addr := addr }
    if addr = 0 then pure false
    else do
      reserveAddr addr
      pure true
  else do
    writeCall t p fun call => { call with addr := 0 }
    pure true

def finishIcrq (env : Env) (t : TunnelRef) : Prog Bool := do
  let tunnel ← readTunnel t
  let head ← nonNull .finishCallHead tunnel.calls.head?
  let p : CallId := .call head.ref
  match head.lns with
  | none => do
      setError t p errorInvalid (text "This tunnel cannot accept calls\n")
      callClose env t p
      pure false
  | some lns => do
      let entry ← readLns lns
      writeCall t p fun call => { call with lbit := entry.lbit }
      if head.cid < 0 then do
        callClose env t p
        pure false
      else if tunnel.calls.tail.any fun other => other.cid = head.cid then do
        writeCall t p Call.release
        pure true
      else do
        let lns ← nonNull .finishTunnelLns tunnel.lns
        let entry ← readLns lns
        let assigned ← assignAddr t p entry
        if !assigned then do
          setError t p errorNores (text "No available IP address")
          callClose env t p
          pure false
        else answerIcrq env t p

/-- The password goes to pppd through a pipe and is forgotten unless the entry redials; nothing
without a pipe. Only the ICRP branch passes it. -/
def passwordOptions (env : Env) (lac : LacRef) (entry : Lac) (passed : Bool) :
    Prog (Option (List Bytes)) := do
  if passed ∧ entry.password ≠ [] then do
    let pipe ← askSystem env.passwordPipe
    match pipe with
    | none => pure none
    | some fd => do
        whenever (!entry.redial) (writeLac lac fun entry => { entry with password := [] })
        pure (some (addOpt (text "plugin") ++ addOpt (text "passwordfd.so") ++
          addOpt (text "passwordfd") ++ addOpt (decimal fd)))
  else pure (some [])

/-- Starts pppd for a call of a LAC entry. The test for `pass_peer` uses the entry untested. -/
def startLacPppd (env : Env) (t : TunnelRef) (c : CallId) (options : List Bytes)
    (password : Bool) : Prog Bool := do
  let tunnel ← readTunnel t
  let call ← readCall t c
  let lac ← nonNull .finishCallLac call.lac
  let entry ← readLac lac
  let secret ← passwordOptions env lac entry password
  match secret with
  | none => pure false
  | some secret => do
      startPppd env t c (options ++ lacOptions entry ++ secret ++ fileOptions entry.pppoptfile ++
        peerOptions entry.passPeer tunnel.peer)
      writeLac lac fun entry => { entry with rtries := 0 }
      pure true

def baseOptions : List Bytes := addOpt (text "passive") ++ addOpt (text "nodetach")

def finishIcrp (env : Env) (t : TunnelRef) (c : CallId) : Prog Bool := do
  let tunnel ← readTunnel t
  let call ← readCall t c
  if call.cid < 0 then do
    writeCall t c fun call => { call with needclose := true }
    pure false
  else do
    let frame := preferredFrame tunnel.fc
    writeCall t c fun call => { call with state := .ICCN, frame := frame }
    let vector ← addVector env t
    writeCall t c fun call => { call with cnu := false }
    sendControl env t c (addMessageTypeAvp .ICCN ++ vector ++ addTxspeedAvp tunnel.txspeed ++
      addFrameAvp frame ++ addRxspeedAvp tunnel.rxspeed)
    startLacPppd env t c baseOptions true

/-- `get_local_addr`, true when it returns 0. -/
def getLocalAddr (env : Env) (t : TunnelRef) (c : CallId) : Prog Bool := do
  let tunnel ← readTunnel t
  let lns ← nonNull .finishTunnelLns tunnel.lns
  let entry ← readLns lns
  if entry.localrange = [] then pure true
  else do
    let call ← readCall t c
    let own ← nonNull .finishCallLns call.lns
    let state ← get
    let addr ← getAddr state.uaddr entry.localrange
    writeLns own fun entry => { entry with localaddr := addr }
    if addr = 0 then do
      setError t c errorNores (text "No available local IP addresses")
      callClose env t c
      pure false
    else do
      reserveAddr addr
      pure true

def finishIccn (env : Env) (t : TunnelRef) (c : CallId) : Prog Bool := do
  if c = .self then pure false
  else do
    writeCall t c fun call => { call with state := .ICCN }
    let success ← getLocalAddr env t c
    if !success then pure false
    else do
      let tunnel ← readTunnel t
      let call ← readCall t c
      let lns ← nonNull .finishCallLns call.lns
      let entry ← readLns lns
      startPppd env t c (baseOptions ++ lnsOptions entry call.addr tunnel.peer)
      pure true

def finishOccn (env : Env) (t : TunnelRef) (c : CallId) : Prog Bool := do
  let call ← readCall t c
  startLacPppd env t c (baseOptions ++ addOpt (text "file") ++
    addOpt (text "/var/l2tp/" ++ call.dialNo ++ text ".options")) false

/-- The call a CDN names: the addressed one, or the one with the number in its AVP. -/
def Tunnel.cdnTarget (tunnel : Tunnel) (c : CallId) (call : Call) : Option Call :=
  match c with
  | .self => tunnel.calls.find? fun other => other.cid = call.qcid
  | .call _ => some call

def finishCdn (t : TunnelRef) (c : CallId) : Prog Bool := do
  let tunnel ← readTunnel t
  let call ← readCall t c
  if call.qcid < 0 then pure false
  else
    match tunnel.cdnTarget c call with
    | none => pure false
    | some p =>
        let tmpcid : Int := if tunnel.swapsIds then p.ourcid.toNat else p.cid
        if call.qcid ≠ tmpcid ∧ 0 < tmpcid then pure false
        else do
          writeCall t c fun call => { call with qcid := -1 }
          if call.result < 0 then pure false
          else do
            writeCall t c Call.release
            pure true

/-! ## The branches together -/

def finishBranch (env : Env) (t : TunnelRef) (c : CallId) : MsgType → Prog Bool
  | .zero => do
      initiate env t c
      pure true
  | .SCCRQ => finishSccrq env t c
  | .SCCRP => finishSccrp env t c
  | .SCCCN => finishScccn env t c
  | .StopCCN => finishStopccn t c
  | .ICRQ => finishIcrq env t
  | .ICRP => finishIcrp env t c
  | .ICCN => finishIccn env t c
  | .OCRP => pure true
  | .OCCN => finishOccn env t c
  | .CDN => finishCdn t c
  | .Hello => pure true
  | .SLI => pure true
  | type => do
      setError t c vendorError
        (text "Unimplemented message " ++ decimal type.toNat ++ text "\n")
      pure true

/-- `control_finish` after a message's AVPs have been handled. -/
def controlFinish (env : Env) (t : TunnelRef) (c : CallId) : Prog Bool := do
  let call ← readCall t c
  match call.msgtype with
  | none => pure false
  | some type => do
      emit (.finish t c type)
      finishBranch env t c type

end Xl2tpd
