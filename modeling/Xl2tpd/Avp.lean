import Xl2tpd.Call

/-!
# Receiving AVPs

A handler gets the buffer from its AVP on, with the AVP's header already swapped,
and the AVP's length. It returns true where the source returns 0.
-/

namespace Xl2tpd

set_option autoImplicit false

abbrev Handler := TunnelRef → CallId → Bytes → Nat → Prog Bool

def lengthText (field : String) (expected found : Nat) (least : Bool) : Bytes :=
  (text field ++ (if least then text ": expected at least " else text ": expected ") ++
    decimal expected ++ text ", got " ++ decimal found).take maxText

def wrongLength (t : TunnelRef) (c : CallId) (field : String) (expected found : Nat)
    (least : Bool) : Prog Unit :=
  writeCall t c fun call =>
    { call with
      errormsg := lengthText field expected found least
      error := errorLength
      result := resultError
      needclose := true }

def avpWord (data : Bytes) (index : Nat) : UInt16 := netWord data (2 * index)

def avpLong (data : Bytes) : Nat := (avpWord data 3).toNat * 65536 + (avpWord data 4).toNat

def avpText (data : Bytes) (datalen : Nat) : Bytes := cString (min (datalen - 6) maxText) (data.drop 6)

/-! ## Message Type -/

def maxMsg : Nat := 16

/-- The entries of `msgtypes` that are not null. -/
def MsgType.named : MsgType → Bool
  | .zero => false
  | .unassigned _ => false
  | _ => true

/-- The message types below `Hello`. -/
def MsgType.manages : MsgType → Bool
  | .SCCRQ | .SCCRP | .SCCCN | .StopCCN => true
  | _ => false

/-- The table of `message_type_avp`: the states in which a message type is taken. -/
def admits (tunnelState : TunnelState) (c : CallId) (callState : CallState) : MsgType → Bool
  | .SCCRQ => tunnelState = .idle || tunnelState = .SCCRQ
  | .SCCRP => tunnelState = .SCCRQ
  | .SCCCN => tunnelState = .SCCRP
  | .ICRQ => tunnelState = .SCCCN && c = .self
  | .ICRP => tunnelState = .SCCCN && callState = .ICRQ
  | .ICCN => callState = .ICRP
  | .SLI => callState = .ICCN
  | .OCRP => tunnelState = .SCCCN && callState = .OCRQ
  | .OCCN => callState = .OCRQ
  | .StopCCN | .CDN | .Hello => true
  | _ => false

def admitted (tunnelState : TunnelState) (c : CallId) (callState : CallState) (type : MsgType) :
    Bool :=
  type.named && !(c ≠ .self && type.manages) && admits tunnelState c callState type

def messageTypeAvp (env : Env) : Handler := fun t c data datalen => do
  let type := MsgType.ofNat (avpWord data 3).toNat
  writeCall t c fun call => { call with msgtype := some type }
  if datalen ≠ 8 then do
    wrongLength t c "Message Type" 8 datalen false
    pure false
  else do
    let tunnel ← readTunnel t
    let call ← readCall t c
    if !admitted tunnel.state c call.state type then pure false
    else if type = .ICRQ then do
      let call ← newCall env (some tunnel)
      linkCall t call
      pure true
    else pure true

/-! ## The other handlers -/

/-- An AVP in a message it does not belong to is ignored, one of the wrong size is refused. -/
def storeAvp (appropriate : List MsgType) (field : String) (size : Nat) (least : Bool)
    (store : TunnelRef → CallId → Bytes → Nat → Prog Unit) : Handler := fun t c data datalen => do
  let call ← readCall t c
  if !(appropriate.map some).contains call.msgtype then pure true
  else if (if least then datalen < size else datalen ≠ size) then do
    wrongLength t c field size datalen least
    pure false
  else do
    store t c data datalen
    pure true

/-- `t->call_head`, which the handlers of a new call's AVPs use untested. -/
def callHead (t : TunnelRef) : Prog CallId := do
  let tunnel ← readTunnel t
  let head ← nonNull .avpCallHead tunnel.calls.head?
  pure (.call head.ref)

def writeHead (t : TunnelRef) (change : Call → Call) : Prog Unit := do
  let head ← callHead t
  writeCall t head change

def resultCodeAvp : Handler := fun t c data datalen => do
  if datalen < 8 then do
    wrongLength t c "Result Code" 8 datalen true
    pure false
  else do
    let call ← readCall t c
    let result := leWorkaround (avpWord data 3).toNat
    if call.msgtype ≠ some .CDN ∧ call.msgtype ≠ some .StopCCN then pure true
    else if call.msgtype = some .StopCCN ∧ (result > 7 ∨ result < 1) then pure true
    else if call.msgtype = some .CDN ∧ (result > 11 ∨ result < 1) then pure true
    else do
      writeCall t c fun call =>
        { call with
          error := if datalen ≥ 10 then (leWorkaround (avpWord data 4).toNat : Int) else -1
          result := result
          errormsg :=
            if datalen > 10 then cString (min (datalen - 10) maxText) (data.drop 10) else [] }
      pure true
where
  /-- A code sent in the wrong byte order by a known client. -/
  leWorkaround (code : Nat) : Nat := if code % 256 = 0 ∧ code / 256 ≠ 0 then code / 256 else code

def protocolVersionAvp : Handler := fun t c _ datalen => do
  if datalen ≠ 8 then do
    wrongLength t c "Protocol Version" 8 datalen true
    pure false
  else pure true

def seqReqdAvp : Handler := fun t c _ datalen => do
  if datalen ≠ 6 then do
    wrongLength t c "Sequencing Required" 6 datalen true
    pure false
  else do
    let call ← readCall t c
    if call.msgtype ≠ some .ICCN then pure false
    else do
      writeCall t c fun call => { call with seqReqd := true }
      pure true

def maxVectorSize : Nat := 1024

def randVectorAvp : Handler := fun t c data datalen => do
  let size : Int := alength (hostWord data 0) - 6
  if size < 0 ∨ size > maxVectorSize then do
    wrongLength t c "Random Vector" 6 datalen true
    pure false
  else do
    writeTunnel t fun tunnel =>
      { tunnel with
        chalUs := { tunnel.chalUs with vector := some ((data.drop 6).take size.toNat) } }
    pure true

def ignoreAvp : Handler := fun _ _ _ _ => pure true

def framingCapsAvp : Handler :=
  storeAvp [.SCCRP, .SCCRQ] "Framming Capabilities" 10 false fun t _ data _ =>
    writeTunnel t fun tunnel => { tunnel with fc := ((avpWord data 4).toNat % 4 : Nat) }

def bearerCapsAvp : Handler :=
  storeAvp [.SCCRP, .SCCRQ] "Bearer Capabilities" 10 false fun t _ data _ =>
    writeTunnel t fun tunnel => { tunnel with bc := ((avpWord data 4).toNat % 4 : Nat) }

def firmwareRevAvp : Handler :=
  storeAvp [.SCCRP, .SCCRQ] "Firmware Revision" 8 false fun t _ data _ =>
    writeTunnel t fun tunnel => { tunnel with firmware := (avpWord data 3).toNat }

def bearerTypeAvp : Handler :=
  storeAvp [.ICRQ, .OCRQ] "Bearer Type" 10 false fun t _ data _ =>
    writeHead t fun call => { call with bearer := (avpWord data 4).toNat }

def frameTypeAvp : Handler :=
  storeAvp [.ICCN, .OCRQ, .OCCN] "Frame Type" 10 false fun t c data _ =>
    writeCall t c fun call => { call with frame := (avpWord data 4).toNat }

def hostnameAvp : Handler :=
  storeAvp [.SCCRP, .SCCRQ] "Hostname" 6 true fun t _ data datalen =>
    writeTunnel t fun tunnel => { tunnel with hostname := avpText data datalen }

def dialingNumberAvp : Handler :=
  storeAvp [.ICRQ] "Dialing Number" 6 true fun t _ data datalen =>
    writeHead t fun call => { call with dialing := avpText data datalen }

def dialedNumberAvp : Handler :=
  storeAvp [.OCRQ, .ICRQ] "Dialed Number" 6 true fun t _ data datalen =>
    writeHead t fun call => { call with dialed := avpText data datalen }

def subAddressAvp : Handler :=
  storeAvp [.OCRP, .ICRQ] "Sub-address" 6 true fun t _ data datalen =>
    writeHead t fun call => { call with subaddy := avpText data datalen }

def vendorAvp : Handler :=
  storeAvp [.SCCRP, .SCCRQ] "Vendor" 6 true fun t _ data datalen =>
    writeTunnel t fun tunnel => { tunnel with vendor := avpText data datalen }

def challengeAvp : Handler :=
  storeAvp [.SCCRP, .SCCRQ] "challenge" 6 true fun t _ data datalen =>
    writeTunnel t fun tunnel =>
      { tunnel with
        chalUs :=
          { tunnel.chalUs with
            challenge := some ((data.drop 6).take (datalen - 6))
            challenged := true } }

/-- A response that is not a whole digest is refused without a complaint. -/
def chalrespAvp : Handler := fun t c data datalen => do
  let call ← readCall t c
  if call.msgtype ≠ some .SCCRP ∧ call.msgtype ≠ some .SCCCN then pure true
  else if datalen < 6 then do
    wrongLength t c "challenge" 6 datalen true
    pure false
  else if datalen - 6 ≠ mdSigSize then pure false
  else do
    writeTunnel t fun tunnel =>
      { tunnel with
        chalThem := { tunnel.chalThem with reply := (data.drop 6).take mdSigSize } }
    pure true

def assignedTunnelAvp : Handler :=
  storeAvp [.SCCRP, .SCCRQ, .StopCCN] "Assigned Tunnel ID" 8 false fun t c data _ => do
    let call ← readCall t c
    writeTunnel t fun tunnel =>
      if call.msgtype = some .StopCCN then { tunnel with qtid := (avpWord data 3).toNat }
      else { tunnel with tid := (avpWord data 3).toNat }

def assignedCallAvp : Handler :=
  storeAvp [.CDN, .ICRP, .ICRQ, .OCRP] "Assigned Call ID" 8 false fun t c data _ => do
    let call ← readCall t c
    match call.msgtype with
    | some .CDN => writeCall t c fun call => { call with qcid := (avpWord data 3).toNat }
    | some .ICRQ => writeHead t fun call => { call with cid := (avpWord data 3).toNat }
    | _ => writeCall t c fun call => { call with cid := (avpWord data 3).toNat }

def packetDelayAvp : Handler :=
  storeAvp [.ICRP, .OCRQ, .ICCN, .OCRP, .OCCN] "Assigned Call ID" 8 false fun t c data _ =>
    writeCall t c fun call => { call with ppd := (avpWord data 3).toNat }

/-- An old-style serial number of another size is read all the same. -/
def callSernoAvp : Handler := fun t c data _ => do
  let call ← readCall t c
  if call.msgtype ≠ some .ICRQ ∧ call.msgtype ≠ some .OCRQ then pure true
  else do
    writeHead t fun call => { call with serno := avpLong data }
    pure true

def rxSpeedAvp : Handler :=
  storeAvp [.ICCN, .OCCN, .OCRP] "Connect Speed (RX)" 10 false fun t c data _ =>
    writeCall t c fun call => { call with rxspeed := toInt32 (avpLong data) }

def txSpeedAvp : Handler :=
  storeAvp [.ICCN, .OCCN, .OCRP] "Connect Speed (tx)" 10 false fun t c data _ =>
    writeCall t c fun call => { call with txspeed := toInt32 (avpLong data) }

def callPhyschanAvp : Handler :=
  storeAvp [.ICRQ, .OCRQ, .OCRP, .OCCN] "Physical Channel" 10 false fun t _ data _ =>
    writeHead t fun call => { call with physchan := toInt32 (avpLong data) }

def receiveWindowSizeAvp : Handler :=
  storeAvp [.SCCRP, .SCCRQ, .OCRP, .OCCN, .StopCCN] "Receive Window Size" 8 false fun t _ data _ =>
    writeTunnel t fun tunnel => { tunnel with rws := (avpWord data 3).toNat }

/-! ## The table and the loop -/

def avpMax : Nat := 39

def avpHandler (env : Env) : Nat → Option Handler
  | 0 => some (messageTypeAvp env)
  | 1 => some resultCodeAvp
  | 2 => some protocolVersionAvp
  | 3 => some framingCapsAvp
  | 4 => some bearerCapsAvp
  | 6 => some firmwareRevAvp
  | 7 => some hostnameAvp
  | 8 => some vendorAvp
  | 9 => some assignedTunnelAvp
  | 10 => some receiveWindowSizeAvp
  | 11 => some challengeAvp
  | 13 => some chalrespAvp
  | 14 => some assignedCallAvp
  | 15 => some callSernoAvp
  | 18 => some bearerTypeAvp
  | 19 => some frameTypeAvp
  | 20 => some packetDelayAvp
  | 21 => some dialedNumberAvp
  | 22 => some dialingNumberAvp
  | 23 => some subAddressAvp
  | 24 => some txSpeedAvp
  | 25 => some callPhyschanAvp
  | 29 | 30 | 31 | 32 | 33 | 35 => some ignoreAvp
  | 36 => some randVectorAvp
  | 38 => some rxSpeedAvp
  | 39 => some seqReqdAvp
  | _ => none

def avpDescription : Nat → String
  | 5 => "Tie Breaker"
  | 12 => "Q.931 Cause Code"
  | 16 => "Minimum BPS"
  | 17 => "Maximum BPS"
  | 26 => "Initial Received LCP Confreq"
  | 27 => "Last Sent LCP Confreq"
  | 28 => "Last Received LCP Confreq"
  | 34 => "Call Errors"
  | _ => "Private Group ID"

/-- How one round of the loop of `handle_avps` ends. -/
inductive AvpStep
  | refused
  | next (data : Bytes) (len : Int)
  deriving DecidableEq, Repr

/-- The label `next`; an AVP of length zero ends the loop with octets left over. -/
def skipAvp (data : Bytes) (len : Int) (length : Nat) : AvpStep :=
  if length = 0 then .refused else .next (data.drop length) (len - length)

def refuseAvp (t : TunnelRef) (c : CallId) (error : Int) (message : Bytes) : Prog AvpStep := do
  setError t c error message
  pure .refused

/-- An AVP with a plain header goes to its handler, whose failure counts only for a mandatory one.
-/
def dispatchAvp (env : Env) (t : TunnelRef) (c : CallId) (data : Bytes) (len : Int)
    (length : Nat) : Prog AvpStep := do
  let mandatory := ambit (hostWord data 0)
  let attr := (hostWord data 4).toNat
  match avpHandler env attr with
  | none =>
      if mandatory then
        refuseAvp t c vendorError (text "No handler for attr " ++ decimal attr ++ text " (" ++
          text (avpDescription attr) ++ text ")\n")
      else pure (skipAvp data len length)
  | some handler => do
      let success ← handler t c data (alength (hostWord data 0))
      whenever (attr = 0)
        (emit (.verdict t c (MsgType.ofNat (avpWord data 3).toNat) mandatory success))
      if !success && mandatory then do
        writeCall t c fun call => { call with needclose := true }
        pure .refused
      else pure (skipAvp data len length)

/-- One round of the loop, from the swap of the header on. -/
def handleAvp (env : Env) (t : TunnelRef) (c : CallId) (first : Bool) (raw : Bytes)
    (len : Int) : Prog AvpStep := do
  let data := swaps 3 raw
  let length := hostWord data 0
  let attr := (hostWord data 4).toNat
  let mandatory := ambit length
  if attr > avpMax then
    if mandatory then
      refuseAvp t c vendorError
        (text "mandatory attribute " ++ decimal attr ++ text " cannot be handled")
    else pure (skipAvp data len (alength length))
  else if alength length > len then
    refuseAvp t c errorLength (text "Invalid AVP length")
  else if attr ≠ 0 ∧ first then
    refuseAvp t c vendorError (text "First AVP must be message type")
  else if alength length < 6 then
    refuseAvp t c errorLength (text "AVP too small")
  else if azbits length then
    if mandatory then refuseAvp t c errorReserved (text "reserved bits set in AVP")
    else pure (skipAvp data len (alength length))
  else if ahbit length then do
    let tunnel ← readTunnel t
    match decryptAvp env tunnel.chalUs data with
    | none =>
        if mandatory then refuseAvp t c vendorError (text "Invalid Hidden AVP")
        else pure (skipAvp data len (alength length))
    | some plain => dispatchAvp env t c plain (len - 2) (alength (length - 2))
  else dispatchAvp env t c data len (alength length)

/-- The loop of `handle_avps`; every round takes at least one octet. -/
def handleAvpsLoop (env : Env) (t : TunnelRef) (c : CallId) :
    Nat → Bool → Bytes → Int → Prog Bool
  | 0, _, _, len => pure (len = 0)
  | fuel + 1, first, data, len =>
      if len ≤ 0 then pure (len = 0)
      else do
        match ← handleAvp env t c first data len with
        | .refused => pure false
        | .next data len => handleAvpsLoop env t c fuel false data len

/-- `handle_avps`, true when it returns 0. -/
def handleAvps (env : Env) (t : TunnelRef) (c : CallId) (buffer : RecvBuf) : Prog Bool :=
  let len : Int := buffer.len - controlHdrSize
  handleAvpsLoop env t c (len.toNat + 1) true (buffer.bytes.drop controlHdrSize) len

end Xl2tpd
