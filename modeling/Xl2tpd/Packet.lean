import Xl2tpd.Control
import Xl2tpd.Ppp

/-!
# Received packets

From the datagram to the state machine: the checks on control and payload
headers, the sequence numbers, and the acknowledgements.
-/

namespace Xl2tpd

set_option autoImplicit false

/-- How `check_control` and `expand_payload` tell old packets, in `int` arithmetic. -/
def alreadySeen (ns expected : UInt16) : Bool :=
  let ns : Int := ns.toNat
  let expected : Int := expected.toNat
  (ns < expected && expected - ns < 32768) || (ns > expected && expected - ns > 32768)

/-- The flag and version checks at the end of `check_control`. -/
def controlFlags (ver : UInt16) : Bool :=
  ctbit ver && clbit ver && cfbit ver && cver ver = verL2tp

/-- What `check_control` does with a packet that is not the expected one. -/
def outOfOrder (buffer : RecvBuf) (t : TunnelRef) (c : CallId) : Prog Unit := do
  let tunnel ← readTunnel t
  if alreadySeen buffer.controlHdr.Ns tunnel.controlRecSeqNum then
    -- A ZLB in response to a ZLB would lead to a loop.
    whenever (buffer.len ≠ controlHdrSize) (controlZlb t c)
  else
    whenever (tunnel.controlRecSeqNum = 0 && tunnel.tid = -1) (writeCall t c Call.release)

/-- `check_control`, true when it returns 0. The counters move before the flags are looked at. -/
def checkControl (buffer : RecvBuf) (t : TunnelRef) (c : CallId) : Prog Bool := do
  let header := buffer.controlHdr
  if buffer.len < controlHdrSize then pure false
  else if buffer.len ≠ header.length.toNat then pure false
  else do
    let tunnel ← readTunnel t
    if header.Ns ≠ tunnel.controlRecSeqNum then do
      outOfOrder buffer t c
      pure false
    else do
      writeTunnel t fun tunnel =>
        { tunnel with
          controlRecSeqNum := tunnel.controlRecSeqNum + 1
          cLr := header.Nr.toNat }
      writeCall t c fun call => { call with cnu := true }
      pure (controlFlags header.ver)

/-- A ZLB: the counter is set back, and a closing notice may be acknowledged. -/
def handleZlb (t : TunnelRef) (c : CallId) : Prog Unit := do
  writeTunnel t fun tunnel => { tunnel with controlRecSeqNum := tunnel.controlRecSeqNum - 1 }
  let tunnel ← readTunnel t
  writeCall t c fun call =>
    { call with
      cnu := false
      needclose := call.needclose && !(call.closing && call.closeSs.toNat ≤ tunnel.cLr) }

/-- How `handle_control` goes on after the checks and the AVPs. -/
inductive Screened
  | done (success : Bool)
  | finish
  deriving DecidableEq, Repr

/-- A message that is not a ZLB: its AVPs decide whether it goes on. -/
def screenMessage (env : Env) (buffer : RecvBuf) (t : TunnelRef) (c : CallId) : Prog Screened := do
  emit (.accepted t buffer.body)
  let handled ← handleAvps env t c buffer
  pure (if handled then .finish else .done false)

/-- `handle_control` up to the call of `control_finish`. -/
def screenControl (env : Env) (buffer : RecvBuf) (t : TunnelRef) (c : CallId) : Prog Screened := do
  let good ← checkControl buffer t c
  if !good then pure (.done false)
  else do
    writeCall t c fun call => { call with msgtype := none }
    if buffer.len = controlHdrSize then do
      handleZlb t c
      pure (.done true)
    else screenMessage env buffer t c

/-- `handle_control`, true when it returns 0. -/
def handleControl (env : Env) (buffer : RecvBuf) (t : TunnelRef) (c : CallId) : Prog Bool := do
  let screened ← screenControl env buffer t c
  match screened with
  | .done success => pure success
  | .finish => controlFinish env t c

/-- The checks of `handle_special`, and the answer to a message that passes them. -/
def answerSpecial (buffer : RecvBuf) (t : TunnelRef) : Prog Unit := do
  let good ← checkControl buffer t .self
  whenever (good && buffer.len ≠ controlHdrSize) do
    emit (.accepted t buffer.body)
    controlZlb t .self

/-- `handle_special`: a packet for a call the tunnel does not have. -/
def handleSpecial (buffer : RecvBuf) (t : TunnelRef) (call : UInt16) : Prog Unit :=
  whenever (ctbit (hostWord buffer.bytes 0)) do
    -- For the answer the tunnel takes the number of the missing call.
    writeCall t .self fun self => { self with cid := call.toNat }
    answerSpecial buffer t
    writeCall t .self fun self => { self with cid := 0 }

/-! ## Payload -/

def checkPayload (buffer : RecvBuf) : Bool :=
  let ver := hostWord buffer.bytes 0
  let length := hostWord buffer.bytes 2
  let ehlen := minPayloadHdrLen + (if cfbit ver then 4 else 0) + (if psbit ver then 2 else 0)
  minPayloadHdrLen ≤ buffer.len && !ctbit ver && cver ver = verL2tp &&
    if clbit ver then buffer.len = length.toNat else ehlen ≤ buffer.len

/-- The fields of an expanded payload header, and the number of octets it grows by. -/
structure ExpandedHdr where
  Ns : UInt16
  Nr : UInt16
  oSize : UInt16
  ehlen : Nat
  deriving DecidableEq, Repr

def expandHdr (buffer : RecvBuf) (call : Call) : ExpandedHdr :=
  let ver := hostWord buffer.bytes 0
  let base := if clbit ver then 8 else 6
  let rest := if cfbit ver then base + 4 else base
  { Ns := if cfbit ver then hostWord buffer.bytes base else call.dataRecSeqNum
    Nr := if cfbit ver then hostWord buffer.bytes (base + 2) else call.dataSeqNum
    oSize := if psbit ver then hostWord buffer.bytes rest else 0
    ehlen := (if clbit ver then 0 else 2) + (if cfbit ver then 0 else 4) +
      (if psbit ver then 0 else 2) }

def payloadFudge : Nat := 2

/-- The new `data_rec_seq_num`, or nothing when the packet is dropped. -/
def payloadSequence (ns : UInt16) (call : Call) : Option UInt16 :=
  if ns = call.dataSeqNum then some (call.dataRecSeqNum + 1)
  else if alreadySeen ns call.dataRecSeqNum then none
  else if ns.toNat ≤ call.dataRecSeqNum.toNat + payloadFudge then some ns
  else none

/-- What `write_packet` leaves of a datagram, or nothing when `buf->len` runs below zero. -/
def payloadOctets (buffer : RecvBuf) (header : ExpandedHdr) : Option Bytes :=
  let skipped := payloadHdrSize - header.ehlen + header.oSize.toNat
  if buffer.len < skipped then none
  else some ((buffer.bytes.drop skipped).take (buffer.len - skipped))

/-- The checksum is put behind the payload in the receive buffer, whose packet starts at
`PAYLOAD_BUF`. -/
def framePayload (buffer : RecvBuf) (header : ExpandedHdr) : Conversion :=
  match payloadOctets buffer header with
  | none => .overrun
  | some octets =>
      if maxRecvSize < payloadBuf + buffer.len + 2 then .overrun else convert octets

def writePacket (env : Env) (t : TunnelRef) (c : CallId) (buffer : RecvBuf)
    (header : ExpandedHdr) : Prog Unit := do
  let call ← readCall t c
  whenever (!(call.fd < 0)) do
    let skipped := payloadHdrSize - header.ehlen + header.oSize.toNat
    let counted : Prog Unit := writeCall t c fun call =>
      { call with rxPkts := call.rxPkts + 1, rxBytes := call.rxBytes + (buffer.len - skipped) }
    match framePayload buffer header with
    | .overrun => throw .overrun
    | .invalid => counted
    | .frame octets => do
        counted
        let written ← askSystem env.ptyWrite
        if written then emit (.writePacket t c octets)
        else writeCall t c fun call => { call with needclose := true, fd := -1 }

/-- `expand_payload`: the new header, or nothing for a packet that is dropped. -/
def expandPayload (buffer : RecvBuf) (t : TunnelRef) (c : CallId) : Prog (Option ExpandedHdr) := do
  let call ← readCall t c
  let header := expandHdr buffer call
  match payloadSequence header.Ns call with
  | none => pure none
  | some next => do
      writeCall t c fun call => { call with dataRecSeqNum := next, pLr := header.Nr.toNat }
      pure (some header)

def handlePayload (env : Env) (buffer : RecvBuf) (t : TunnelRef) (c : CallId) : Prog Unit :=
  whenever (checkPayload buffer) do
    match ← expandPayload buffer t c with
    | none => pure ()
    | some header =>
        if buffer.len + header.ehlen > payloadHdrSize then writePacket env t c buffer header
        else
          whenever (buffer.len + header.ehlen = payloadHdrSize)
            (writeCall t c fun call => { call with dataRecSeqNum := call.dataRecSeqNum - 1 })

/-- `handle_packet`; its result is only logged. -/
def handlePacket (env : Env) (buffer : RecvBuf) (t : TunnelRef) (c : CallId) : Prog Unit := do
  if ctbit (hostWord buffer.bytes 0) then do
    let _ ← handleControl env buffer t c
  else handlePayload env buffer t c

/-! ## Datagrams -/

/-- A datagram, what the receive buffer still holds behind it, and where it came
from. -/
structure Datagram where
  bytes : Bytes
  stale : Bytes := []
  peer : SockAddr
  refme : Nat := 0
  refhim : Nat := 0

def Datagram.buffer (datagram : Datagram) : RecvBuf :=
  { bytes := fixHdr (datagram.bytes ++ datagram.stale), len := datagram.bytes.length }

/-- The acknowledgement `network_thread` sends when nothing else carried it. -/
def acknowledge (t : TunnelRef) (c : CallId) : Prog Unit := do
  let call ← readCall t c
  whenever call.cnu do
    controlZlb t c
    writeCall t c fun call => { call with cnu := false }

def deliver (env : Env) (buffer : RecvBuf) (t : TunnelRef) (c : CallId) : Prog Unit := do
  -- `c->container`.
  let _ ← readCall t c
  writeTunnel t fun tunnel => { tunnel with chalUs := { tunnel.chalUs with vector := none } }
  handlePacket env buffer t c
  acknowledge t c

def Datagram.ids (datagram : Datagram) : UInt16 × UInt16 := extract datagram.buffer.bytes

/-- What `network_thread` does once `get_call` has answered. -/
def route (env : Env) (datagram : Datagram) (found : Option (TunnelRef × CallId)) : Prog Unit :=
  match found with
  | some (t, c) => deliver env datagram.buffer t c
  | none => do
      let state ← get
      match getTunnel state datagram.ids.1 with
      | none => pure ()
      | some t => handleSpecial datagram.buffer t datagram.ids.2

/-- What `network_thread` does with one datagram. -/
def receive (env : Env) (datagram : Datagram) : Prog Unit :=
  whenever (minPayloadHdrLen ≤ datagram.bytes.length) do
    let found ← getCall env datagram.ids.1 datagram.ids.2 datagram.peer datagram.refme
      datagram.refhim
    route env datagram found

end Xl2tpd
