import Xl2tpd.Pieces

/-!
# The contents of control messages

The values of each kind of message, the AVPs that carry them, and what a receiver has
stored when its handlers are done with them.
-/

namespace Xl2tpd

set_option autoImplicit false

open Program

/-! ## The contents of a message -/

structure Offer where
  fc : Nat
  bc : Nat
  hostname : Bytes
  tid : UInt16
  rws : Int
  deriving DecidableEq, Repr

inductive Message
  | sccrq (offer : Offer) (challenge : Option Bytes)
  | sccrp (offer : Offer) (response challenge : Option Bytes)
  | scccn (response : Option Bytes)
  | stopccn (tid : UInt16) (result error : Int) (message : Bytes)
  | hello
  | icrq (callid : UInt16) (serno : Nat)
  | icrp (callid : UInt16)
  | iccn (txspeed frame rxspeed : Int)
  | cdn (result error : Int) (message : Bytes) (callid : UInt16)
  deriving DecidableEq, Repr

def Message.type : Message → MsgType
  | .sccrq .. => .SCCRQ
  | .sccrp .. => .SCCRP
  | .scccn .. => .SCCCN
  | .stopccn .. => .StopCCN
  | .hello => .Hello
  | .icrq .. => .ICRQ
  | .icrp .. => .ICRP
  | .iccn .. => .ICCN
  | .cdn .. => .CDN

def Offer.avps (offer : Offer) : Bytes :=
  addProtocolAvp ++ addFrameCapsAvp offer.fc ++ addBearerCapsAvp offer.bc ++ addFirmwareAvp ++
    addHostnameAvp offer.hostname ++ addVendorAvp ++ addTunnelidAvp offer.tid ++
    if 0 ≤ offer.rws then addAvpRws offer.rws else []

def optionalAvp (add : Bytes → Bytes) (value : Option Bytes) : Bytes := (value.map add).getD []

def Message.avps : Message → Bytes
  | .sccrq offer challenge => offer.avps ++ optionalAvp addChallengeAvp challenge
  | .sccrp offer response challenge =>
      offer.avps ++ optionalAvp addChalrespAvp response ++ optionalAvp addChallengeAvp challenge
  | .scccn response => optionalAvp addChalrespAvp response
  | .stopccn tid result error message =>
      addTunnelidAvp tid ++ addResultCodeAvp result error message
  | .hello => []
  | .icrq callid serno => addCallidAvp callid ++ addSernoAvp serno ++ addBearerAvp 0
  | .icrp callid => addCallidAvp callid
  | .iccn txspeed frame rxspeed =>
      addTxspeedAvp txspeed ++ addFrameAvp frame ++ addRxspeedAvp rxspeed
  | .cdn result error message callid =>
      addResultCodeAvp result error message ++ addCallidAvp callid

def Message.body (message : Message) (vector : Option Bytes) : Bytes :=
  addMessageTypeAvp message.type ++ optionalAvp addRandvectAvp vector ++ message.avps

/-! ## What the receiver stores -/

def Tunnel.withVector (tunnel : Tunnel) (vector : Option Bytes) : Tunnel :=
  match vector with
  | none => tunnel
  | some vector => { tunnel with chalUs := { tunnel.chalUs with vector := some vector } }

def Tunnel.withChallenge (tunnel : Tunnel) (challenge : Option Bytes) : Tunnel :=
  match challenge with
  | none => tunnel
  | some challenge =>
      { tunnel with
        chalUs := { tunnel.chalUs with challenge := some challenge, challenged := true } }

def Tunnel.withReply (tunnel : Tunnel) (response : Option Bytes) : Tunnel :=
  match response with
  | none => tunnel
  | some response => { tunnel with chalThem := { tunnel.chalThem with reply := response } }

def Offer.stored (offer : Offer) (tunnel : Tunnel) : Tunnel :=
  { tunnel with
    fc := offer.fc
    bc := offer.bc
    firmware := firmwareRev.toNat
    hostname := offer.hostname
    vendor := vendorName
    tid := offer.tid.toNat
    rws := if 0 ≤ offer.rws then offer.rws else tunnel.rws }

def Message.stored (message : Message) (c : CallId) (tunnel : Tunnel) : Tunnel :=
  match message with
  | .sccrq offer challenge => (offer.stored tunnel).withChallenge challenge
  | .sccrp offer response challenge =>
      ((offer.stored tunnel).withReply response).withChallenge challenge
  | .scccn response => tunnel.withReply response
  | .stopccn tid result error message =>
      Tunnel.setCall { tunnel with qtid := tid.toNat } c fun call =>
        { call with result := result, error := error, errormsg := message }
  | .hello => tunnel
  | .icrq callid serno =>
      { tunnel with
        calls := match tunnel.calls with
          | [] => []
          | head :: calls =>
              { head with cid := callid.toNat, serno := serno, bearer := 0 } :: calls }
  | .icrp callid => tunnel.setCall c fun call => { call with cid := callid.toNat }
  | .iccn txspeed frame rxspeed =>
      tunnel.setCall c fun call =>
        { call with txspeed := txspeed, frame := frame, rxspeed := rxspeed }
  | .cdn result error message callid =>
      tunnel.setCall c fun call =>
        { call with
          result := result, error := error, errormsg := message, qcid := callid.toNat }

/-! ## The pieces of a message -/

/-- A C string that a text field holds. -/
def PlainText (octets : Bytes) : Prop := octets.length < 120 ∧ 0 ∉ octets

instance (octets : Bytes) : Decidable (PlainText octets) := inferInstanceAs (Decidable (_ ∧ _))

structure Offer.Fits (offer : Offer) : Prop where
  framing : offer.fc < 4
  bearer : offer.bc < 4
  hostname : PlainText offer.hostname
  window : offer.rws < 65536

/-- What a message can carry: short texts without a NUL, numbers that fit, and `Codes`. -/
def Message.Fits : Message → Prop
  | .sccrq offer _ => offer.Fits
  | .sccrp offer _ _ => offer.Fits
  | .scccn _ => True
  | .stopccn _ result error message => Codes 7 result error ∧ PlainText message
  | .hello => True
  | .icrq _ serno => serno < 2 ^ 32
  | .icrp _ => True
  | .iccn txspeed _ rxspeed =>
      (-2 ^ 31 ≤ txspeed ∧ txspeed < 2 ^ 31) ∧ (-2 ^ 31 ≤ rxspeed ∧ rxspeed < 2 ^ 31)
  | .cdn result error message _ => Codes 11 result error ∧ PlainText message

/-- What the sender's functions see to: the sizes of digests, and a frame type that is one. -/
def Message.Sized : Message → Prop
  | .sccrq _ challenge => ∀ value ∈ challenge, value.length = mdSigSize
  | .sccrp _ response challenge =>
      (∀ value ∈ response, value.length = mdSigSize) ∧
        ∀ value ∈ challenge, value.length = mdSigSize
  | .scccn response => ∀ value ∈ response, value.length = mdSigSize
  | .iccn _ frame _ => 0 ≤ frame ∧ frame < 65536
  | _ => True

def Offer.pieces (offer : Offer) : List Piece :=
  [⟨true, 2, netBytes ourL2tpVersion⟩, ⟨true, 3, netBytes 0 ++ netBytes (UInt16.ofNat offer.fc)⟩,
    ⟨true, 4, netBytes 0 ++ netBytes (UInt16.ofNat offer.bc)⟩, ⟨false, 6, netBytes firmwareRev⟩,
    ⟨true, 7, offer.hostname.take (maxAvpSize - 6)⟩, ⟨false, 8, vendorName⟩,
    ⟨true, 9, netBytes offer.tid⟩] ++
    if 0 ≤ offer.rws then [⟨true, 10, netBytes (UInt16.ofNat offer.rws.toNat)⟩] else []

def optionalPiece (attr : UInt16) (value : Option Bytes) : List Piece :=
  (value.map fun value => ⟨true, attr, value⟩).toList

def Message.pieces : Message → List Piece
  | .sccrq offer challenge => offer.pieces ++ optionalPiece 11 challenge
  | .sccrp offer response challenge =>
      offer.pieces ++ optionalPiece 13 response ++ optionalPiece 11 challenge
  | .scccn response => optionalPiece 13 response
  | .stopccn tid result error message =>
      [⟨true, 9, netBytes tid⟩, ⟨true, 1, resultValue result error message⟩]
  | .hello => []
  | .icrq callid serno =>
      [⟨true, 14, netBytes callid⟩, ⟨true, 15, netLong serno⟩, ⟨true, 18, netInt 0⟩]
  | .icrp callid => [⟨true, 14, netBytes callid⟩]
  | .iccn txspeed frame rxspeed =>
      [⟨true, 24, netInt txspeed⟩, ⟨true, 19, netInt frame⟩, ⟨false, 38, netInt rxspeed⟩]
  | .cdn result error message callid =>
      [⟨true, 1, resultValue result error message⟩, ⟨true, 14, netBytes callid⟩]

theorem optional_encode {add : Bytes → Bytes} {attr : UInt16}
    (encodes : ∀ value, add value = Piece.encode ⟨true, attr, value⟩) (value : Option Bytes) :
    optionalAvp add value = (optionalPiece attr value).flatMap Piece.encode := by
  cases value with
  | none => rfl
  | some value => simp [optionalAvp, optionalPiece, encodes]

theorem result_encode (result error : Int) (message : Bytes) :
    addResultCodeAvp result error message =
      Piece.encode ⟨true, 1, resultValue result error message⟩ := by
  have size : 6 + (resultValue result error message).length = 10 + message.length := by
    simp only [resultValue, List.length_append, net_bytes_length]
    omega
  rw [Piece.encode, Piece.length, if_pos rfl, size]
  simp only [addResultCodeAvp, addHeader, addNonmandatoryHeader, resultValue, List.append_assoc]

theorem Offer.encode (offer : Offer) : offer.avps = offer.pieces.flatMap Piece.encode := by
  have rws : (if 0 ≤ offer.rws then addAvpRws offer.rws else []) =
      (if 0 ≤ offer.rws then [(⟨true, 10, netBytes (UInt16.ofNat offer.rws.toNat)⟩ : Piece)]
        else []).flatMap Piece.encode := by
    split
    · rfl
    · rfl
  rw [Offer.avps, Offer.pieces, List.flatMap_append, rws]
  simp only [List.flatMap_cons, List.flatMap_nil, List.append_nil, List.append_assoc]
  rfl

theorem Message.encode (message : Message) :
    message.avps = message.pieces.flatMap Piece.encode := by
  have challenged (value : Option Bytes) : optionalAvp addChallengeAvp value =
      (optionalPiece 11 value).flatMap Piece.encode := optional_encode (fun _ => rfl) value
  have responded (value : Option Bytes) : optionalAvp addChalrespAvp value =
      (optionalPiece 13 value).flatMap Piece.encode := optional_encode (fun _ => rfl) value
  cases message with
  | sccrq offer challenge =>
    simp only [Message.avps, Message.pieces, List.flatMap_append, challenged,
      offer.encode]
  | sccrp offer response challenge =>
    simp only [Message.avps, Message.pieces, List.flatMap_append, challenged, responded,
      offer.encode]
  | scccn response => exact responded response
  | stopccn tid result error message | cdn result error message callid =>
    simp only [Message.avps, Message.pieces, result_encode, List.flatMap_cons, List.flatMap_nil,
      List.append_nil]
    rfl
  | _ => rfl

theorem Message.body_encode (message : Message) (vector : Option Bytes) :
    message.body vector = (typePiece message.type).encode ++
      (optionalPiece 36 vector ++ message.pieces).flatMap Piece.encode := by
  have drawn : optionalAvp addRandvectAvp vector =
      (optionalPiece 36 vector).flatMap Piece.encode := optional_encode (fun _ => rfl) vector
  rw [Message.body, drawn, Message.encode, List.flatMap_append, List.append_assoc]
  rfl

/-! ## The receiver -/

theorem Tunnel.setCall_setCall {tunnel : Tunnel} {c : CallId} {change second : Call → Call}
    (keeps : ∀ call, (change call).ref = call.ref) :
    (tunnel.setCall c change).setCall c second = tunnel.setCall c (second ∘ change) := by
  cases c with
  | self => rfl
  | call ref =>
    simp only [Tunnel.setCall]
    rw [Keyed.update_update keeps]

section Receiver

variable {env : Env} {t : TunnelRef} {c : CallId} {type : MsgType} {tunnel : Tunnel}
  {vector : Option Bytes}

theorem vector_chain (sized : ∀ value ∈ vector, value.length = vectorSize) :
    Chain env t c type (optionalPiece 36 vector) tunnel (tunnel.withVector vector) := by
  cases vector with
  | none => exact .nil tunnel
  | some vector =>
    have short : vector.length ≤ 1017 := by
      rw [sized vector rfl]
      decide
    exact .cons (randVector_takes vector short) (.nil _)

theorem challenge_chain {challenge : Option Bytes}
    (sized : ∀ value ∈ challenge, value.length = mdSigSize)
    (member : type ∈ [MsgType.SCCRP, .SCCRQ]) :
    Chain env t c type (optionalPiece 11 challenge) tunnel (tunnel.withChallenge challenge) := by
  cases challenge with
  | none => exact .nil tunnel
  | some challenge =>
    have short : challenge.length ≤ 1017 := by
      rw [sized challenge rfl]
      decide
    exact .cons (challenge_takes member challenge short) (.nil _)

theorem response_chain {response : Option Bytes}
    (digest : ∀ value ∈ response, value.length = mdSigSize)
    (member : type = .SCCRP ∨ type = .SCCCN) :
    Chain env t c type (optionalPiece 13 response) tunnel (tunnel.withReply response) := by
  cases response with
  | none => exact .nil tunnel
  | some response => exact .cons (chalresp_takes response (digest response rfl) member) (.nil _)

/-- What an offer stores apart from the window size, cut to the sizes of the fields. -/
def Offer.told (offer : Offer) (tunnel : Tunnel) : Tunnel :=
  { tunnel with
    fc := ((UInt16.ofNat offer.fc).toNat % 4 : Nat)
    bc := ((UInt16.ofNat offer.bc).toNat % 4 : Nat)
    firmware := firmwareRev.toNat
    hostname := cString maxText (offer.hostname.take (maxAvpSize - 6))
    vendor := vendorName
    tid := offer.tid.toNat }

def Offer.heard (offer : Offer) (tunnel : Tunnel) : Tunnel :=
  { offer.told tunnel with
    rws := if 0 ≤ offer.rws then ((UInt16.ofNat offer.rws.toNat).toNat : Int) else tunnel.rws }

theorem Offer.chain {offer : Offer} (member : type ∈ [MsgType.SCCRP, .SCCRQ]) :
    Chain env t c type offer.pieces tunnel (offer.heard tunnel) := by
  have name : (offer.hostname.take (maxAvpSize - 6)).length ≤ 1017 := List.length_take_le ..
  have first : Chain env t c type _ tunnel (offer.told tunnel) :=
    .cons (protocol_takes ourL2tpVersion) (.cons (framingCaps_takes member (UInt16.ofNat offer.fc))
      (.cons (bearerCaps_takes member (UInt16.ofNat offer.bc)) (.cons (firmware_takes member)
        (.cons (hostname_takes member _ name) (.cons (vendor_takes member)
          (.cons (tunnelid_takes member _) (.nil _)))))))
  refine first.append ?_
  unfold Offer.heard
  split
  · exact .cons (rws_takes member _) (.nil _)
  · exact .nil _

theorem Offer.heard_fits {offer : Offer} (fits : offer.Fits) :
    offer.heard tunnel = offer.stored tunnel := by
  have caps (value : Nat) (small : value < 4) : (UInt16.ofNat value).toNat % 4 = value := by
    rw [UInt16.toNat_ofNat']
    omega
  have name : cString maxText (offer.hostname.take (maxAvpSize - 6)) = offer.hostname := by
    have short : offer.hostname.length ≤ maxAvpSize - 6 :=
      Nat.le_trans (Nat.le_of_lt fits.hostname.1) (by decide)
    rw [List.take_of_length_le short]
    exact cString_whole (Nat.le_of_lt_succ fits.hostname.1) fits.hostname.2
  have window (sent : 0 ≤ offer.rws) :
      ((UInt16.ofNat offer.rws.toNat).toNat : Int) = offer.rws := by
    have bound := fits.window
    rw [UInt16.toNat_ofNat']
    omega
  unfold Offer.heard Offer.told Offer.stored
  rw [caps _ fits.framing, caps _ fits.bearer, name]
  split
  · rw [window ‹_›]
  · rfl

theorem Message.chain {message : Message} (fits : message.Fits) (sized : message.Sized)
    (addressed : message.type = .ICRQ → c = .self ∧ tunnel.calls ≠ []) :
    Chain env t c message.type message.pieces tunnel (message.stored c tunnel) := by
  have reply : MsgType.SCCRP ∈ [MsgType.SCCRP, .SCCRQ] := by decide
  have request : MsgType.SCCRQ ∈ [MsgType.SCCRP, .SCCRQ] := by decide
  cases message with
  | sccrq offer challenge =>
    rw [Message.stored, ← Offer.heard_fits fits]
    exact (Offer.chain request).append (challenge_chain sized request)
  | sccrp offer response challenge =>
    rw [Message.stored, ← Offer.heard_fits fits]
    exact ((Offer.chain reply).append (response_chain sized.1 (.inl rfl))).append
      (challenge_chain sized.2 reply)
  | scccn response => exact response_chain sized (.inr rfl)
  | stopccn tid result error message =>
    obtain ⟨codes, room, plain⟩ := fits
    exact .cons (closingTunnelid_takes tid)
      (.cons (resultCode_takes codes (Nat.le_of_lt_succ room) plain (.inl ⟨rfl, rfl⟩)) (.nil _))
  | hello => exact .nil _
  | icrq callid serno =>
    obtain ⟨rfl, some⟩ := addressed rfl
    obtain ⟨head, calls, first⟩ := List.exists_cons_of_ne_nil some
    simp only [Message.stored, first]
    exact .cons (newCallid_takes callid first) (.cons (serno_takes serno fits rfl)
      (.cons (bearer_takes rfl) (.nil _)))
  | icrp callid => exact .cons (callid_takes callid) (.nil _)
  | iccn txspeed frame rxspeed =>
    obtain ⟨tx, rx⟩ := fits
    have together : Message.stored (.iccn txspeed frame rxspeed) c tunnel =
        ((tunnel.setCall c fun call => { call with txspeed := txspeed }).setCall c fun call =>
          { call with frame := frame }).setCall c fun call =>
            { call with rxspeed := rxspeed } := by
      rw [Tunnel.setCall_setCall, Tunnel.setCall_setCall]
      · rfl
      · exact fun _ => rfl
      · exact fun _ => rfl
    rw [together]
    exact .cons (txspeed_takes txspeed tx) (.cons (frame_takes frame sized)
      (.cons (rxspeed_takes rxspeed rx) (.nil _)))
  | cdn result error message callid =>
    have together : Message.stored (.cdn result error message callid) c tunnel =
        (tunnel.setCall c fun call =>
          { call with result := result, error := error, errormsg := message }).setCall c
            fun call => { call with qcid := callid.toNat } := by
      rw [Tunnel.setCall_setCall]
      · rfl
      · exact fun _ => rfl
    obtain ⟨codes, room, plain⟩ := fits
    rw [together]
    exact .cons (resultCode_takes codes (Nat.le_of_lt_succ room) plain (.inr ⟨rfl, rfl⟩))
      (.cons (closingCallid_takes callid) (.nil _))

theorem Opened.calls {opened : Tunnel} (opens : Opened .ICRQ c tunnel opened) :
    opened.calls ≠ [] := by
  rw [Opened, if_pos rfl] at opens
  obtain ⟨ref, ourcid, rfl⟩ := opens
  exact List.cons_ne_nil _ _

/-- A receiver in a matching state takes a message if its handlers take what follows the type. -/
theorem Message.received {message : Message} {header : ControlHdr} {datagram : Datagram}
    {call : Call} {state : Daemon} {after : Tunnel → Tunnel}
    (whole : ∀ value ∈ vector, value.length = vectorSize) (version : header.ver = controlVer)
    (layout : datagram.bytes = header.encode ++ message.body vector)
    (found : state.tunnel? t = some tunnel) (foundCall : tunnel.call? c = some call)
    (matching : admitted tunnel.state c call.state message.type = true)
    (handles : ∀ opened, Opened message.type c tunnel opened →
      Chain env t c message.type message.pieces (opened.withVector vector) (after opened)) :
    ∃ opened final, Opened message.type c tunnel opened ∧
      handleAvps env t c datagram.buffer state = .ok true final ∧
      Holds t c message.type (after opened) final := by
  obtain ⟨opened, opens, ready⟩ : ∃ opened, Opened message.type c tunnel opened ∧
      Opens env t c message.type state opened := messageTypeAvp_opens found foundCall matching
  have chain : Chain env t c message.type (optionalPiece 36 vector ++ message.pieces) opened
      (after opened) := (vector_chain whole).append (handles opened opens)
  have behind : datagram.buffer.bytes.drop controlHdrSize =
      (typePiece message.type).encode ++
        ((optionalPiece 36 vector ++ message.pieces).flatMap Piece.encode ++ datagram.stale) := by
    have read := (fix_hdr_encode header (message.body vector ++ datagram.stale) version).2
    rw [Datagram.buffer, layout, List.append_assoc]
    rw [read, Message.body_encode, List.append_assoc]
  have size : datagram.buffer.len = controlHdrSize + (typePiece message.type).encode.length +
      ((optionalPiece 36 vector ++ message.pieces).flatMap Piece.encode).length := by
    have long : header.encode.length = controlHdrSize := rfl
    have len : datagram.buffer.len = datagram.bytes.length := rfl
    rw [len, layout, List.length_append, long, Message.body_encode, List.length_append]
    omega
  obtain ⟨final, handled, held⟩ := handleAvps_chain behind size ready chain
  exact ⟨opened, final, opens, handled, held⟩

theorem Opened.addressed {opened : Tunnel} {call : Call} (opens : Opened type c tunnel opened)
    (matching : admitted tunnel.state c call.state type = true) (incoming : type = .ICRQ) :
    c = .self ∧ (opened.withVector vector).calls ≠ [] := by
  subst incoming
  simp only [admitted, admits, Bool.and_eq_true, decide_eq_true_eq] at matching
  have kept : (opened.withVector vector).calls = opened.calls := by
    cases vector <;> rfl
  rw [kept]
  exact ⟨matching.2.2, opens.calls⟩

end Receiver

end Xl2tpd
