import Xl2tpd.Simulation
import Xl2tpd.Hiding
import Xl2tpd.Packet
import Mathlib.Data.List.TakeWhile

/-!
# The AVPs of a message, one by one

Each AVP that the sender appends is given to one handler of the receiver. A message is
a list of such pieces, and its handlers change the tunnel one after the other.
-/

namespace Xl2tpd

set_option autoImplicit false

open Program

variable {after : Tunnel} {head : Call} {least mandatory : Bool} {attr : UInt16} {value : Bytes}
  {appropriate : List MsgType} {field : String} {size : Nat}

/-! ## One AVP -/

/-- An AVP as the functions of `avpsend.c` lay it out. -/
structure Piece where
  mandatory : Bool
  attr : UInt16
  value : Bytes
  deriving DecidableEq, Repr

def Piece.length (piece : Piece) : UInt16 :=
  if piece.mandatory then UInt16.ofNat (6 + piece.value.length) ||| mbit
  else UInt16.ofNat (6 + piece.value.length)

def Piece.encode (piece : Piece) : Bytes :=
  netBytes piece.length ++ netBytes 0 ++ netBytes piece.attr ++ piece.value

def Piece.data (piece : Piece) (rest : Bytes) : Bytes :=
  hostBytes piece.length ++ (hostBytes 0 ++ (hostBytes piece.attr ++ (piece.value ++ rest)))

theorem Piece.encode_length (piece : Piece) : piece.encode.length = 6 + piece.value.length := by
  simp only [Piece.encode, List.length_append, net_bytes_length]

theorem Piece.swaps_encode (piece : Piece) (rest : Bytes) :
    swaps 3 (piece.encode ++ rest) = piece.data rest := by
  simp [Piece.encode, Piece.data, netBytes, hostBytes, swaps]

theorem Piece.data_words (piece : Piece) (rest : Bytes) :
    hostWord (piece.data rest) 0 = piece.length ∧ hostWord (piece.data rest) 4 = piece.attr := by
  simp only [Piece.data, host_word_zero, host_word_succ _ _ 2, host_word_succ _ _ 0, and_self]

theorem Piece.data_drop (piece : Piece) (rest : Bytes) :
    (piece.data rest).drop 6 = piece.value ++ rest := rfl

theorem Piece.data_word (piece : Piece) (rest : Bytes) (index : Nat) :
    avpWord (piece.data rest) (3 + index) = avpWord (piece.value ++ rest) index := by
  unfold avpWord
  rw [show 2 * (3 + index) = 2 * index + 2 + 2 + 2 by omega]
  rfl

theorem Piece.length_bits (piece : Piece) (short : piece.value.length ≤ 1017) :
    alength piece.length = 6 + piece.value.length ∧ ambit piece.length = piece.mandatory ∧
      azbits piece.length = false ∧ ahbit piece.length = false := by
  have low := length_low (6 + piece.value.length) (by omega)
  have clear (mask : UInt16) (outside : 0x03FF &&& mask = 0) :
      UInt16.ofNat (6 + piece.value.length) &&& mask = 0 := by
    rw [length_and _ mask (by omega), outside, UInt16.and_zero]
  have value : (UInt16.ofNat (6 + piece.value.length)).toNat = 6 + piece.value.length := by
    rw [UInt16.toNat_ofNat']
    omega
  unfold Piece.length
  cases piece.mandatory with
  | false =>
    simp only [Bool.false_eq_true, if_false, alength, ambit, azbits, ahbit, low, value,
      clear 0x8000 rfl, clear 0x3C00 rfl, clear 0x4000 rfl, bne_self_eq_false, and_self]
  | true =>
    simp only [if_true, alength, ambit, azbits, ahbit, word_or_and, low, clear 0x8000 rfl,
      clear 0x3C00 rfl, clear 0x4000 rfl, UInt16.zero_or]
    refine ⟨?_, rfl, rfl, rfl⟩
    rw [show mbit &&& 0x03FF = 0 from rfl, UInt16.or_zero, value]

/-! ## The loop -/

section Loop

variable {env : Env} {t : TunnelRef} {c : CallId} {type : MsgType} {state : Daemon}

theorem handleAvp_piece (first : Bool) (len : Int) (piece : Piece) {rest : Bytes}
    {handler : Handler} {after : Daemon} (short : piece.value.length ≤ 1017)
    (inside : (6 + piece.value.length : Nat) ≤ len) (known : piece.attr.toNat ≤ avpMax)
    (order : piece.attr.toNat = 0 ∨ first = false)
    (table : avpHandler env piece.attr.toNat = some handler)
    (ran : handler t c (piece.data rest) (6 + piece.value.length) state = .ok true after) :
    ∃ final, handleAvp env t c first (piece.encode ++ rest) len state =
        .ok (.next rest (len - (6 + piece.value.length : Nat))) final ∧
      final.tunnels = after.tunnels := by
  obtain ⟨length, mandatory, reserved, hidden⟩ := piece.length_bits short
  obtain ⟨head, attr⟩ := piece.data_words rest
  have skipped : skipAvp (piece.data rest) len (6 + piece.value.length) =
      .next rest (len - (6 + piece.value.length : Nat)) := by
    have behind : (piece.data rest).drop (6 + piece.value.length) = rest := by
      rw [← List.drop_drop, piece.data_drop, List.drop_left]
    rw [skipAvp, if_neg (by omega), behind]
  have fits : ¬ (6 + piece.value.length : Nat) > len := by omega
  have opening : ¬ (piece.attr.toNat ≠ 0 ∧ first = true) := by
    rintro ⟨other, early⟩
    rcases order with zero | late
    · exact other zero
    · rw [late] at early
      cases early
  have dispatched : handleAvp env t c first (piece.encode ++ rest) len state =
      dispatchAvp env t c (piece.data rest) len (6 + piece.value.length) state := by
    unfold handleAvp
    simp only [piece.swaps_encode, head, attr, length, reserved, hidden]
    rw [if_neg (by omega), if_neg fits, if_neg opening, if_neg (by omega), if_neg (by simp),
      if_neg (by simp)]
  rw [dispatched]
  unfold dispatchAvp
  simp only [head, attr, length, mandatory, table]
  rw [bind_run ran]
  obtain ⟨noted, note, same⟩ : ∃ noted, whenever (decide (piece.attr.toNat = 0))
      (emit (.verdict t c (MsgType.ofNat (avpWord (piece.data rest) 3).toNat) piece.mandatory true))
        after = .ok () noted ∧ noted.tunnels = after.tunnels := by
    unfold whenever
    split
    · exact ⟨_, rfl, rfl⟩
    · exact ⟨_, rfl, rfl⟩
  refine ⟨noted, ?_, same⟩
  rw [bind_run note, if_neg (by simp), skipped]
  rfl

/-- The tunnel as the receiver has it, in the middle of a message of a type. -/
structure Holds (t : TunnelRef) (c : CallId) (type : MsgType) (tunnel : Tunnel)
    (state : Daemon) : Prop where
  found : state.tunnel? t = some tunnel
  typed : (tunnel.call? c).map Call.msgtype = some (some type)

theorem Holds.of_tunnels {tunnel : Tunnel} {after : Daemon} (holds : Holds t c type tunnel state)
    (same : after.tunnels = state.tunnels) : Holds t c type tunnel after := by
  refine ⟨?_, holds.typed⟩
  rw [← holds.found]
  simp only [Daemon.tunnel?, same]

/-- The handler of a piece takes it and leaves the tunnel changed. -/
structure Takes (env : Env) (t : TunnelRef) (c : CallId) (type : MsgType) (piece : Piece)
    (before after : Tunnel) : Prop where
  short : piece.value.length ≤ 1017
  known : piece.attr.toNat ≤ avpMax
  later : piece.attr.toNat ≠ 0
  ran : ∃ handler, avpHandler env piece.attr.toNat = some handler ∧
    ∀ state rest, Holds t c type before state →
      ∃ next, handler t c (piece.data rest) (6 + piece.value.length) state = .ok true next ∧
        Holds t c type after next

inductive Chain (env : Env) (t : TunnelRef) (c : CallId) (type : MsgType) :
    List Piece → Tunnel → Tunnel → Prop
  | nil (tunnel : Tunnel) : Chain env t c type [] tunnel tunnel
  | cons {piece : Piece} {pieces : List Piece} {before between after : Tunnel}
      (takes : Takes env t c type piece before between)
      (rest : Chain env t c type pieces between after) :
      Chain env t c type (piece :: pieces) before after

theorem Chain.append {first second : List Piece} {before between : Tunnel}
    (one : Chain env t c type first before between)
    (other : Chain env t c type second between after) :
    Chain env t c type (first ++ second) before after := by
  induction one with
  | nil tunnel => exact other
  | cons takes _ induction => exact .cons takes (induction other)

theorem handleAvpsLoop_chain {pieces : List Piece} {before : Tunnel} {fuel : Nat} {stale : Bytes}
    (chain : Chain env t c type pieces before after) (enough : pieces.length ≤ fuel)
    (holds : Holds t c type before state) :
    ∃ final, handleAvpsLoop env t c fuel false (pieces.flatMap Piece.encode ++ stale)
        (pieces.flatMap Piece.encode).length state = .ok true final ∧
      Holds t c type after final := by
  induction chain generalizing state fuel with
  | nil tunnel =>
    refine ⟨state, ?_, holds⟩
    cases fuel <;> rfl
  | @cons piece pieces before between after takes _ induction =>
    cases fuel with
    | zero => simp at enough
    | succ fuel =>
      obtain ⟨handler, table, ran⟩ := takes.ran
      obtain ⟨next, handled, held⟩ := ran state (pieces.flatMap Piece.encode ++ stale) holds
      have size : ((piece :: pieces).flatMap Piece.encode).length =
          6 + piece.value.length + (pieces.flatMap Piece.encode).length := by
        rw [List.flatMap_cons, List.length_append, piece.encode_length]
      obtain ⟨done, round, same⟩ := handleAvp_piece false
        ((piece :: pieces).flatMap Piece.encode).length piece takes.short (by rw [size]; omega)
        takes.known (.inr rfl) table handled
      obtain ⟨final, loop, last⟩ := induction (by simpa using enough) (held.of_tunnels same)
      refine ⟨final, ?_, last⟩
      have more : ¬ (((piece :: pieces).flatMap Piece.encode).length : Int) ≤ 0 := by
        rw [size]
        omega
      rw [handleAvpsLoop, if_neg more, List.flatMap_cons, List.append_assoc]
      rw [List.flatMap_cons] at round
      rw [bind_run round]
      have left : ((piece.encode ++ pieces.flatMap Piece.encode).length : Int) -
          (6 + piece.value.length : Nat) = (pieces.flatMap Piece.encode).length := by
        rw [List.length_append, piece.encode_length]
        omega
      simp only [left]
      exact loop

theorem pieces_length (pieces : List Piece) :
    pieces.length ≤ (pieces.flatMap Piece.encode).length := by
  induction pieces with
  | nil => exact Nat.le_refl _
  | cons piece pieces induction =>
    rw [List.flatMap_cons, List.length_append, piece.encode_length, List.length_cons]
    omega

def typePiece (type : MsgType) : Piece := ⟨true, 0, netBytes (UInt16.ofNat type.toNat)⟩

/-- The receiver of a message, before it and behind its type. -/
structure Opens (env : Env) (t : TunnelRef) (c : CallId) (type : MsgType) (state : Daemon)
    (opened : Tunnel) : Prop where
  ran : ∀ rest, ∃ next, messageTypeAvp env t c ((typePiece type).data rest) 8 state =
    .ok true next ∧ Holds t c type opened next

theorem handleAvps_chain {buffer : RecvBuf} {pieces : List Piece} {stale : Bytes} {opened : Tunnel}
    (layout : buffer.bytes.drop controlHdrSize =
      (typePiece type).encode ++ (pieces.flatMap Piece.encode ++ stale)) (size : buffer.len =
      controlHdrSize + (typePiece type).encode.length + (pieces.flatMap Piece.encode).length)
    (opens : Opens env t c type state opened) (chain : Chain env t c type pieces opened after) :
    ∃ final, handleAvps env t c buffer state = .ok true final ∧ Holds t c type after final := by
  obtain ⟨next, handled, held⟩ := opens.ran (pieces.flatMap Piece.encode ++ stale)
  have eight : (typePiece type).encode.length = 8 := rfl
  have len : (buffer.len : Int) - controlHdrSize =
      (8 + (pieces.flatMap Piece.encode).length : Nat) := by omega
  have two : (typePiece type).value.length = 2 := rfl
  obtain ⟨done, round, same⟩ := handleAvp_piece true
    (8 + (pieces.flatMap Piece.encode).length : Nat) (typePiece type) (by omega) (by omega)
    (Nat.zero_le _) (.inl rfl) rfl handled
  have each := pieces_length pieces
  obtain ⟨final, loop, last⟩ := handleAvpsLoop_chain chain
    (show pieces.length ≤ 8 + (pieces.flatMap Piece.encode).length by omega)
    (held.of_tunnels same)
  refine ⟨final, ?_, last⟩
  have more : ¬ ((8 + (pieces.flatMap Piece.encode).length : Nat) : Int) ≤ 0 := by omega
  unfold handleAvps
  simp only [len, layout, Int.toNat_natCast]
  rw [handleAvpsLoop, if_neg more, bind_run round]
  have left : ((8 + (pieces.flatMap Piece.encode).length : Nat) : Int) -
      (6 + (typePiece type).value.length : Nat) = (pieces.flatMap Piece.encode).length := by
    omega
  simp only [left]
  exact loop

end Loop

/-! ## The handlers -/

theorem avp_word_zero (value : UInt16) (rest : Bytes) :
    avpWord (netBytes value ++ rest) 0 = value := by
  simp [avpWord, netWord, netBytes, word_net_bytes]

theorem avp_word_succ (value : UInt16) (rest : Bytes) (index : Nat) :
    avpWord (netBytes value ++ rest) (index + 1) = avpWord rest index := rfl

section Handlers

variable {env : Env} {t : TunnelRef} {c : CallId} {type : MsgType} {tunnel : Tunnel}
  {state : Daemon} {calls : List Call} {limit result error : Int}

theorem Holds.call (holds : Holds t c type tunnel state) :
    ∃ call, tunnel.call? c = some call ∧ state.call? t c = some call ∧
      call.msgtype = some type := by
  obtain ⟨call, found, typed⟩ := Option.map_eq_some_iff.mp holds.typed
  exact ⟨call, found, some_call holds.found found, typed⟩

theorem Holds.writeTunnel (holds : Holds t c type tunnel state) (change : Tunnel → Tunnel)
    (keeps : ∀ tunnel, (change tunnel).ref = tunnel.ref)
    (same : (change tunnel).call? c = tunnel.call? c) :
    ∃ next, writeTunnel t change state = .ok () next ∧ Holds t c type (change tunnel) next := by
  refine ⟨_, writeTunnel_run holds.found, ?_, ?_⟩
  · rw [tunnel_setTunnel keeps, holds.found]
    rfl
  · rw [same]
    exact holds.typed

theorem Holds.writeCall (holds : Holds t c type tunnel state) (change : Call → Call)
    (keeps : ∀ call, (change call).ref = call.ref)
    (typed : ∀ call, (change call).msgtype = call.msgtype) :
    ∃ next, writeCall t c change state = .ok () next ∧
      Holds t c type (tunnel.setCall c change) next := by
  obtain ⟨call, found, foundCall, _⟩ := holds.call
  refine ⟨_, writeCall_run foundCall, tunnel_setCall holds.found, ?_⟩
  have same := holds.typed
  rw [found] at same
  rw [Tunnel.call_setCall keeps, found, Option.map_some, Option.map_some, typed call]
  exact same

theorem Holds.writeHead (holds : Holds t .self type tunnel state) (change : Call → Call)
    (first : tunnel.calls = head :: calls) :
    ∃ next, writeHead t change state = .ok () next ∧
      Holds t .self type { tunnel with calls := change head :: calls } next := by
  have changed : tunnel.setCall (.call head.ref) change =
      { tunnel with calls := change head :: calls } := by
    simp only [Tunnel.setCall, first, Keyed.update, if_true]
  have here : callHead t state = .ok (.call head.ref) state := by
    unfold callHead
    rw [bind_run (readTunnel_run holds.found), first]
    rfl
  have foundCall : state.call? t (.call head.ref) = some head := by
    apply some_call holds.found
    simp [Tunnel.call?, first, Keyed.find]
  refine ⟨_, (bind_run here).trans (writeCall_run foundCall), ?_, holds.typed⟩
  rw [← changed]
  exact tunnel_setCall holds.found

section Handling

variable (count : Nat) (known : attr.toNat ≤ avpMax ∧ attr.toNat ≠ 0)
  (counted : value.length = count) (short : count ≤ 1017)

include known counted short

theorem takes_handler {handler : Handler} (table : avpHandler env attr.toNat = some handler)
    (ran : ∀ state rest, Holds t c type tunnel state →
      ∃ next, handler t c (Piece.data ⟨mandatory, attr, value⟩ rest) (6 + count) state =
        .ok true next ∧ Holds t c type after next) :
    Takes env t c type ⟨mandatory, attr, value⟩ tunnel after := by
  subst counted
  exact ⟨short, known.1, known.2, handler, table, ran⟩

section Storing

variable (sized : if least then size ≤ 6 + count else 6 + count = size) (member : type ∈ appropriate)

include sized member

theorem storeAvp_takes {store : TunnelRef → CallId → Bytes → Nat → Prog Unit}
    (table : avpHandler env attr.toNat = some (storeAvp appropriate field size least store))
    (stores : ∀ state rest, Holds t c type tunnel state →
      ∃ next, store t c (Piece.data ⟨mandatory, attr, value⟩ rest) (6 + count) state =
        .ok () next ∧ Holds t c type after next) :
    Takes env t c type ⟨mandatory, attr, value⟩ tunnel after := by
  refine takes_handler count known counted short table fun state rest holds => ?_
  obtain ⟨call, _, foundCall, typed⟩ := holds.call
  obtain ⟨next, stored, held⟩ := stores state rest holds
  have belongs : ¬ (!(appropriate.map some).contains call.msgtype) = true := by
    simpa [typed] using member
  have right : ¬ (if least then 6 + count < size else 6 + count ≠ size) := by
    cases least with
    | false => simpa using sized
    | true => simpa using sized
  refine ⟨next, ?_, held⟩
  unfold storeAvp
  rw [bind_run (readCall_run foundCall), if_neg belongs]
  simp only [if_neg right]
  rw [bind_run stored]
  rfl

theorem storeAvp_tunnel {change : Bytes → Nat → Tunnel → Tunnel}
    (table : avpHandler env attr.toNat = some (storeAvp appropriate field size least
      fun t _ data datalen => writeTunnel t (change data datalen)))
    (keeps : ∀ data datalen tunnel, (change data datalen tunnel).ref = tunnel.ref)
    (same : ∀ data datalen, (change data datalen tunnel).call? c = tunnel.call? c)
    (changes : ∀ rest, change (Piece.data ⟨mandatory, attr, value⟩ rest) (6 + count) tunnel =
      after) :
    Takes env t c type ⟨mandatory, attr, value⟩ tunnel after := by
  refine storeAvp_takes count known counted short sized member table fun state rest holds => ?_
  rw [← changes rest]
  exact holds.writeTunnel _ (keeps _ _) (same _ _)

theorem storeAvp_call {change : Bytes → Nat → Call → Call} {stored : Call → Call}
    (table : avpHandler env attr.toNat = some (storeAvp appropriate field size least
      fun t c data datalen => writeCall t c (change data datalen)))
    (keeps : ∀ call, (stored call).ref = call.ref)
    (typed : ∀ call, (stored call).msgtype = call.msgtype)
    (changes : ∀ rest, change (Piece.data ⟨mandatory, attr, value⟩ rest) (6 + count) = stored) :
    Takes env t c type ⟨mandatory, attr, value⟩ tunnel (tunnel.setCall c stored) := by
  refine storeAvp_takes count known counted short sized member table fun state rest holds => ?_
  rw [changes rest]
  exact holds.writeCall _ keeps typed

end Storing

end Handling

theorem data_word_zero (mandatory : Bool) (attr value : UInt16) (rest : Bytes) :
    avpWord (Piece.data ⟨mandatory, attr, netBytes value⟩ rest) 3 = value := by
  rw [Piece.data_word _ _ 0, avp_word_zero]

theorem data_words_two (mandatory : Bool) (attr high low : UInt16) (rest : Bytes) :
    avpWord (Piece.data ⟨mandatory, attr, netBytes high ++ netBytes low⟩ rest) 3 = high ∧
      avpWord (Piece.data ⟨mandatory, attr, netBytes high ++ netBytes low⟩ rest) 4 = low := by
  rw [Piece.data_word _ _ 0, Piece.data_word _ _ 1, List.append_assoc, avp_word_zero,
    avp_word_succ, avp_word_zero]
  exact ⟨rfl, rfl⟩

theorem cString_append (room : Nat) (value rest : Bytes) :
    cString (min value.length room) (value ++ rest) = cString room value := by
  rw [cString, cString]
  by_cases long : room ≤ value.length
  · rw [Nat.min_eq_right long, List.take_append_of_le_length long]
  · have short : value.length ≤ room := Nat.le_of_not_le long
    rw [Nat.min_eq_left short, List.take_left, List.take_of_length_le short]

theorem data_text (mandatory : Bool) (attr : UInt16) (value rest : Bytes) :
    avpText (Piece.data ⟨mandatory, attr, value⟩ rest) (6 + value.length) =
      cString maxText value := by
  rw [avpText, Piece.data_drop, Nat.add_sub_cancel_left, cString_append]

theorem cString_whole (fits : value.length ≤ maxText) (plain : 0 ∉ value) :
    cString maxText value = value := by
  rw [cString, List.take_of_length_le fits]
  exact List.takeWhile_eq_self_iff.mpr fun octet member => by
    simp only [decide_eq_true_eq]
    rintro rfl
    exact plain member

section Offering

variable (member : type ∈ [MsgType.SCCRP, .SCCRQ])

include member

theorem framingCaps_takes (caps : UInt16) :
    Takes env t c type ⟨true, 3, netBytes 0 ++ netBytes caps⟩ tunnel
      { tunnel with fc := (caps.toNat % 4 : Nat) } := by
  refine storeAvp_tunnel 4 (by decide) rfl (by decide) (by decide) member rfl
    (fun _ _ _ => rfl) (fun _ _ => by cases c <;> rfl) fun rest => ?_
  simp only [data_words_two]

theorem bearerCaps_takes (caps : UInt16) :
    Takes env t c type ⟨true, 4, netBytes 0 ++ netBytes caps⟩ tunnel
      { tunnel with bc := (caps.toNat % 4 : Nat) } := by
  refine storeAvp_tunnel 4 (by decide) rfl (by decide) (by decide) member rfl
    (fun _ _ _ => rfl) (fun _ _ => by cases c <;> rfl) fun rest => ?_
  simp only [data_words_two]

theorem firmware_takes :
    Takes env t c type ⟨false, 6, netBytes firmwareRev⟩ tunnel
      { tunnel with firmware := firmwareRev.toNat } := by
  refine storeAvp_tunnel 2 (by decide) rfl (by decide) (by decide) member rfl
    (fun _ _ _ => rfl) (fun _ _ => by cases c <;> rfl) fun rest => ?_
  simp only [data_word_zero]

theorem hostname_takes (name : Bytes) (short : name.length ≤ 1017)
    :
    Takes env t c type ⟨true, 7, name⟩ tunnel
      { tunnel with hostname := cString maxText name } := by
  refine storeAvp_tunnel _ (by decide) rfl short (Nat.le_add_right _ _) member rfl
    (fun _ _ _ => rfl) (fun _ _ => by cases c <;> rfl) fun rest => ?_
  rw [data_text true 7 name rest]

theorem vendor_takes :
    Takes env t c type ⟨false, 8, vendorName⟩ tunnel { tunnel with vendor := vendorName } := by
  refine storeAvp_tunnel _ (by decide) rfl (by decide) (by decide) member rfl
    (fun _ _ _ => rfl) (fun _ _ => by cases c <;> rfl) fun rest => ?_
  rw [data_text false 8 vendorName rest, cString_whole (by decide) (by decide)]

theorem rws_takes (rws : UInt16) :
    Takes env t c type ⟨true, 10, netBytes rws⟩ tunnel { tunnel with rws := rws.toNat } := by
  have wider : type ∈ [MsgType.SCCRP, .SCCRQ, .OCRP, .OCCN, .StopCCN] :=
    List.mem_append_left [MsgType.OCRP, .OCCN, .StopCCN] member
  refine storeAvp_tunnel 2 (by decide) rfl (by decide) (by decide) wider rfl
    (fun _ _ _ => rfl) (fun _ _ => by cases c <;> rfl) fun rest => ?_
  simp only [data_word_zero]

theorem challenge_takes (challenge : Bytes) (short : challenge.length ≤ 1017)
    :
    Takes env t c type ⟨true, 11, challenge⟩ tunnel
      { tunnel with
        chalUs := { tunnel.chalUs with challenge := some challenge, challenged := true } } := by
  refine storeAvp_tunnel _ (by decide) rfl short (Nat.le_add_right _ _) member rfl
    (fun _ _ _ => rfl) (fun _ _ => by cases c <;> rfl) fun rest => ?_
  simp only [Piece.data_drop, Nat.add_sub_cancel_left, List.take_left]

theorem tunnelid_takes (tid : UInt16) :
    Takes env t c type ⟨true, 9, netBytes tid⟩ tunnel { tunnel with tid := tid.toNat } := by
  have other : type ≠ .StopCCN := by
    rintro rfl
    simp at member
  have wider : type ∈ [MsgType.SCCRP, .SCCRQ, .StopCCN] :=
    List.mem_append_left [MsgType.StopCCN] member
  refine storeAvp_takes 2 (by decide) rfl (by decide) (by decide) wider rfl
    fun state rest holds => ?_
  obtain ⟨call, _, foundCall, typed⟩ := holds.call
  rw [bind_run (readCall_run foundCall)]
  simp only [typed, Option.some.injEq, if_neg other, data_word_zero]
  exact holds.writeTunnel _ (fun _ => rfl) (by cases c <;> rfl)

end Offering

theorem randVector_takes (vector : Bytes) (short : vector.length ≤ 1017) :
    Takes env t c type ⟨true, 36, vector⟩ tunnel
      { tunnel with chalUs := { tunnel.chalUs with vector := some vector } } := by
  refine takes_handler _ (by decide) rfl short rfl fun state rest holds => ?_
  obtain ⟨head, _⟩ := Piece.data_words ⟨true, 36, vector⟩ rest
  obtain ⟨length, _⟩ := Piece.length_bits ⟨true, 36, vector⟩ short
  have size : ((alength (hostWord (Piece.data ⟨true, 36, vector⟩ rest) 0) : Int) - 6) =
      vector.length := by
    rw [head, length]
    simp only [Int.natCast_add]
    omega
  obtain ⟨next, ran, held⟩ := holds.writeTunnel
    (fun tunnel => { tunnel with chalUs := { tunnel.chalUs with vector := some vector } })
    (fun _ => rfl) (by cases c <;> rfl)
  refine ⟨next, ?_, held⟩
  unfold randVectorAvp
  simp only [size, Int.toNat_natCast, Piece.data_drop, List.take_left]
  rw [if_neg (by unfold maxVectorSize; omega), bind_run ran]
  rfl

theorem protocol_takes (version : UInt16) :
    Takes env t c type ⟨true, 2, netBytes version⟩ tunnel tunnel :=
  takes_handler 2 (by decide) rfl (by decide) rfl fun state _ holds => ⟨state, rfl, holds⟩

theorem chalresp_takes (response : Bytes) (digest : response.length = mdSigSize)
    (member : type = .SCCRP ∨ type = .SCCCN) :
    Takes env t c type ⟨true, 13, response⟩ tunnel
      { tunnel with chalThem := { tunnel.chalThem with reply := response } } := by
  refine takes_handler _ (by decide) digest (by decide) rfl fun state rest holds => ?_
  obtain ⟨call, _, foundCall, typed⟩ := holds.call
  obtain ⟨next, ran, held⟩ := holds.writeTunnel
    (fun tunnel => { tunnel with chalThem := { tunnel.chalThem with reply := response } })
    (fun _ => rfl) (by cases c <;> rfl)
  have belongs : ¬ (call.msgtype ≠ some .SCCRP ∧ call.msgtype ≠ some .SCCCN) := by
    rw [typed]
    rcases member with rfl | rfl <;> simp
  have whole : (response ++ rest).take mdSigSize = response := by
    rw [← digest, List.take_left]
  refine ⟨next, ?_, held⟩
  unfold chalrespAvp
  rw [bind_run (readCall_run foundCall), if_neg belongs, if_neg (by decide), if_neg (by decide),
    Piece.data_drop, whole, bind_run ran]
  rfl

theorem closingTunnelid_takes (tid : UInt16) :
    Takes env t c .StopCCN ⟨true, 9, netBytes tid⟩ tunnel { tunnel with qtid := tid.toNat } := by
  refine storeAvp_takes 2 (by decide) rfl (by decide) (by decide) (by decide) rfl
    fun state rest holds => ?_
  obtain ⟨call, _, foundCall, typed⟩ := holds.call
  rw [bind_run (readCall_run foundCall)]
  simp only [typed, if_true, data_word_zero]
  exact holds.writeTunnel _ (fun _ => rfl) (by cases c <;> rfl)

theorem callid_takes (callid : UInt16) :
    Takes env t c .ICRP ⟨true, 14, netBytes callid⟩ tunnel
      (tunnel.setCall c fun call => { call with cid := callid.toNat }) := by
  refine storeAvp_takes 2 (by decide) rfl (by decide) (by decide) (by decide) rfl
    fun state rest holds => ?_
  obtain ⟨call, _, foundCall, typed⟩ := holds.call
  rw [bind_run (readCall_run foundCall)]
  simp only [typed, data_word_zero]
  exact holds.writeCall _ (fun _ => rfl) (fun _ => rfl)

theorem closingCallid_takes (callid : UInt16) :
    Takes env t c .CDN ⟨true, 14, netBytes callid⟩ tunnel
      (tunnel.setCall c fun call => { call with qcid := callid.toNat }) := by
  refine storeAvp_takes 2 (by decide) rfl (by decide) (by decide) (by decide) rfl
    fun state rest holds => ?_
  obtain ⟨call, _, foundCall, typed⟩ := holds.call
  rw [bind_run (readCall_run foundCall)]
  simp only [typed, data_word_zero]
  exact holds.writeCall _ (fun _ => rfl) (fun _ => rfl)

theorem newCallid_takes (callid : UInt16) (first : tunnel.calls = head :: calls) :
    Takes env t .self .ICRQ ⟨true, 14, netBytes callid⟩ tunnel
      { tunnel with calls := { head with cid := callid.toNat } :: calls } := by
  refine storeAvp_takes 2 (by decide) rfl (by decide) (by decide) (by decide) rfl
    fun state rest holds => ?_
  obtain ⟨call, _, foundCall, typed⟩ := holds.call
  rw [bind_run (readCall_run foundCall)]
  simp only [typed, data_word_zero]
  exact holds.writeHead _ first

theorem net_long_words (value : Nat) (bound : value < 2 ^ 32) (mandatory : Bool) (attr : UInt16)
    (rest : Bytes) : avpLong (Piece.data ⟨mandatory, attr, netLong value⟩ rest) = value := by
  obtain ⟨high, low⟩ := data_words_two mandatory attr (UInt16.ofNat (value / 65536 % 65536))
    (UInt16.ofNat (value % 65536)) rest
  rw [avpLong, netLong, high, low, UInt16.toNat_ofNat', UInt16.toNat_ofNat']
  omega

theorem serno_takes (serno : Nat) (bound : serno < 2 ^ 32) (first : tunnel.calls = head :: calls) :
    Takes env t .self .ICRQ ⟨true, 15, netLong serno⟩ tunnel
      { tunnel with calls := { head with serno := serno } :: calls } := by
  refine takes_handler 4 (by decide) rfl (by decide) rfl fun state rest holds => ?_
  obtain ⟨call, _, foundCall, typed⟩ := holds.call
  obtain ⟨next, ran, held⟩ := holds.writeHead
    (fun call => { call with serno := serno }) first
  refine ⟨next, ?_, held⟩
  unfold callSernoAvp
  rw [bind_run (readCall_run foundCall), if_neg (by simp [typed]), net_long_words serno bound,
    bind_run ran]
  rfl

theorem net_int_low (value : Int) (range : 0 ≤ value ∧ value < 65536) (mandatory : Bool)
    (attr : UInt16) (rest : Bytes) :
    ((avpWord (Piece.data ⟨mandatory, attr, netInt value⟩ rest) 4).toNat : Int) = value := by
  obtain ⟨_, low⟩ := data_words_two mandatory attr
    (UInt16.ofNat ((value % 2 ^ 32).toNat / 65536 % 65536))
    (UInt16.ofNat ((value % 2 ^ 32).toNat % 65536)) rest
  rw [netInt, netLong, low, UInt16.toNat_ofNat']
  omega

theorem bearer_takes (first : tunnel.calls = head :: calls) :
    Takes env t .self .ICRQ ⟨true, 18, netInt 0⟩ tunnel
      { tunnel with calls := { head with bearer := 0 } :: calls } := by
  refine storeAvp_takes 4 (by decide) rfl (by decide) (by decide) (by decide) rfl
    fun state rest holds => ?_
  simp only [net_int_low 0 (by omega)]
  exact holds.writeHead _ first

/-- An `int` that is sent as two halves comes back as it was. -/
theorem to_int32_emod (value : Int) (range : -2 ^ 31 ≤ value ∧ value < 2 ^ 31) :
    toInt32 (value % 2 ^ 32).toNat = value := by
  unfold toInt32
  rw [Int.toNat_of_nonneg (by omega)]
  have reduced : (value % 2 ^ 32).bmod (2 ^ 32) = value.bmod (2 ^ 32) :=
    Int.emod_bmod value (2 ^ 32)
  rw [reduced]
  exact Int.bmod_eq_of_le (by omega) (by omega)

theorem net_int_words (value : Int) (range : -2 ^ 31 ≤ value ∧ value < 2 ^ 31) (mandatory : Bool)
    (attr : UInt16) (rest : Bytes) :
    toInt32 (avpLong (Piece.data ⟨mandatory, attr, netInt value⟩ rest)) = value := by
  rw [netInt, net_long_words _ (by omega)]
  exact to_int32_emod value range

theorem txspeed_takes (speed : Int) (range : -2 ^ 31 ≤ speed ∧ speed < 2 ^ 31) :
    Takes env t c .ICCN ⟨true, 24, netInt speed⟩ tunnel
      (tunnel.setCall c fun call => { call with txspeed := speed }) := by
  refine storeAvp_call 4 (by decide) rfl (by decide) (by decide) (by decide) rfl
    (fun _ => rfl) (fun _ => rfl) fun rest => ?_
  simp only [net_int_words speed range]

theorem rxspeed_takes (speed : Int) (range : -2 ^ 31 ≤ speed ∧ speed < 2 ^ 31) :
    Takes env t c .ICCN ⟨false, 38, netInt speed⟩ tunnel
      (tunnel.setCall c fun call => { call with rxspeed := speed }) := by
  refine storeAvp_call 4 (by decide) rfl (by decide) (by decide) (by decide) rfl
    (fun _ => rfl) (fun _ => rfl) fun rest => ?_
  simp only [net_int_words speed range]

theorem frame_takes (frame : Int) (range : 0 ≤ frame ∧ frame < 65536) :
    Takes env t c .ICCN ⟨true, 19, netInt frame⟩ tunnel
      (tunnel.setCall c fun call => { call with frame := frame }) := by
  refine storeAvp_call 4 (by decide) rfl (by decide) (by decide) (by decide) rfl
    (fun _ => rfl) (fun _ => rfl) fun rest => ?_
  simp only [net_int_low frame range]

/-- The codes that a receiver keeps: defined results, and no error that looks swapped. -/
structure Codes (limit result error : Int) : Prop where
  defined : 1 ≤ result ∧ result ≤ limit
  range : 0 ≤ error ∧ error < 65536
  order : error % 256 = 0 → error = 0

theorem Codes.words (codes : Codes limit result error) (small : limit ≤ 11) :
    (resultCodeAvp.leWorkaround (UInt16.ofInt result).toNat : Int) = result ∧
      (resultCodeAvp.leWorkaround (UInt16.ofInt error).toNat : Int) = error := by
  have reads (code : Int) (range : 0 ≤ code ∧ code < 65536) (order : code % 256 = 0 → code = 0) :
      (resultCodeAvp.leWorkaround (UInt16.ofInt code).toNat : Int) = code := by
    have value : ((UInt16.ofInt code).toNat : Int) = code := by
      rw [UInt16.ofInt, UInt16.toNat_ofNat']
      omega
    unfold resultCodeAvp.leWorkaround
    split <;> omega
  have defined := codes.defined
  exact ⟨reads result (by omega) (by omega), reads error codes.range codes.order⟩

def resultValue (result error : Int) (message : Bytes) : Bytes :=
  netBytes (UInt16.ofInt result) ++ (netBytes (UInt16.ofInt error) ++ message)

theorem resultCode_takes {message : Bytes} (codes : Codes limit result error)
    (fits : message.length ≤ maxText) (plain : 0 ∉ message)
    (member : type = .StopCCN ∧ limit = 7 ∨ type = .CDN ∧ limit = 11) :
    Takes env t c type ⟨true, 1, resultValue result error message⟩ tunnel
      (tunnel.setCall c fun call =>
        { call with result := result, error := error, errormsg := message }) := by
  have counted : (resultValue result error message).length = 4 + message.length := by
    simp only [resultValue, List.length_append, net_bytes_length]
    omega
  have short : 4 + message.length ≤ 1017 := by
    unfold maxText at fits
    omega
  refine takes_handler _ (by decide) counted short rfl fun state rest holds => ?_
  obtain ⟨call, _, foundCall, typed⟩ := holds.call
  obtain ⟨next, ran, held⟩ := holds.writeCall
    (fun call => { call with result := result, error := error, errormsg := message })
    (fun _ => rfl) (fun _ => rfl)
  refine ⟨next, ?_, held⟩
  obtain ⟨resultWord, errorWord⟩ := codes.words (by omega)
  have defined := codes.defined
  have high : avpWord (Piece.data ⟨true, 1, resultValue result error message⟩ rest) 3 =
      UInt16.ofInt result := by
    rw [Piece.data_word _ _ 0, resultValue, List.append_assoc, avp_word_zero]
  have low : avpWord (Piece.data ⟨true, 1, resultValue result error message⟩ rest) 4 =
      UInt16.ofInt error := by
    rw [Piece.data_word _ _ 1, resultValue, List.append_assoc, avp_word_succ, List.append_assoc,
      avp_word_zero]
  have copied : (if 6 + (4 + message.length) > 10 then
      cString (min (6 + (4 + message.length) - 10) maxText)
        ((Piece.data ⟨true, 1, resultValue result error message⟩ rest).drop 10) else []) =
      message := by
    have behind : (Piece.data ⟨true, 1, resultValue result error message⟩ rest).drop 10 =
        message ++ rest := rfl
    have count : 6 + (4 + message.length) - 10 = message.length := by omega
    rw [behind, count, cString_append, cString_whole fits plain]
    split
    · rfl
    · exact (List.length_eq_zero_iff.mp (by omega)).symm
  unfold resultCodeAvp
  rw [if_neg (by omega), bind_run (readCall_run foundCall)]
  simp only [high, low, copied, resultWord, errorWord, typed,
    if_pos (show 6 + (4 + message.length) ≥ 10 by omega)]
  rcases member with ⟨rfl, rfl⟩ | ⟨rfl, rfl⟩
  · rw [if_neg (by simp), if_neg (by omega), if_neg (by simp), bind_run ran]
    rfl
  · rw [if_neg (by simp), if_neg (by simp), if_neg (by omega), bind_run ran]
    rfl

end Handlers

/-! ## The message type -/

theorem MsgType.ofNat_toNat {type : MsgType} (named : type.named = true) :
    MsgType.ofNat (UInt16.ofNat type.toNat).toNat = type := by
  cases type with
  | unassigned number => cases named
  | zero => cases named
  | _ => rfl

def Tunnel.noting (tunnel : Tunnel) (c : CallId) (type : MsgType) : Tunnel :=
  tunnel.setCall c fun call => { call with msgtype := some type }

def Tunnel.newborn (tunnel : Tunnel) (ref : CallRef) (ourcid : UInt16) : Call :=
  { ref := ref
    container := tunnel.ref
    ourcid := ourcid
    lns := tunnel.lns
    lac := tunnel.lac }

/-- The receiver's tunnel behind the type of a message. An ICRQ brings a new call. -/
def Opened (type : MsgType) (c : CallId) (tunnel opened : Tunnel) : Prop :=
  if type = .ICRQ then
    ∃ ref ourcid, opened =
      { tunnel.noting c type with
        calls := tunnel.newborn ref ourcid :: (tunnel.noting c type).calls
        count := tunnel.count + 1 }
  else opened = tunnel.noting c type

section Opening

variable {env : Env} {t : TunnelRef} {c : CallId} {type : MsgType} {tunnel : Tunnel} {call : Call}
  {state : Daemon}

theorem Holds.linkCall (holds : Holds t c type tunnel state) (call : Call) (self : c = .self) :
    ∃ next, linkCall t call state = .ok () next ∧
      Holds t c type { tunnel with calls := call :: tunnel.calls, count := tunnel.count + 1 }
        next := by
  subst self
  exact holds.writeTunnel _ (fun _ => rfl) rfl

theorem newCall_made (env : Env) (tunnel : Tunnel) (state : Daemon) :
    ∃ ourcid after, newCall env (some tunnel) state =
        .ok (tunnel.newborn state.fresh ourcid) after ∧
      after.tunnels = state.tunnels :=
  ⟨_, _, rfl, rfl⟩

theorem messageTypeAvp_opens (found : state.tunnel? t = some tunnel)
    (foundCall : tunnel.call? c = some call)
    (matching : admitted tunnel.state c call.state type = true) :
    ∃ opened, Opened type c tunnel opened ∧ Opens env t c type state opened := by
  have named : type.named = true := by
    simp only [admitted, Bool.and_eq_true] at matching
    exact matching.1.1
  have kept : (tunnel.noting c type).state = tunnel.state ∧
      (∀ ref ourcid, (tunnel.noting c type).newborn ref ourcid = tunnel.newborn ref ourcid) ∧
      (tunnel.noting c type).count = tunnel.count := by
    cases c <;> exact ⟨rfl, fun _ _ => rfl, rfl⟩
  have noted : (tunnel.noting c type).call? c = some { call with msgtype := some type } := by
    have changed : (tunnel.noting c type).call? c =
        (tunnel.call? c).map fun call => { call with msgtype := some type } :=
      Tunnel.call_setCall fun _ => rfl
    rw [changed, foundCall]
    rfl
  have holds : Holds t c type (tunnel.noting c type)
      (state.setCall t c fun call => { call with msgtype := some type }) :=
    ⟨tunnel_setCall found, by rw [noted]; rfl⟩
  have run (rest : Bytes) : messageTypeAvp env t c ((typePiece type).data rest) 8 state =
      (if type = .ICRQ then do
        let call ← newCall env (some (tunnel.noting c type))
        linkCall t call
        pure true
      else pure true : Prog Bool)
        (state.setCall t c fun call => { call with msgtype := some type }) := by
    have value : MsgType.ofNat (avpWord ((typePiece type).data rest) 3).toNat = type := by
      rw [typePiece, data_word_zero, MsgType.ofNat_toNat named]
    unfold messageTypeAvp
    simp only [value]
    rw [bind_run (writeCall_run (some_call found foundCall)), if_neg (by decide),
      bind_run (readTunnel_run holds.found), bind_run (readCall_run (some_call holds.found noted)),
      kept.1, if_neg (by simp [matching])]
  by_cases incoming : type = .ICRQ
  · obtain ⟨_, born, count⟩ := kept
    have self : c = .self := by
      rw [incoming] at matching
      simp only [admitted, admits, Bool.and_eq_true, decide_eq_true_eq] at matching
      exact matching.2.2
    obtain ⟨ourcid, made, ranMake, same⟩ := newCall_made env (tunnel.noting c type)
      (state.setCall t c fun call => { call with msgtype := some type })
    obtain ⟨next, linked, held⟩ := (holds.of_tunnels same).linkCall
      ((tunnel.noting c type).newborn state.fresh ourcid) self
    refine ⟨_, ?_, ⟨fun rest => ⟨next, ?_, held⟩⟩⟩
    · rw [Opened, if_pos incoming, ← count]
      refine ⟨state.fresh, ourcid, ?_⟩
      rw [← born]
    · rw [run rest, if_pos incoming, bind_run ranMake]
      exact bind_run linked
  · refine ⟨tunnel.noting c type, by rw [Opened, if_neg incoming], ⟨fun rest => ⟨_, ?_, holds⟩⟩⟩
    rw [run rest, if_neg incoming]
    rfl

end Opening

end Xl2tpd
