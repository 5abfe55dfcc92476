import Xl2tpd.Daemon
import Xl2tpd.Async
import Xl2tpd.Hiding
import Xl2tpd.Sequence
import Mathlib.Data.Nat.Bitwise

/-!
# Payload packets

From the header that `add_payload_hdr` writes to the octets that `write_packet` frames,
and the sequence numbers in between.
-/

namespace Xl2tpd

set_option autoImplicit false

open Program

/-! ## The header on the wire -/

def wireHeader (bytes : Bytes) : Nat :=
  let ver := netWord bytes 0
  minPayloadHdrLen + (if psbit ver then 2 else 0) + (if clbit ver then 2 else 0) +
    (if cfbit ver then 4 else 0)

/-- The offset a payload header declares, in its last word. -/
def wireOffset (bytes : Bytes) : Nat :=
  if psbit (netWord bytes 0) then (netWord bytes (wireHeader bytes - 2)).toNat else 0

theorem ctbit_iff (ver : UInt16) : ctbit ver = decide (32768 ≤ ver.toNat) := by
  have bound := ver.toNat_lt
  have mask : (0x8000 : UInt16).toNat = 2 ^ 15 := rfl
  have bit : ver &&& 0x8000 = 0 ↔ ¬ 32768 ≤ ver.toNat := by
    rw [← UInt16.toNat_inj, UInt16.toNat_and, mask, Nat.and_two_pow,
      Nat.testBit_eq_decide_div_mod_eq]
    by_cases high : 32768 ≤ ver.toNat
    · have set : ver.toNat / 32768 % 2 = 1 := by omega
      simp [set, high]
    · have clear : ver.toNat / 32768 % 2 = 0 := by omega
      simp [clear, high]
  by_cases high : 32768 ≤ ver.toNat
  · have set := mt bit.mp (not_not.mpr high)
    simp [ctbit, set, high]
  · simp [ctbit, bit.mpr high, high]

theorem ctbit_raw (bytes : Bytes) :
    ctbit (hostWord bytes 0) = decide (128 ≤ (bytes.getD 1 0).toNat) := by
  rw [ctbit_iff, hostWord, word_toNat]
  have low := (bytes.getD 0 0).toNat_lt
  congr 1
  simp only [Nat.zero_add, eq_iff_iff]
  omega

/-- `fix_hdr` swaps the header only, or twelve octets if the second one has its top bit set. -/
theorem fix_hdr_swaps (bytes : Bytes)
    (plain : (bytes.getD 1 0).toNat < 128 ∨ wireHeader bytes = 12) :
    fixHdr bytes = swaps (wireHeader bytes / 2) bytes := by
  unfold fixHdr
  rw [ctbit_raw]
  by_cases top : 128 ≤ (bytes.getD 1 0).toNat
  · have twelve : wireHeader bytes = 12 := by omega
    simp only [top, decide_true, if_true, twelve]
  · simp only [top, decide_false, Bool.false_eq_true, if_false]
    rfl

theorem net_word_head (ver : UInt16) (rest : Bytes) : netWord (netBytes ver ++ rest) 0 = ver := by
  simp [netWord, netBytes, word_net_bytes]

/-! ## From one end to the other -/

/-- A payload packet without sequence numbers, as the receiver finds it after
`fix_hdr`. -/
theorem fix_hdr_payload (tunnel : Tunnel) (call : Call) (packet stale : Bytes)
    (unsequenced : call.fbit = false ∧ call.ourfbit = false) :
    fixHdr (payloadPacket tunnel call packet ++ stale) =
      hostBytes (if call.lbit then 0x4002 else 2) ++
        (if call.lbit then hostBytes (UInt16.ofNat (8 + packet.length)) else []) ++
        hostBytes (UInt16.ofInt tunnel.tid) ++ hostBytes (UInt16.ofInt call.cid) ++
        (packet ++ stale) := by
  cases lbit : call.lbit with
  | false =>
    have three (rest : Bytes) : fixHdr (netBytes 2 ++ rest) = swaps 3 (netBytes 2 ++ rest) := by
      rw [fix_hdr_swaps _ (.inl (by simp [netBytes])), wireHeader, net_word_head]
      rfl
    have layout : payloadPacket tunnel call packet ++ stale =
        netBytes 2 ++ (netBytes (UInt16.ofInt tunnel.tid) ++ netBytes (UInt16.ofInt call.cid) ++
          (packet ++ stale)) := by
      simp [payloadPacket, unsequenced, lbit]
    rw [layout, three]
    simp [netBytes, hostBytes, swaps]
  | true =>
    have four (rest : Bytes) :
        fixHdr (netBytes 0x4002 ++ rest) = swaps 4 (netBytes 0x4002 ++ rest) := by
      rw [fix_hdr_swaps _ (.inl (by simp [netBytes])), wireHeader, net_word_head]
      rfl
    have layout : payloadPacket tunnel call packet ++ stale =
        netBytes 0x4002 ++ (netBytes (UInt16.ofNat (8 + packet.length)) ++
          netBytes (UInt16.ofInt tunnel.tid) ++ netBytes (UInt16.ofInt call.cid) ++
          (packet ++ stale)) := by
      simp [payloadPacket, unsequenced, lbit, minPayloadHdrLen]
      rfl
    rw [layout, four]
    simp [netBytes, hostBytes, swaps]

/-- A packet without a number is given the one that is expected, which is taken
whatever the counters are. -/
theorem payload_sequence_own (call : Call) :
    (payloadSequence call.dataRecSeqNum call).isSome = true := by
  by_cases same : call.dataRecSeqNum = call.dataSeqNum
  · rw [payloadSequence, if_pos same]
    rfl
  · rw [payload_sequence_same call same]
    rfl

/-- A packet that passes the checks comes out of the pty as one frame. -/
theorem handle_payload_writes {env : Env} {t : TunnelRef} {c : CallId} {state : Daemon}
    {call : Call} {buffer : RecvBuf} {packet : Bytes} (found : state.call? t c = some call)
    (opened : ¬ call.fd < 0) (written : env.ptyWrite state.spawned = true)
    (checked : checkPayload buffer = true)
    (passes : (payloadSequence (expandHdr buffer call).Ns call).isSome)
    (carries : payloadHdrSize < buffer.len + (expandHdr buffer call).ehlen)
    (left : payloadOctets buffer (expandHdr buffer call) = some packet)
    (room : payloadBuf + buffer.len + 2 ≤ maxRecvSize) (valid : convert packet ≠ .invalid) :
    ∃ after, handlePayload env buffer t c state = .ok () after ∧
      after.trace = state.trace ++ [.writePacket t c (pppFrame packet)] := by
  obtain ⟨next, taken⟩ := Option.isSome_iff_exists.mp passes
  have whole := (convert_cases packet).resolve_left valid
  have held : (state.setCall t c fun found => { found with
      dataRecSeqNum := next
      pLr := (expandHdr buffer call).Nr.toNat }).call? t c = some { call with
        dataRecSeqNum := next
        pLr := (expandHdr buffer call).Nr.toNat } := by
    rw [call_setCall (by intro _; rfl), if_pos ⟨rfl, rfl⟩, found]
    rfl
  unfold handlePayload whenever
  rw [if_pos checked, bind_run (expand_payload_takes found taken)]
  simp only [gt_iff_lt, if_pos carries]
  exact write_packet_frame held opened ((frame_payload_octets left room).trans whole) written

theorem data_path_round_trip (tunnel : Tunnel) (call receiver : Call) (packet stale : Bytes)
    (peer : SockAddr) (unsequenced : call.fbit = false ∧ call.ourfbit = false)
    (filled : packet ≠ [])
    (fits : (payloadPacket tunnel call packet).length ≤ maxRecvSize - payloadBuf) :
    let datagram : Datagram :=
      { bytes := payloadPacket tunnel call packet, stale := stale, peer := peer }
    let header := expandHdr datagram.buffer receiver
    (datagram.ids = (UInt16.ofInt tunnel.tid, UInt16.ofInt call.cid) ∧
      checkPayload datagram.buffer = true ∧
      (payloadSequence header.Ns receiver).isSome ∧
      payloadHdrSize < datagram.buffer.len + header.ehlen ∧
      payloadOctets datagram.buffer header = some packet) ∧
    ∀ env t c (state : Daemon), state.call? t c = some receiver → ¬ receiver.fd < 0 →
      env.ptyWrite state.spawned = true → payloadBuf + datagram.buffer.len + 2 ≤ maxRecvSize →
      convert packet ≠ .invalid →
        ∃ after, handlePayload env datagram.buffer t c state = .ok () after ∧
          after.trace = state.trace ++ [.writePacket t c (pppFrame packet)] := by
  intro datagram header
  refine (and_iff_left_of_imp ?_).mpr ?_
  · rintro ⟨_, checked, passes, carries, left⟩ env t c state found opened written room valid
    exact handle_payload_writes found opened written checked passes carries left room valid
  have filling : 0 < packet.length := List.length_pos_iff.mpr filled
  have fixed : datagram.buffer.bytes = _ :=
    fix_hdr_payload tunnel call packet stale unsequenced
  cases lbit : call.lbit with
  | false =>
    simp only [lbit, Bool.false_eq_true, if_false, List.append_nil, List.append_assoc] at fixed
    have size : datagram.buffer.len = 6 + packet.length := by
      simp [datagram, Datagram.buffer, payloadPacket, unsequenced, lbit, netBytes]
      omega
    have words : hostWord datagram.buffer.bytes 0 = 2 ∧
        hostWord datagram.buffer.bytes 2 = UInt16.ofInt tunnel.tid ∧
        hostWord datagram.buffer.bytes 4 = UInt16.ofInt call.cid := by
      simp only [fixed, host_word_zero, host_word_succ _ _ 0, host_word_succ _ _ 2, and_self]
    have flags : clbit 2 = false ∧ cfbit 2 = false ∧ psbit 2 = false ∧ ctbit 2 = false ∧
        cver 2 = verL2tp := by
      decide
    have expanded : header = ⟨receiver.dataRecSeqNum, receiver.dataSeqNum, 0, 8⟩ := by
      simp [header, expandHdr, words, flags]
    rw [expanded, size]
    refine ⟨?_, ?_, payload_sequence_own receiver, ?_, ?_⟩
    · simp [Datagram.ids, extract, words, flags]
    · simp [checkPayload, words, flags, size, minPayloadHdrLen]
    · simp only [payloadHdrSize]
      omega
    · simp [payloadOctets, size, fixed, payloadHdrSize, hostBytes]
  | true =>
    simp only [lbit, if_true, List.append_assoc] at fixed
    have size : datagram.buffer.len = 8 + packet.length := by
      simp [datagram, Datagram.buffer, payloadPacket, unsequenced, lbit, netBytes]
      omega
    have words : hostWord datagram.buffer.bytes 0 = 0x4002 ∧
        hostWord datagram.buffer.bytes 2 = UInt16.ofNat (8 + packet.length) ∧
        hostWord datagram.buffer.bytes 4 = UInt16.ofInt tunnel.tid ∧
        hostWord datagram.buffer.bytes 6 = UInt16.ofInt call.cid := by
      simp only [fixed, host_word_zero, host_word_succ _ _ 0, host_word_succ _ _ 2,
        host_word_succ _ _ 4, and_self]
    have flags : clbit 0x4002 = true ∧ cfbit 0x4002 = false ∧ psbit 0x4002 = false ∧
        ctbit 0x4002 = false ∧ cver 0x4002 = verL2tp := by
      decide
    have expanded : header = ⟨receiver.dataRecSeqNum, receiver.dataSeqNum, 0, 6⟩ := by
      simp [header, expandHdr, words, flags]
    have length : (UInt16.ofNat (8 + packet.length)).toNat = 8 + packet.length := by
      change datagram.buffer.len ≤ _ at fits
      rw [size] at fits
      rw [UInt16.toNat_ofNat']
      simp only [maxRecvSize, payloadBuf] at fits
      omega
    rw [expanded, size]
    refine ⟨?_, ?_, payload_sequence_own receiver, ?_, ?_⟩
    · simp [Datagram.ids, extract, words, flags]
    · simp only [checkPayload, words, flags, size, length, minPayloadHdrLen]
      simp
      omega
    · simp only [payloadHdrSize]
      omega
    · simp [payloadOctets, size, fixed, payloadHdrSize, hostBytes]

theorem data_path_sample :
    let tunnel : Tunnel := { ref := 0, ourtid := 1, tid := 7, peer := ⟨1, 2⟩, self := { ref := 0 } }
    let call : Call := { ref := 1, cid := 9, lbit := true }
    let datagram : Datagram := { bytes := payloadPacket tunnel call [0xC0, 0x21], peer := ⟨3, 4⟩ }
    datagram.ids = (7, 9) ∧ ∃ after,
      handlePayload (sampleEnv (fun _ _ => none) 5) datagram.buffer 1 (.call 3) sampleOpen =
        .ok () after ∧
      after.trace = [.writePacket 1 (.call 3) (pppFrame [0xC0, 0x21])] := by
  have trip := data_path_round_trip
    { ref := 0, ourtid := 1, tid := 7, peer := ⟨1, 2⟩, self := { ref := 0 } }
    { ref := 1, cid := 9, lbit := true } { ref := 3, fd := 4 } [0xC0, 0x21] [] ⟨3, 4⟩ ⟨rfl, rfl⟩
    (by decide) (by decide)
  exact ⟨trip.1.1, trip.2 (sampleEnv (fun _ _ => none) 5) 1 (.call 3) sampleOpen rfl (by decide)
    rfl (by decide) (by decide +kernel)⟩

/-! ## Bounds -/

theorem swaps_octets (count index : Nat) (bytes : Bytes) (swapped : index < count)
    (inside : 2 * index + 1 < bytes.length) :
    (swaps count bytes).getD (2 * index) 0 = bytes.getD (2 * index + 1) 0 ∧
      (swaps count bytes).getD (2 * index + 1) 0 = bytes.getD (2 * index) 0 := by
  induction count generalizing index bytes with
  | zero => omega
  | succ count induction =>
    match bytes, inside with
    | first :: second :: rest, inside =>
      cases index with
      | zero => exact ⟨rfl, rfl⟩
      | succ index =>
        simp only [List.length_cons] at inside
        exact induction index rest (by omega) (by omega)

theorem swaps_word (count index : Nat) (bytes : Bytes) (swapped : index < count)
    (inside : 2 * index + 1 < bytes.length) :
    hostWord (swaps count bytes) (2 * index) = netWord bytes (2 * index) := by
  obtain ⟨first, second⟩ := swaps_octets count index bytes swapped inside
  rw [hostWord, netWord, first, second]

theorem swaps_drop (count : Nat) (bytes : Bytes) (inside : 2 * count ≤ bytes.length) :
    (swaps count bytes).drop (2 * count) = bytes.drop (2 * count) := by
  induction count generalizing bytes with
  | zero => rfl
  | succ count induction =>
    match bytes, inside with
    | first :: second :: rest, inside =>
      simp only [List.length_cons] at inside
      exact induction rest (by omega)

theorem wire_header_even (bytes : Bytes) : 2 * (wireHeader bytes / 2) = wireHeader bytes := by
  unfold wireHeader
  dsimp only
  split <;> split <;> split <;> rfl

theorem net_word_append (bytes stale : Bytes) (offset : Nat) (inside : offset + 1 < bytes.length) :
    netWord (bytes ++ stale) offset = netWord bytes offset := by
  simp only [netWord]
  rw [List.getD_append _ _ _ _ inside, List.getD_append _ _ _ _ (by omega)]

section Received

variable {datagram : Datagram}

section

variable (least : minPayloadHdrLen ≤ datagram.bytes.length)
  (plain : (datagram.bytes.getD 1 0).toNat < 128 ∨ wireHeader datagram.bytes = 12)

include least plain

theorem buffer_swaps :
    datagram.buffer.bytes =
      swaps (wireHeader datagram.bytes / 2) (datagram.bytes ++ datagram.stale) := by
  simp only [minPayloadHdrLen] at least
  have ver : netWord (datagram.bytes ++ datagram.stale) 0 = netWord datagram.bytes 0 :=
    net_word_append _ _ 0 (by omega)
  have same : wireHeader (datagram.bytes ++ datagram.stale) = wireHeader datagram.bytes := by
    simp only [wireHeader, ver]
  have octet : (datagram.bytes ++ datagram.stale).getD 1 0 = datagram.bytes.getD 1 0 :=
    List.getD_append _ _ _ _ (by omega)
  rw [← same]
  exact fix_hdr_swaps _ (by rwa [octet, same])

theorem buffer_word (index : Nat) (swapped : 2 * index + 2 ≤ wireHeader datagram.bytes)
    (inside : 2 * index + 1 < datagram.bytes.length) :
    hostWord datagram.buffer.bytes (2 * index) = netWord datagram.bytes (2 * index) := by
  rw [buffer_swaps least plain, swaps_word _ index _ (by omega)
    (by rw [List.length_append]; omega), net_word_append _ _ _ inside]

end

theorem wire_header_least (bytes : Bytes) : minPayloadHdrLen ≤ wireHeader bytes := by
  simp only [wireHeader]
  omega

theorem expand_hdr_size (call : Call) (least : minPayloadHdrLen ≤ datagram.bytes.length)
    (plain : (datagram.bytes.getD 1 0).toNat < 128 ∨ wireHeader datagram.bytes = 12) :
    (expandHdr datagram.buffer call).ehlen + wireHeader datagram.bytes = payloadHdrSize := by
  have header := wire_header_least datagram.bytes
  simp only [minPayloadHdrLen] at least header
  have ver := buffer_word least plain 0 (by omega) (by omega)
  simp only [expandHdr, wireHeader, Nat.mul_zero] at ver ⊢
  rw [ver]
  split <;> split <;> split <;> rfl

section

variable (call : Call) (longer : wireHeader datagram.bytes ≤ datagram.bytes.length)
  (plain : (datagram.bytes.getD 1 0).toNat < 128 ∨ wireHeader datagram.bytes = 12)

include call longer plain

theorem expand_hdr_offset :
    (expandHdr datagram.buffer call).oSize.toNat = wireOffset datagram.bytes := by
  have header := wire_header_least datagram.bytes
  have least := header.trans longer
  simp only [minPayloadHdrLen] at header least
  have ver := buffer_word least plain 0 (by omega) (by omega)
  have last := buffer_word least plain (wireHeader datagram.bytes / 2 - 1) (by omega) (by omega)
  have even := wire_header_even datagram.bytes
  rw [show 2 * (wireHeader datagram.bytes / 2 - 1) = wireHeader datagram.bytes - 2 by omega] at last
  simp only [Nat.mul_zero] at ver
  simp only [wireOffset, ← last, expandHdr, ver]
  cases offset : psbit (netWord datagram.bytes 0) with
  | false => rfl
  | true =>
    simp only [if_true]
    congr 2
    simp only [wireHeader, offset, if_true, minPayloadHdrLen]
    split <;> split <;> rfl

theorem payload_octets_wire :
    payloadOctets datagram.buffer (expandHdr datagram.buffer call) =
      if datagram.bytes.length < wireHeader datagram.bytes + wireOffset datagram.bytes then none
      else some (datagram.bytes.drop
        (wireHeader datagram.bytes + wireOffset datagram.bytes)) := by
  have least := (wire_header_least datagram.bytes).trans longer
  have size := expand_hdr_size call least plain
  have even := wire_header_even datagram.bytes
  have skipped : payloadHdrSize - (expandHdr datagram.buffer call).ehlen =
      wireHeader datagram.bytes := by
    omega
  have kept : datagram.buffer.bytes.drop (wireHeader datagram.bytes) =
      datagram.bytes.drop (wireHeader datagram.bytes) ++ datagram.stale := by
    have drop := swaps_drop (wireHeader datagram.bytes / 2) (datagram.bytes ++ datagram.stale)
      (by rw [List.length_append]; omega)
    rw [even] at drop
    rw [buffer_swaps least plain, drop, List.drop_append_of_le_length longer]
  unfold payloadOctets
  simp only [skipped, expand_hdr_offset call longer plain]
  change (if datagram.bytes.length < _ then _ else _) = _
  split
  · rfl
  case isFalse room =>
    have behind : wireOffset datagram.bytes ≤
        (datagram.bytes.drop (wireHeader datagram.bytes)).length := by
      rw [List.length_drop]
      omega
    have length : datagram.buffer.len = datagram.bytes.length := rfl
    rw [← List.drop_drop, kept, List.drop_append_of_le_length behind, List.drop_drop, length,
      List.take_left']
    rw [List.length_drop]

end

end Received

/-- A payload packet is turned down, or its octets behind header and offset are framed, inside the
receive buffer. -/
def PayloadKept (datagram : Datagram) (call : Call) : Prop :=
  match framePayload datagram.buffer (expandHdr datagram.buffer call) with
  | .overrun => False
  | .invalid => True
  | .frame octets =>
      wireHeader datagram.bytes + wireOffset datagram.bytes ≤ datagram.bytes.length ∧
        octets = pppFrame
          (datagram.bytes.drop (wireHeader datagram.bytes + wireOffset datagram.bytes))

theorem payload_bounds (datagram : Datagram) (call : Call)
    (checked : checkPayload datagram.buffer = true)
    (reached : payloadHdrSize < datagram.buffer.len + (expandHdr datagram.buffer call).ehlen)
    (plain : (datagram.bytes.getD 1 0).toNat < 128 ∨ wireHeader datagram.bytes = 12) :
    PayloadKept datagram call ↔
      wireHeader datagram.bytes + wireOffset datagram.bytes ≤ datagram.bytes.length ∧
        payloadBuf + datagram.bytes.length + 2 ≤ maxRecvSize := by
  have length : datagram.buffer.len = datagram.bytes.length := rfl
  have least : minPayloadHdrLen ≤ datagram.bytes.length := by
    simp only [checkPayload, Bool.and_eq_true, decide_eq_true_eq] at checked
    exact checked.1.1.1
  have size := expand_hdr_size call least plain
  have octets := payload_octets_wire call (by omega) plain
  unfold PayloadKept framePayload
  rw [octets, length]
  by_cases inside :
      wireHeader datagram.bytes + wireOffset datagram.bytes ≤ datagram.bytes.length
  · rw [if_neg (by omega)]
    by_cases room : payloadBuf + datagram.bytes.length + 2 ≤ maxRecvSize
    · simp only [if_neg (Nat.not_lt.mpr room), inside, room, and_self, iff_true, true_and]
      rcases convert_cases (datagram.bytes.drop
        (wireHeader datagram.bytes + wireOffset datagram.bytes)) with turned | framed
      · rw [turned]
        trivial
      · rw [framed]
    · simp only [if_pos (Nat.not_le.mp room), room, and_false]
  · rw [if_pos (by omega)]
    simp only [inside, false_and]

def sampleOffset : Datagram := { bytes := [2, 2, 0, 1, 0, 1, 0, 16, 0x41], peer := ⟨5, 6⟩ }

def sampleReserved : Datagram :=
  { bytes := [0, 0x82, 0, 1, 0, 1, 0x41, 0x42, 0x43, 0x44, 0x45, 0x46], peer := ⟨5, 6⟩ }

def sampleLargest : Datagram :=
  { bytes := [0, 2, 0, 1, 0, 1] ++ List.replicate 4080 0x41, peer := ⟨5, 6⟩ }

/-- The datagram reaches `write_packet` on a call that has not heard anything yet. -/
def reachesWrite (datagram : Datagram) : Bool :=
  let call : Call := { ref := 1 }
  let header := expandHdr datagram.buffer call
  checkPayload datagram.buffer && (payloadSequence header.Ns call).isSome &&
    payloadHdrSize < datagram.buffer.len + header.ehlen

theorem frame_payload_long (buffer : RecvBuf) (header : ExpandedHdr)
    (long : maxRecvSize < payloadBuf + buffer.len + 2) : framePayload buffer header = .overrun := by
  unfold framePayload
  split
  · rfl
  · rw [if_pos long]

theorem payload_bounds_fail :
    (reachesWrite sampleOffset = true ∧ ¬ PayloadKept sampleOffset { ref := 1 }) ∧
    (reachesWrite sampleReserved = true ∧ ¬ PayloadKept sampleReserved { ref := 1 }) ∧
    (reachesWrite sampleLargest = true ∧
      sampleLargest.bytes.length = maxRecvSize - payloadBuf ∧
      ¬ PayloadKept sampleLargest { ref := 1 }) := by
  refine ⟨⟨by decide, ?_⟩, ⟨by decide, ?_⟩, by decide +kernel, by decide +kernel, ?_⟩
  · have overrun : framePayload sampleOffset.buffer
        (expandHdr sampleOffset.buffer { ref := 1 }) = .overrun := by
      decide
    simp [PayloadKept, overrun]
  · have swapped : framePayload sampleReserved.buffer
        (expandHdr sampleReserved.buffer { ref := 1 }) =
          .frame (pppFrame [0x42, 0x41, 0x44, 0x43, 0x46, 0x45]) := by
      decide +kernel
    have other : pppFrame [0x42, 0x41, 0x44, 0x43, 0x46, 0x45] ≠
        pppFrame (sampleReserved.bytes.drop 6) := by
      decide +kernel
    intro kept
    unfold PayloadKept at kept
    rw [swapped] at kept
    exact other kept.2
  · have long : maxRecvSize < payloadBuf + sampleLargest.buffer.len + 2 := by decide +kernel
    simp [PayloadKept, frame_payload_long _ _ long]

theorem payload_bounds_sample :
    let datagram : Datagram := { bytes := [2, 2, 0, 1, 0, 1, 0, 1, 0x40, 0x41], peer := ⟨5, 6⟩ }
    checkPayload datagram.buffer = true ∧ PayloadKept datagram { ref := 1 } :=
  ⟨by decide, (payload_bounds { bytes := [2, 2, 0, 1, 0, 1, 0, 1, 0x40, 0x41], peer := ⟨5, 6⟩ }
    { ref := 1 } (by decide) (by decide) (.inl (by decide))).mpr (by decide)⟩

/-! ## The byte order of the header -/

/-- The size of the header that the flags announce. -/
def announcedSize (bytes : Bytes) : Nat :=
  if ctbit (netWord bytes 0) then controlHdrSize else wireHeader bytes

def swappedSize (bytes : Bytes) : Nat :=
  if ctbit (hostWord bytes 0) then controlHdrSize else wireHeader bytes

/-- The offsets of the words that are read. -/
def headerReads (ver : UInt16) : List Nat :=
  [0] ++ (if clbit ver then [4, 6] else [2, 4]) ++
    if ctbit ver then [2, 8, 10]
    else
      (if clbit ver then [2, 4, 6] else [2, 4]) ++
        (if cfbit ver then (if clbit ver then [8, 10] else [6, 8]) else []) ++
        if psbit ver then
          [minPayloadHdrLen + (if clbit ver then 2 else 0) + (if cfbit ver then 4 else 0)]
        else []

/-- What is read is what the datagram says, and the octets behind the header are as they were. -/
def HeaderFixed (datagram : Datagram) : Prop :=
  (∀ offset ∈ headerReads (hostWord datagram.buffer.bytes 0),
    hostWord datagram.buffer.bytes offset = netWord datagram.bytes offset) ∧
  ∀ offset, announcedSize datagram.bytes ≤ offset → offset < datagram.bytes.length →
    datagram.buffer.bytes.getD offset 0 = datagram.bytes.getD offset 0

theorem header_reads_inside (bytes : Bytes) :
    ∀ offset ∈ headerReads (netWord bytes 0),
      offset % 2 = 0 ∧ offset + 2 ≤ announcedSize bytes := by
  unfold headerReads announcedSize wireHeader
  dsimp only
  generalize netWord bytes 0 = ver
  cases ctbit ver <;> cases clbit ver <;> cases cfbit ver <;> cases psbit ver <;> decide

theorem header_size_bounds {control : Bool} {bytes : Bytes} {size : Nat}
    (choice : size = if control then controlHdrSize else wireHeader bytes) :
    size % 2 = 0 ∧ 6 ≤ size ∧ size ≤ 14 := by
  subst choice
  cases control with
  | true =>
    rw [if_pos rfl]
    decide
  | false =>
    rw [if_neg Bool.false_ne_true, wireHeader]
    split <;> split <;> split <;> decide

theorem fix_hdr_swapped (bytes : Bytes) : fixHdr bytes = swaps (swappedSize bytes / 2) bytes := by
  unfold fixHdr swappedSize
  split <;> rfl

theorem host_word_eq_net_word_iff (bytes : Bytes) (offset : Nat) :
    hostWord bytes offset = netWord bytes offset ↔
      bytes.getD offset 0 = bytes.getD (offset + 1) 0 := by
  have first := (bytes.getD offset 0).toNat_lt
  have second := (bytes.getD (offset + 1) 0).toNat_lt
  rw [← UInt16.toNat_inj, ← UInt8.toNat_inj, hostWord, netWord, word_toNat, word_toNat]
  omega

section Order

variable {datagram : Datagram}

theorem swapped_size_buffer (stale : Bytes) {bytes : Bytes}
    (least : minPayloadHdrLen ≤ bytes.length) : swappedSize (bytes ++ stale) = swappedSize bytes := by
  simp only [minPayloadHdrLen] at least
  have first : (bytes ++ stale).getD 0 0 = bytes.getD 0 0 := List.getD_append _ _ _ _ (by omega)
  have second : (bytes ++ stale).getD 1 0 = bytes.getD 1 0 := List.getD_append _ _ _ _ (by omega)
  simp only [swappedSize, wireHeader, hostWord, netWord, Nat.zero_add, first, second]

section

variable (least : minPayloadHdrLen ≤ datagram.bytes.length)
  (room : payloadHdrSize ≤ (datagram.bytes ++ datagram.stale).length)

include least room

theorem buffer_behind {offset : Nat} (behind : swappedSize datagram.bytes ≤ offset) :
    datagram.buffer.bytes.getD offset 0 = (datagram.bytes ++ datagram.stale).getD offset 0 := by
  obtain ⟨even, _, most⟩ := header_size_bounds (rfl : swappedSize datagram.bytes = _)
  have rest := swaps_drop (swappedSize datagram.bytes / 2) (datagram.bytes ++ datagram.stale)
    (by simp only [payloadHdrSize] at room; omega)
  obtain ⟨distance, rfl⟩ := Nat.exists_eq_add_of_le behind
  rw [Nat.mul_div_cancel' (Nat.dvd_of_mod_eq_zero even)] at rest
  have octet := congrArg (fun octets => octets.getD distance 0) rest
  simp only [List.getD_eq_getElem?_getD, List.getElem?_drop] at octet ⊢
  rw [Datagram.buffer, fix_hdr_swapped, swapped_size_buffer _ least]
  exact octet

theorem buffer_swapped {index : Nat} (before : 2 * index < swappedSize datagram.bytes) :
    datagram.buffer.bytes.getD (2 * index) 0 =
        (datagram.bytes ++ datagram.stale).getD (2 * index + 1) 0 ∧
      datagram.buffer.bytes.getD (2 * index + 1) 0 =
        (datagram.bytes ++ datagram.stale).getD (2 * index) 0 := by
  obtain ⟨even, _, most⟩ := header_size_bounds (rfl : swappedSize datagram.bytes = _)
  rw [Datagram.buffer, fix_hdr_swapped, swapped_size_buffer _ least]
  simp only [payloadHdrSize] at room
  exact swaps_octets _ index _ (by omega) (by omega)

theorem word_read_iff {index : Nat} (inside : 2 * index + 1 < datagram.bytes.length) :
    hostWord datagram.buffer.bytes (2 * index) = netWord datagram.bytes (2 * index) ↔
      (swappedSize datagram.bytes ≤ 2 * index →
        datagram.bytes.getD (2 * index) 0 = datagram.bytes.getD (2 * index + 1) 0) := by
  have first : (datagram.bytes ++ datagram.stale).getD (2 * index) 0 = _ :=
    List.getD_append _ _ _ _ (by omega)
  have second : (datagram.bytes ++ datagram.stale).getD (2 * index + 1) 0 = _ :=
    List.getD_append _ _ _ _ inside
  rw [← host_word_eq_net_word_iff]
  by_cases behind : swappedSize datagram.bytes ≤ 2 * index
  · rw [hostWord, buffer_behind least room behind, buffer_behind least room (by omega), first,
      second]
    exact ⟨fun same _ => same, fun same => same behind⟩
  · obtain ⟨low, high⟩ := buffer_swapped least room (Nat.not_le.mp behind)
    rw [hostWord, low, high, first, second]
    exact iff_of_true rfl fun other => absurd other behind

end

/-- The header is as the datagram says exactly when every word that is read and not swapped, or
swapped and not of the header, has equal octets. -/
theorem header_order_iff (datagram : Datagram)
    (enough : announcedSize datagram.bytes ≤ datagram.bytes.length)
    (room : payloadHdrSize ≤ (datagram.bytes ++ datagram.stale).length) :
    HeaderFixed datagram ↔
      (∀ offset ∈ headerReads (netWord datagram.bytes 0), swappedSize datagram.bytes ≤ offset →
        datagram.bytes.getD offset 0 = datagram.bytes.getD (offset + 1) 0) ∧
      ∀ index, announcedSize datagram.bytes ≤ 2 * index → 2 * index < datagram.bytes.length →
        2 * index < swappedSize datagram.bytes →
        (datagram.bytes ++ datagram.stale).getD (2 * index) 0 =
          (datagram.bytes ++ datagram.stale).getD (2 * index + 1) 0 := by
  obtain ⟨even, more, _⟩ := header_size_bounds (rfl : announcedSize datagram.bytes = _)
  obtain ⟨even', first, _⟩ := header_size_bounds (rfl : swappedSize datagram.bytes = _)
  have least : minPayloadHdrLen ≤ datagram.bytes.length := more.trans enough
  have kept (offset : Nat) (inside : offset < datagram.bytes.length) :
      (datagram.bytes ++ datagram.stale).getD offset 0 = datagram.bytes.getD offset 0 :=
    List.getD_append _ _ _ _ inside
  have ver : hostWord datagram.buffer.bytes 0 = netWord datagram.bytes 0 :=
    (word_read_iff least room (show 2 * 0 + 1 < datagram.bytes.length by omega)).mpr
      fun behind => absurd behind (by omega)
  unfold HeaderFixed
  rw [ver]
  apply and_congr
  · refine forall₂_congr fun offset read => ?_
    obtain ⟨parity, before⟩ := header_reads_inside datagram.bytes offset read
    obtain ⟨index, rfl⟩ : ∃ index, offset = 2 * index := ⟨offset / 2, by omega⟩
    exact word_read_iff least room (by omega)
  · constructor
    · intro same index behind inside swapped
      rw [kept _ inside, ← same _ behind inside, (buffer_swapped least room swapped).1]
    · intro equal offset behind inside
      by_cases unswapped : swappedSize datagram.bytes ≤ offset
      · rw [buffer_behind least room unswapped, kept _ inside]
      · rw [← kept _ inside]
        have word := equal (offset / 2) (by omega) (by omega) (by omega)
        have before : 2 * (offset / 2) < swappedSize datagram.bytes := by omega
        obtain ⟨low, high⟩ := buffer_swapped least room before
        rcases Nat.mod_two_eq_zero_or_one offset with parity | parity
        · rw [show 2 * (offset / 2) = offset by omega] at low word
          rw [low, word]
        · rw [show 2 * (offset / 2) + 1 = offset by omega] at high word
          rw [high, word]

def sampleLength : Datagram :=
  { bytes := [64, 2, 0, 9, 0, 7, 0, 8, 0x41], stale := [0, 0, 0, 0, 0], peer := ⟨5, 6⟩ }

theorem header_order_length : HeaderFixed sampleLength :=
  (header_order_iff sampleLength (by decide) (by decide)).mpr ⟨by decide, fun index => by
    intro behind _ swapped
    exact absurd (behind.trans_lt swapped) (by decide)⟩

def sampleBare : Datagram :=
  { bytes := [128, 2, 0, 12, 0, 7, 0, 0, 0, 1, 0, 0], stale := [0, 0], peer := ⟨5, 6⟩ }

/-- `Ns` of the control packet is not swapped; behind the payload header six octets are. -/
theorem header_order_fails : ¬ HeaderFixed sampleBare ∧ ¬ HeaderFixed sampleReserved := by
  constructor
  · intro fixed
    have number := fixed.1 8 (by decide)
    revert number
    decide
  · intro fixed
    have octet := fixed.2 6 (by decide) (by decide)
    revert octet
    decide

end Order

end Xl2tpd
