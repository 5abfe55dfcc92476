import Xl2tpd.Runs

/-!
# Frames on the pty

What `write_packet` puts on the pty is one frame or nothing, and `read_packet` takes
the packets out of such frames again.
-/

namespace Xl2tpd

set_option autoImplicit false

open Program

/-! ## Writing -/

def pppFrame (packet : Bytes) : Bytes :=
  pppFlag :: ((addFcs packet).flatMap escapeOctet ++ [pppFlag])

theorem escape_octet_length (octet : UInt8) : (escapeOctet octet).length ≤ 2 := by
  unfold escapeOctet
  split <;> simp

/-- Three octets are left in `wbuf` when the loop is entered: for an escaped octet and the flag. -/
theorem convert_loop_cases (wbuf octets : Bytes) (room : wbuf.length + 3 ≤ maxRecvSize) :
    convertLoop wbuf octets = .invalid ∨
      convertLoop wbuf octets = .frame (wbuf ++ octets.flatMap escapeOctet ++ [pppFlag]) := by
  induction octets generalizing wbuf with
  | nil =>
    right
    have fits : wbuf.length + [pppFlag].length ≤ maxRecvSize := by
      rw [List.length_singleton]
      omega
    simp only [convertLoop, storeWbuf, if_pos fits, List.flatMap_nil, List.append_nil]
  | cons octet rest induction =>
    by_cases full : maxRecvSize - 4 ≤ wbuf.length
    · left
      simp only [convertLoop, if_pos full]
    · have two := escape_octet_length octet
      have fits : wbuf.length + (escapeOctet octet).length ≤ maxRecvSize := by omega
      have next := induction (wbuf ++ escapeOctet octet)
        (by rw [List.length_append]; omega)
      simp only [convertLoop, if_neg full, storeWbuf, if_pos fits]
      simpa only [List.flatMap_cons, List.append_assoc] using next

theorem convert_cases (packet : Bytes) :
    convert packet = .invalid ∨ convert packet = .frame (pppFrame packet) := by
  have room : ([] : Bytes).length + [pppFlag].length ≤ maxRecvSize := by decide
  have cases := convert_loop_cases [pppFlag] (addFcs packet) (by decide)
  simpa only [convert, storeWbuf, if_pos room, pppFrame, List.nil_append, List.cons_append]
    using cases

/-! ## Reading -/

theorem escaped_octet_plain (octet : UInt8)
    (escaped : octet < 0x20 ∨ octet = pppEscape ∨ octet = pppFlag) :
    octet ^^^ pppTrans ≠ pppFlag ∧ octet ^^^ pppTrans ≠ pppEscape := by
  have all : ∀ value : Fin 256, UInt8.ofFin value < 0x20 ∨ UInt8.ofFin value = pppEscape ∨
      UInt8.ofFin value = pppFlag → UInt8.ofFin value ^^^ pppTrans ≠ pppFlag ∧
        UInt8.ofFin value ^^^ pppTrans ≠ pppEscape := by
    decide +kernel
  exact all octet.toFin escaped

theorem scan_data (escape : UInt8) (buf : PppBuf) (ch : UInt8) (rest : Bytes) (flag : ch ≠ pppFlag)
    (plain : ch ≠ pppEscape) (room : buf.start + buf.octets.length < maxRecvSize) :
    scan escape buf (ch :: rest) =
      scan 0 { buf with octets := buf.octets ++ [ch ^^^ escape] } rest := by
  have below : buf.octets.length < maxRecvSize := by omega
  simp only [scan, if_neg flag, if_neg plain, if_pos below, if_pos room]

theorem scan_escape_octet (buf : PppBuf) (octet : UInt8) (rest : Bytes)
    (room : buf.start + buf.octets.length < maxRecvSize) :
    scan 0 buf (escapeOctet octet ++ rest) =
      scan 0 { buf with octets := buf.octets ++ [octet] } rest := by
  unfold escapeOctet
  split
  case isTrue escaped =>
    obtain ⟨flag, plain⟩ := escaped_octet_plain octet escaped
    have first : scan 0 buf (pppEscape :: (octet ^^^ pppTrans) :: rest) =
        scan pppTrans buf ((octet ^^^ pppTrans) :: rest) := rfl
    have back : octet ^^^ pppTrans ^^^ pppTrans = octet := by
      rw [UInt8.xor_assoc, UInt8.xor_self, UInt8.xor_zero]
    rw [List.cons_append, List.cons_append, List.nil_append, first,
      scan_data pppTrans buf _ rest flag plain room, back]
  case isFalse plain =>
    rw [not_or, not_or] at plain
    rw [List.cons_append, List.nil_append, scan_data 0 buf octet rest plain.2.2 plain.2.1 room,
      UInt8.xor_zero]

theorem scan_escaped (buf : PppBuf) (octets rest : Bytes)
    (room : buf.start + buf.octets.length + octets.length ≤ maxRecvSize) :
    scan 0 buf (octets.flatMap escapeOctet ++ rest) =
      scan 0 { buf with octets := buf.octets ++ octets } rest := by
  induction octets generalizing buf with
  | nil => simp only [List.flatMap_nil, List.nil_append, List.append_nil]
  | cons octet octets induction =>
    rw [List.length_cons] at room
    rw [List.flatMap_cons, List.append_assoc, scan_escape_octet buf octet _ (by omega),
      induction _ (by simp only [List.length_append, List.length_singleton]; omega)]
    simp only [List.append_assoc, List.singleton_append]

theorem add_fcs_length (packet : Bytes) : (addFcs packet).length = packet.length + 2 := by
  simp [addFcs]

/-- A frame is read as its packet: the first flag opens it, the second ends it, and
the checksum is dropped. -/
theorem scan_frame (packet rest : Bytes) (room : packet.length + 2 ≤ maxRecvSize - payloadHdrSize) :
    scan 0 newPayload (pppFrame packet ++ rest) =
      .ended { start := payloadHdrSize, octets := packet } rest := by
  have opened : scan 0 newPayload (pppFrame packet ++ rest) =
      scan 0 newPayload ((addFcs packet).flatMap escapeOctet ++ (pppFlag :: rest)) := by
    simp only [pppFrame, List.cons_append, List.append_assoc, List.nil_append]
    rfl
  have inside : newPayload.start + newPayload.octets.length + (addFcs packet).length ≤
      maxRecvSize := by
    rw [add_fcs_length]
    simp only [newPayload, payloadHdrSize, maxRecvSize, List.length_nil] at room ⊢
    omega
  rw [opened, scan_escaped newPayload (addFcs packet) (pppFlag :: rest) inside]
  have two : 2 ≤ (addFcs packet).length := by
    rw [add_fcs_length]
    omega
  have dropped : (addFcs packet).take ((addFcs packet).length - 2) = packet := by
    rw [add_fcs_length]
    simp [addFcs]
  simp only [scan, newPayload, List.nil_append, ne_eq, not_true_eq_false, if_true, if_false,
    if_pos two, dropped]

/-- The reader while a run of frames is in `rbuf` or about to be read into it. -/
theorem read_packets_frames (packets : List Bytes) (calls : Nat)
    (some : ∀ packet ∈ packets, packet ≠ [])
    (room : ∀ packet ∈ packets, packet.length + 2 ≤ maxRecvSize - payloadHdrSize)
    (enough : packets.length ≤ calls) :
    readPackets calls ⟨packets.flatMap pppFrame, newPayload⟩ [] = packets := by
  induction packets generalizing calls with
  | nil =>
    have idle : readPacket ⟨[], newPayload⟩ [] = ⟨.length 0, ⟨[], newPayload⟩, []⟩ := rfl
    induction calls with
    | zero => rfl
    | succ calls silent =>
      rw [List.flatMap_nil] at silent ⊢
      simp only [readPackets, idle, silent (Nat.zero_le calls)]
  | cons packet packets induction =>
    cases calls with
    | zero => simp at enough
    | succ calls =>
      have frame := scan_frame packet (packets.flatMap pppFrame) (room packet (by simp))
      have read : readPacket ⟨(packet :: packets).flatMap pppFrame, newPayload⟩ [] =
          ⟨.length packet.length, ⟨packets.flatMap pppFrame, ⟨payloadHdrSize, packet⟩⟩, []⟩ := by
        simp only [readPacket, readLoop, List.flatMap_cons, frame]
      have rest := induction calls (fun other member => some other (by simp [member]))
        (fun other member => room other (by simp [member])) (by simpa using enough)
      have filled : packet.length ≠ 0 := by
        simpa using some packet (by simp)
      obtain ⟨length, same⟩ := Nat.exists_eq_succ_of_ne_zero filled
      simp only [readPackets, read, same]
      rw [show recyclePayload ⟨payloadHdrSize, packet⟩ = newPayload from rfl, rest]

theorem read_packet_one_chunk (chunk : Bytes) :
    readPacket ⟨[], newPayload⟩ [.octets chunk] = readPacket ⟨chunk, newPayload⟩ [] := by
  cases chunk <;> rfl

theorem written_frames {packets frames : List Bytes}
    (written : List.Forall₂ (fun packet frame => convert packet = .frame frame) packets frames) :
    frames.flatten = packets.flatMap pppFrame := by
  induction written with
  | nil => rfl
  | @cons packet frame packets frames first _ induction =>
    have whole : frame = pppFrame packet := by
      cases convert_cases packet with
      | inl invalid =>
        rw [invalid] at first
        cases first
      | inr framed =>
        rw [framed] at first
        cases first
        rfl
    rw [List.flatten_cons, List.flatMap_cons, induction, whole]

theorem write_packet_trace {env : Env} {t : TunnelRef} {c : CallId} {buffer : RecvBuf}
    {header : ExpandedHdr} {before after : Daemon}
    (ran : writePacket env t c buffer header before = .ok () after) :
    after.trace = before.trace ∨
      ∃ octets, framePayload buffer header = .frame octets ∧
        after.trace = before.trace ++ [.writePacket t c octets] := by
  obtain ⟨call, _, read, wrote⟩ := bind_ok.mp ran
  obtain ⟨found, rfl⟩ := deref_ok.mp read
  unfold whenever at wrote
  split at wrote
  case isFalse =>
    cases wrote
    exact .inl rfl
  dsimp only at wrote
  cases framed : framePayload buffer header with
  | overrun =>
    rw [framed] at wrote
    cases wrote
  | invalid =>
    rw [framed] at wrote
    obtain ⟨_, _, _, _, rfl⟩ := writeCall_ok wrote
    exact .inl rfl
  | frame octets =>
    rw [framed] at wrote
    obtain ⟨_, _, counted, asks⟩ := bind_ok.mp wrote
    obtain ⟨_, _, _, _, rfl⟩ := writeCall_ok counted
    obtain ⟨written, _, asked, last⟩ := bind_ok.mp asks
    cases asked
    split at last
    · cases last
      exact .inr ⟨octets, rfl, rfl⟩
    · obtain ⟨_, _, _, _, rfl⟩ := writeCall_ok last
      exact .inl rfl

theorem frame_payload_octets {buffer : RecvBuf} {header : ExpandedHdr} {packet : Bytes}
    (left : payloadOctets buffer header = some packet)
    (room : payloadBuf + buffer.len + 2 ≤ maxRecvSize) :
    framePayload buffer header = convert packet := by
  unfold framePayload
  rw [left]
  exact if_neg (Nat.not_lt.mpr room)

section Written

variable {env : Env} {t : TunnelRef} {c : CallId} {buffer : RecvBuf} {header : ExpandedHdr}
  {state : Daemon} {call : Call}

theorem write_packet_invalid (found : state.call? t c = some call) (opened : ¬ call.fd < 0)
    (framed : framePayload buffer header = .invalid) :
    ∃ after, writePacket env t c buffer header state = .ok () after ∧
      after.trace = state.trace := by
  unfold writePacket
  rw [bind_run (readCall_run found)]
  simp only [opened, decide_false, Bool.not_false, whenever, if_true, framed]
  rw [writeCall_run found]
  exact ⟨_, rfl, rfl⟩

theorem write_packet_frame {octets : Bytes} (found : state.call? t c = some call)
    (opened : ¬ call.fd < 0) (framed : framePayload buffer header = .frame octets)
    (taken : env.ptyWrite state.spawned = true) :
    ∃ after, writePacket env t c buffer header state = .ok () after ∧
      after.trace = state.trace ++ [.writePacket t c octets] := by
  unfold writePacket
  rw [bind_run (readCall_run found)]
  simp only [opened, decide_false, Bool.not_false, whenever, if_true, framed]
  rw [bind_run (writeCall_run found), bind_run (show askSystem env.ptyWrite _ = .ok _ _ from rfl)]
  rw [show env.ptyWrite (state.setCall t c _).spawned = true from taken, if_pos rfl]
  exact ⟨_, rfl, rfl⟩

end Written

/-- What `write_packet` does with the packet that a buffer holds, on a pty that takes it. -/
def WritesFrame (env : Env) (t : TunnelRef) (c : CallId) (buffer : RecvBuf) (header : ExpandedHdr)
    (packet : Bytes) (before : Daemon) : Prop :=
  ∃ after, writePacket env t c buffer header before = .ok () after ∧
    (convert packet = .invalid ∧ after.trace = before.trace ∨
      convert packet = .frame (pppFrame packet) ∧
        after.trace = before.trace ++ [.writePacket t c (pppFrame packet)])

theorem async_framing_round_trip (packets : List Bytes) (full : ∀ packet ∈ packets, packet ≠ []) :
    (∀ packet ∈ packets,
      convert packet = .invalid ∨ convert packet = .frame (pppFrame packet)) ∧
    (∀ env t c buffer header before after,
      writePacket env t c buffer header before = .ok () after →
      framePayload buffer header = .invalid → after.trace = before.trace) ∧
    (∀ env t c buffer header before call, ∀ packet ∈ packets,
      payloadOctets buffer header = some packet → payloadBuf + buffer.len + 2 ≤ maxRecvSize →
      before.call? t c = some call → ¬ call.fd < 0 → env.ptyWrite before.spawned = true →
        WritesFrame env t c buffer header packet before) ∧
    ∀ frames : List Bytes,
      List.Forall₂ (fun packet frame => convert packet = .frame frame) packets frames →
      (∀ packet ∈ packets, packet.length + 2 ≤ maxRecvSize - payloadHdrSize) →
      ∀ calls, packets.length ≤ calls →
        readPackets calls ⟨[], newPayload⟩ [.octets frames.flatten] = packets := by
  refine ⟨fun packet _ => convert_cases packet, ?_, ?_, ?_⟩
  · intro env t c buffer header before after ran invalid
    cases write_packet_trace ran with
    | inl silent => exact silent
    | inr spoke =>
      obtain ⟨octets, framed, _⟩ := spoke
      rw [invalid] at framed
      cases framed
  · intro env t c buffer header before call packet _ left behind found opened taken
    have framed := frame_payload_octets left behind
    rcases convert_cases packet with invalid | whole
    · obtain ⟨after, ran, silent⟩ := write_packet_invalid found opened (framed.trans invalid)
      exact ⟨after, ran, .inl ⟨invalid, silent⟩⟩
    · obtain ⟨after, ran, spoke⟩ := write_packet_frame found opened (framed.trans whole) taken
      exact ⟨after, ran, .inr ⟨whole, spoke⟩⟩
  · intro frames written room calls enough
    have read := read_packets_frames packets calls full room enough
    rw [written_frames written]
    cases calls with
    | zero => exact read
    | succ calls =>
      rw [readPackets] at read ⊢
      rw [read_packet_one_chunk, read]

theorem async_framing_two_packets :
    ([0x7e, 0x7d, 1] : Bytes) ≠ [] ∧
      (∃ after, writePacket (sampleEnv (fun _ _ => none) 5) 1 (.call 3)
          ⟨List.replicate payloadHdrSize 0 ++ [0x7e, 0x7d, 1], payloadHdrSize + 3⟩ ⟨0, 0, 0, 0⟩
          sampleOpen = .ok () after ∧
        after.trace = [.writePacket 1 (.call 3) (pppFrame [0x7e, 0x7d, 1])]) ∧
      readPackets 2 ⟨[], newPayload⟩
          [.octets (pppFrame [0x7e, 0x7d, 1] ++ pppFrame [0x41])] =
        [[0x7e, 0x7d, 1], [0x41]] := by
  have trip := async_framing_round_trip [[0x7e, 0x7d, 1], [0x41]] (by simp)
  refine ⟨by simp, ?_, ?_⟩
  · obtain ⟨after, ran, refused | ⟨_, spoke⟩⟩ := trip.2.2.1 (sampleEnv (fun _ _ => none) 5) 1
      (.call 3) ⟨List.replicate payloadHdrSize 0 ++ [0x7e, 0x7d, 1], payloadHdrSize + 3⟩
      ⟨0, 0, 0, 0⟩ sampleOpen { ref := 3, fd := 4 } [0x7e, 0x7d, 1] (by simp) (by decide)
      (by decide) rfl (by decide) rfl
    · exact absurd refused.1 (by decide +kernel)
    · exact ⟨after, ran, spoke⟩
  · simpa using trip.2.2.2 [pppFrame [0x7e, 0x7d, 1], pppFrame [0x41]]
      (.cons (by decide +kernel) (.cons (by decide +kernel) .nil)) (by decide) 2 (by decide)

end Xl2tpd
