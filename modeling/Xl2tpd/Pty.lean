import Xl2tpd.Daemon
import Xl2tpd.Async

/-!
# The pty reader and its buffer

The reader stops at `maxlen` octets of data, but the data start behind the room for a payload
header. It stays inside as long as no data octet comes when the buffer is full up to its end.
-/

namespace Xl2tpd

set_option autoImplicit false

/-! ## Scanning -/

theorem scan_append (escape : UInt8) (buf : PppBuf) (first second : Bytes) :
    scan escape buf (first ++ second) =
      match scan escape buf first with
      | .more escape buf => scan escape buf second
      | .ended buf rest => .ended buf (rest ++ second)
      | .invalid buf => .invalid buf
      | .overrun => .overrun := by
  induction first generalizing escape buf with
  | nil => rfl
  | cons ch rest induction =>
    simp only [List.cons_append, scan]
    by_cases flag : ch = pppFlag
    · simp only [if_pos flag]
      by_cases escaped : escape ≠ 0
      · simp only [if_pos escaped]
      · simp only [if_neg escaped]
        split
        · rfl
        · split
          · rfl
          · exact induction escape buf
    · simp only [if_neg flag]
      split
      · exact induction pppTrans buf
      · split
        · split
          · exact induction 0 _
          · rfl
        · rfl

def pppRoom : Nat := maxRecvSize - payloadHdrSize

/-- No data octet comes while the buffer is full, up to the flag that ends the
packet. -/
def fitsRoom (escape : UInt8) (len : Nat) : Bytes → Bool
  | [] => true
  | ch :: rest =>
      if ch = pppFlag then escape ≠ 0 || len ≠ 0 || fitsRoom escape len rest
      else if ch = pppEscape then fitsRoom pppTrans len rest
      else len < pppRoom && fitsRoom 0 (len + 1) rest

/-- The buffer as `new_payload` and `recycle_payload` set it up, with data inside. -/
structure PppBuf.Inside (buf : PppBuf) : Prop where
  start : buf.start = payloadHdrSize
  room : buf.octets.length ≤ pppRoom

def Scan.buf? : Scan → Option PppBuf
  | .more _ buf => some buf
  | .ended buf _ => some buf
  | .invalid buf => some buf
  | .overrun => none

theorem scan_inside (escape : UInt8) (buf : PppBuf) (octets : Bytes) (inside : buf.Inside) :
    fitsRoom escape buf.octets.length octets = (scan escape buf octets).buf?.isSome ∧
      ∀ after ∈ (scan escape buf octets).buf?, after.Inside := by
  induction octets generalizing escape buf with
  | nil => simpa [fitsRoom, scan, Scan.buf?] using inside
  | cons ch rest induction =>
    obtain ⟨start, room⟩ := inside
    by_cases flag : ch = pppFlag
    · by_cases escaped : escape ≠ 0
      · simpa [fitsRoom, scan, flag, escaped, Scan.buf?] using ⟨start, room⟩
      · simp only [fitsRoom, scan, if_pos flag, if_neg escaped]
        by_cases two : 2 ≤ buf.octets.length
        · have filled : buf.octets.length ≠ 0 := by omega
          have shorter : (buf.octets.take (buf.octets.length - 2)).length ≤ pppRoom :=
            (List.length_take_le' _ _).trans room
          simpa [two, filled, Scan.buf?] using ⟨start, shorter⟩
        · by_cases one : buf.octets.length = 1
          · simpa [one, Scan.buf?] using ⟨start, room⟩
          · have none : buf.octets.length = 0 := by omega
            have next := induction escape buf ⟨start, room⟩
            simpa [two, one, none, escaped] using next
    · by_cases plain : ch = pppEscape
      · simpa only [fitsRoom, scan, if_neg flag, if_pos plain]
          using induction pppTrans buf ⟨start, room⟩
      · simp only [fitsRoom, if_neg flag, if_neg plain]
        by_cases below : buf.octets.length < pppRoom
        · have stored : buf.start + buf.octets.length < maxRecvSize := by
            simp only [pppRoom, payloadHdrSize, maxRecvSize] at start below ⊢
            omega
          have next := induction 0 { buf with octets := buf.octets ++ [ch ^^^ escape] }
            ⟨start, by simpa [Nat.succ_le_iff] using below⟩
          rw [scan_data escape buf ch rest flag plain stored]
          simpa [below] using next
        · have limit : buf.octets.length < maxRecvSize := by
            simp only [pppRoom, payloadHdrSize, maxRecvSize] at room ⊢
            omega
          have full : ¬ buf.start + buf.octets.length < maxRecvSize := by
            simp only [pppRoom, payloadHdrSize, maxRecvSize] at start below ⊢
            omega
          simp [scan, flag, plain, below, limit, full, Scan.buf?]

/-! ## One call -/

/-- The octets that one call can get from the pty before a read comes back empty. -/
def comingOctets (errors : Nat) : List ReadResult → Bytes
  | [] => []
  | .octets [] :: _ => []
  | .octets chunk :: supply => chunk ++ comingOctets errors supply
  | .again :: _ => []
  | .failed :: supply => if errors + 1 > 10 then [] else comingOctets (errors + 1) supply

def Reading.buf? (reading : Reading) : Option PppBuf :=
  match reading.status with
  | .overrun => none
  | _ => some reading.reader.buf

/-- A call ends with the buffer that a scan of what it has and what it gets ends
with. -/
theorem read_loop_scan (errors : Nat) (escape : UInt8) (reader : Reader)
    (supply : List ReadResult) :
    (readLoop errors escape reader supply).buf? =
      (scan escape reader.buf (reader.rbuf ++ comingOctets errors supply)).buf? := by
  induction supply generalizing errors escape reader with
  | nil =>
    simp only [comingOctets, List.append_nil, readLoop]
    cases scan escape reader.buf reader.rbuf <;> rfl
  | cons result supply induction =>
    rw [scan_append]
    simp only [readLoop]
    cases scan escape reader.buf reader.rbuf with
    | more escape buf =>
      cases result with
      | octets chunk =>
        cases chunk with
        | nil => rfl
        | cons ch chunk => exact induction errors escape ⟨ch :: chunk, buf⟩
      | again => rfl
      | failed =>
        by_cases many : errors + 1 > 10
        · simp only [comingOctets, if_pos many]
          rfl
        · simp only [comingOctets, if_neg many]
          exact induction (errors + 1) escape ⟨[], buf⟩
    | ended buf rest => rfl
    | invalid buf => rfl
    | overrun => rfl

/-- What the reader before a call and the octets it gets have to meet. -/
def readFits (reader : Reader) (supply : List ReadResult) : Bool :=
  fitsRoom 0 reader.buf.octets.length (reader.rbuf ++ comingOctets 0 supply)

theorem read_packet_inside (reader : Reader) (supply : List ReadResult)
    (inside : reader.buf.Inside) :
    readFits reader supply = (readPacket reader supply).buf?.isSome ∧
      ∀ after ∈ (readPacket reader supply).buf?, after.Inside := by
  unfold readFits readPacket
  rw [read_loop_scan]
  exact scan_inside 0 reader.buf _ inside

/-! ## Runs -/

/-- What happens to the buffer of a call. -/
inductive PtyOp
  | read (supply : List ReadResult)
  | recycle

def ptyStep (reader : Reader) : PtyOp → Option Reader
  | .read supply =>
      (readPacket reader supply).buf?.map fun _ => (readPacket reader supply).reader
  | .recycle => some { reader with buf := recyclePayload reader.buf }

def ptyRun : Reader → List PtyOp → Option Reader
  | reader, [] => some reader
  | reader, op :: ops => (ptyStep reader op).bind fun next => ptyRun next ops

/-- Every call of `read_packet` in a sequence of operations meets `readFits`. -/
def ptyFits : Reader → List PtyOp → Bool
  | _, [] => true
  | reader, .read supply :: ops =>
      readFits reader supply && ptyFits (readPacket reader supply).reader ops
  | reader, .recycle :: ops => ptyFits { reader with buf := recyclePayload reader.buf } ops

theorem new_payload_inside : newPayload.Inside := ⟨rfl, Nat.zero_le _⟩

theorem pty_run_inside (reader : Reader) (ops : List PtyOp) (inside : reader.buf.Inside) :
    ptyFits reader ops = (ptyRun reader ops).isSome ∧
      ∀ after ∈ ptyRun reader ops, after.buf.Inside := by
  induction ops generalizing reader with
  | nil => simpa [ptyFits, ptyRun] using inside
  | cons op ops induction =>
    cases op with
    | recycle => exact induction _ new_payload_inside
    | read supply =>
      obtain ⟨fits, keeps⟩ := read_packet_inside reader supply inside
      simp only [ptyFits, ptyRun, ptyStep]
      cases ended : (readPacket reader supply).buf? with
      | none => simp [fits, ended]
      | some buf =>
        have same : (readPacket reader supply).reader.buf = buf := by
          unfold Reading.buf? at ended
          split at ended
          · cases ended
          · exact Option.some.inj ended
        have next := induction (readPacket reader supply).reader
          (by rw [same]; exact keeps buf ended)
        simpa [fits, ended] using next

theorem add_payload_hdr_extent (tunnel : Tunnel) (call : Call) (buf : PppBuf)
    (start : buf.start = payloadHdrSize) :
    (addPayloadHdr tunnel call buf).start + (addPayloadHdr tunnel call buf).octets.length =
      payloadHdrSize + buf.octets.length := by
  cases lbit : call.lbit <;> cases flow : (call.fbit || call.ourfbit) <;>
    simp [addPayloadHdr, payloadPacket, lbit, flow, start, payloadHdrSize, netBytes] <;> omega

theorem pty_reader_inside (ops : List PtyOp) :
    ptyFits {} ops = true ↔
      ∃ reader, ptyRun {} ops = some reader ∧
        reader.buf.start + reader.buf.octets.length ≤ maxRecvSize ∧
        ∀ tunnel call,
          (addPayloadHdr tunnel call reader.buf).start +
            (addPayloadHdr tunnel call reader.buf).octets.length ≤ maxRecvSize := by
  obtain ⟨fits, keeps⟩ := pty_run_inside {} ops new_payload_inside
  rw [fits, Option.isSome_iff_exists]
  constructor
  · rintro ⟨reader, ran⟩
    obtain ⟨start, room⟩ := keeps reader ran
    have extent : payloadHdrSize + reader.buf.octets.length ≤ maxRecvSize := by
      simp only [pppRoom, payloadHdrSize, maxRecvSize] at room ⊢
      omega
    refine ⟨reader, ran, by rw [start]; exact extent, fun tunnel call => ?_⟩
    rw [add_payload_hdr_extent tunnel call reader.buf start]
    exact extent
  · rintro ⟨reader, ran, _⟩
    exact ⟨reader, ran⟩

theorem fits_room_replicate (len count : Nat) (room : len ≤ pppRoom) :
    fitsRoom 0 len (List.replicate count 0x41) = decide (len + count ≤ pppRoom) := by
  induction count generalizing len with
  | zero => simpa [fitsRoom] using room
  | succ count induction =>
    have data : fitsRoom 0 len (List.replicate (count + 1) 0x41) =
        (decide (len < pppRoom) && fitsRoom 0 (len + 1) (List.replicate count 0x41)) := rfl
    rw [data]
    by_cases below : len < pppRoom
    · rw [induction (len + 1) below]
      simp only [below, decide_true, Bool.true_and, Nat.add_right_comm, Nat.add_assoc]
    · simp [below]
      omega

/-- One octet more than fits behind the header leaves the allocation. -/
theorem pty_reader_overrun :
    ¬ ∃ reader, ptyRun {} [.read [.octets (List.replicate (4082 + 1) 0x41)]] = some reader := by
  intro ran
  have fits := (pty_run_inside {} [.read [.octets (List.replicate (4082 + 1) 0x41)]]
    new_payload_inside).1
  have octets : comingOctets 0 [.octets (List.replicate (4082 + 1) 0x41)] =
      List.replicate (4082 + 1) 0x41 := List.append_nil _
  rw [Option.isSome_iff_exists.mpr ran] at fits
  simp only [ptyFits, readFits, octets, Bool.and_true, List.nil_append] at fits
  have long := fits_room_replicate 0 (4082 + 1) (Nat.zero_le _)
  rw [show ({} : Reader).buf.octets.length = 0 from rfl, long] at fits
  exact absurd fits (by decide)

end Xl2tpd
