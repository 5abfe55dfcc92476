import Xl2tpd.Pty

/-!
# How the octets of a pty arrive

The kernel hands the stream over in pieces, with reads in between that bring nothing. Such a read
ends the call of `read_packet`, and with it an escape whose octet has not come yet. Everything
else of the reader's state is kept. An escaped flag is an error, and the call is closed.
-/

namespace Xl2tpd

set_option autoImplicit false

variable {before : List Bytes} {length : Nat} {supply : List ReadResult} {octets : Bytes}

inductive Pulse
  | octet (ch : UInt8)
  | pause
  deriving DecidableEq, Repr

def pulses : List ReadResult → List Pulse
  | [] => []
  | .octets [] :: supply => .pause :: pulses supply
  | .octets chunk :: supply => chunk.map Pulse.octet ++ pulses supply
  | .again :: supply => .pause :: pulses supply
  | .failed :: supply => pulses supply

def stream : List Pulse → Bytes
  | [] => []
  | .octet ch :: later => ch :: stream later
  | .pause :: later => stream later

/-- An octet, whether an escape stood in front of it, and whether a call ended between the two. -/
structure Voice where
  ch : UInt8
  escaped : Bool
  lost : Bool
  deriving DecidableEq, Repr

def transOf (escaped lost : Bool) : UInt8 := if escaped && !lost then pppTrans else 0

def Voice.value (voice : Voice) : UInt8 := voice.ch ^^^ transOf voice.escaped voice.lost

/-- The octets between two flags, and the flag that ends them. -/
structure Frame where
  data : List Voice
  flag : Voice
  deriving DecidableEq, Repr

def voiced (escaped lost : Bool) (data : List Voice) : List Pulse → List Frame
  | [] => []
  | .pause :: later => voiced escaped escaped data later
  | .octet ch :: later =>
      if ch = pppFlag then ⟨data, ⟨ch, escaped, lost⟩⟩ :: voiced false false [] later
      else if ch = pppEscape then voiced true false data later
      else voiced false false (data ++ [⟨ch, escaped, lost⟩]) later

/-- A frame without its checksum; a single octet is passed on as it is. -/
def information {Item : Type} (data : List Item) : List Item :=
  if 2 ≤ data.length then data.take (data.length - 2) else data

def Frame.packet (frame : Frame) : Bytes := information (frame.data.map Voice.value)

/-- The packets of the frames in front of the first escaped flag; empty ones are not passed on. -/
def packetsOf : List Frame → List Bytes
  | [] => []
  | frame :: frames =>
      if transOf frame.flag.escaped frame.flag.lost ≠ 0 then []
      else (if frame.packet = [] then [] else [frame.packet]) ++ packetsOf frames

/-- No more data between two flags than the buffer has room for. -/
def fair (len : Nat) : Bytes → Bool
  | [] => true
  | ch :: rest =>
      if ch = pppFlag then fair 0 rest
      else if ch = pppEscape then fair len rest
      else len < pppRoom && fair (len + 1) rest

/-! ## The reader on a fair stream -/

structure Tracks (escaped lost : Bool) (data : List Voice) (escape : UInt8) (buf : PppBuf) :
    Prop where
  start : buf.start = payloadHdrSize
  octets : buf.octets = data.map Voice.value
  escape : escape = transOf escaped lost

theorem stream_append (octets : Bytes) (later : List Pulse) :
    stream (octets.map Pulse.octet ++ later) = octets ++ stream later := by
  induction octets with
  | nil => rfl
  | cons ch octets induction => simp only [List.map_cons, List.cons_append, stream, induction]

def Scan.Goes (before : List Bytes) (length : Nat) (later : List Pulse) : Scan → Prop
  | .more escape buf =>
      ∃ escaped lost data, Tracks escaped lost data escape buf ∧
        fair data.length (stream later) = true ∧
        before = packetsOf (voiced escaped lost data later)
  | .ended buf rest =>
      rest.length < length ∧ buf.start = payloadHdrSize ∧
        fair 0 (rest ++ stream later) = true ∧
        before = (if buf.octets = [] then [] else [buf.octets]) ++
          packetsOf (voiced false false [] (rest.map Pulse.octet ++ later))
  | .invalid _ => before = []
  | .overrun => False

theorem Scan.Goes.longer {later : List Pulse} {scan : Scan} (goes : scan.Goes before length later) :
    scan.Goes before (length + 1) later := by
  cases scan with
  | ended buf rest => exact ⟨Nat.lt_succ_of_lt goes.1, goes.2⟩
  | _ => exact goes

theorem scan_goes (escaped lost : Bool) (data : List Voice) (escape : UInt8) (buf : PppBuf)
    (octets : Bytes) (later : List Pulse) (tracks : Tracks escaped lost data escape buf)
    (fairly : fair data.length (octets ++ stream later) = true) :
    (scan escape buf octets).Goes
      (packetsOf (voiced escaped lost data (octets.map Pulse.octet ++ later)))
      octets.length later := by
  induction octets generalizing escaped lost data escape buf with
  | nil => exact ⟨escaped, lost, data, tracks, fairly, rfl⟩
  | cons ch rest induction =>
    have length : buf.octets.length = data.length := by
      rw [tracks.octets, List.length_map]
    simp only [List.cons_append, fair] at fairly
    simp only [List.map_cons, List.cons_append, voiced, List.length_cons]
    by_cases flag : ch = pppFlag
    · simp only [if_pos flag] at fairly ⊢
      by_cases broken : escape ≠ 0
      · -- an escaped flag
        simp only [scan, if_pos flag, if_pos broken]
        exact if_pos (tracks.escape ▸ broken)
      have clear : escape = 0 := not_not.mp broken
      rw [packetsOf, if_neg (tracks.escape ▸ broken), Frame.packet, ← tracks.octets]
      simp only [scan, if_pos flag, clear, ne_eq, not_true_eq_false, if_false]
      by_cases two : 2 ≤ buf.octets.length
      · simp only [if_pos two, information]
        exact ⟨by simp, tracks.start, fairly, rfl⟩
      · by_cases one : buf.octets.length = 1
        · simp only [if_neg two, if_pos one, information]
          exact ⟨by simp, tracks.start, fairly, rfl⟩
        · have none : buf.octets = [] := by
            rw [← List.length_eq_zero_iff]
            omega
          have next := induction false false [] 0 buf ⟨tracks.start, none, rfl⟩ fairly
          have empty : information buf.octets = [] := by
            rw [none]
            rfl
          rw [if_neg two, if_neg one, empty, if_pos rfl, List.nil_append]
          exact next.longer
    · by_cases plain : ch = pppEscape
      · simp only [if_neg flag, if_pos plain] at fairly ⊢
        simp only [scan, if_neg flag, if_pos plain]
        exact (induction true false data pppTrans buf
          ⟨tracks.start, tracks.octets, rfl⟩ fairly).longer
      · simp only [if_neg flag, if_neg plain] at fairly ⊢
        obtain ⟨below, fairly⟩ := Bool.and_eq_true_iff.mp fairly
        have room : buf.start + buf.octets.length < maxRecvSize := by
          have start := tracks.start
          have inside := of_decide_eq_true below
          simp only [pppRoom, payloadHdrSize, maxRecvSize] at start inside ⊢
          omega
        rw [scan_data escape buf ch rest flag plain room]
        refine (induction false false (data ++ [⟨ch, escaped, lost⟩]) 0
          { buf with octets := buf.octets ++ [ch ^^^ escape] } ⟨tracks.start, ?_, rfl⟩ ?_).longer
        · simp only [tracks.octets, List.map_append, List.map_singleton, Voice.value,
            tracks.escape]
        · simpa using fairly

def pending (reader : Reader) (supply : List ReadResult) : Nat :=
  reader.rbuf.length + (stream (pulses supply)).length + supply.length

def Reading.next (reading : Reading) : Reader :=
  match reading.status with
  | .length (_ + 1) => { reading.reader with buf := recyclePayload reading.reader.buf }
  | _ => reading.reader

def Reading.packets (reading : Reading) : List Bytes :=
  match reading.status with
  | .length (_ + 1) => [reading.reader.buf.octets]
  | _ => []

/-- One call delivers the next packet, or nothing, and leaves the others for the calls to come. -/
structure Reading.Goes (before : List Bytes) (length : Nat) (reading : Reading) : Prop where
  inside : reading.status ≠ .overrun
  failed : reading.status = .error → before = []
  goes : reading.status ≠ .error → pending reading.next reading.supply ≤ length - 1 ∧
    .failed ∉ reading.supply ∧
    ∃ escaped lost data, Tracks escaped lost data 0 reading.next.buf ∧
      fair data.length (reading.next.rbuf ++ stream (pulses reading.supply)) = true ∧
      before = reading.packets ++ packetsOf (voiced escaped lost data
        (reading.next.rbuf.map Pulse.octet ++ pulses reading.supply))

theorem Reading.Goes.longer {wider : Nat} {reading : Reading} (goes : reading.Goes before length)
    (wide : length ≤ wider) : reading.Goes before wider where
  inside := goes.inside
  failed := goes.failed
  goes := fun fine =>
    ⟨(goes.goes fine).1.trans (Nat.sub_le_sub_right wide 1), (goes.goes fine).2⟩

theorem read_ended_goes {buf : PppBuf} {rest : Bytes} (sound : .failed ∉ supply)
    (goes : (Scan.ended buf rest).Goes before length (pulses supply)) :
    Reading.Goes before (length + (stream (pulses supply)).length + supply.length)
      ⟨.length buf.octets.length, ⟨rest, buf⟩, supply⟩ := by
  obtain ⟨shorter, start, fairly, same⟩ := goes
  cases none : buf.octets with
  | nil =>
    rw [if_pos none] at same
    refine ⟨by simp, by simp, fun _ => ⟨?_, sound, false, false, [], ⟨start, none, rfl⟩, fairly,
      same⟩⟩
    simp only [pending, Reading.next, List.length_nil]
    omega
  | cons ch octets =>
    rw [if_neg (by simp [none])] at same
    refine ⟨by simp, by simp, fun _ => ⟨?_, sound, false, false, [], ⟨rfl, rfl, rfl⟩, fairly,
      same⟩⟩
    simp only [pending, Reading.next, List.length_cons]
    omega

theorem read_loop_goes (escaped lost : Bool) (data : List Voice) (errors : Nat) (escape : UInt8)
    (reader : Reader) (supply : List ReadResult) (sound : .failed ∉ supply)
    (tracks : Tracks escaped lost data escape reader.buf)
    (fairly : fair data.length (reader.rbuf ++ stream (pulses supply)) = true) :
    (readLoop errors escape reader supply).Goes
      (packetsOf (voiced escaped lost data (reader.rbuf.map Pulse.octet ++ pulses supply)))
      (pending reader supply) := by
  induction supply generalizing escaped lost data escape reader with
  | nil =>
    have scanned := scan_goes escaped lost data escape reader.buf reader.rbuf (pulses []) tracks
      fairly
    simp only [readLoop]
    cases outcome : scan escape reader.buf reader.rbuf with
    | more escape buf =>
      rw [outcome] at scanned
      obtain ⟨escaped, lost, data, tracks, fairly, same⟩ := scanned
      exact ⟨by simp, by simp, fun _ => ⟨by simp [pending, Reading.next, pulses, stream], sound,
        escaped, escaped, data, ⟨tracks.start, tracks.octets, by simp [transOf]⟩, fairly, same⟩⟩
    | ended buf rest =>
      rw [outcome] at scanned
      exact read_ended_goes sound scanned
    | invalid buf =>
      rw [outcome] at scanned
      exact ⟨by simp, fun _ => scanned, fun fine => absurd rfl fine⟩
    | overrun =>
      rw [outcome] at scanned
      exact scanned.elim
  | cons result supply induction =>
    have scanned := scan_goes escaped lost data escape reader.buf reader.rbuf
      (pulses (result :: supply)) tracks fairly
    have later : ReadResult.failed ∉ supply := fun member => sound (List.mem_cons_of_mem _ member)
    simp only [readLoop]
    cases outcome : scan escape reader.buf reader.rbuf with
    | more escape buf =>
      rw [outcome] at scanned
      obtain ⟨escaped, lost, data, tracks, fairly, same⟩ := scanned
      have idle : pulses (result :: supply) = .pause :: pulses supply →
          Reading.Goes
            (packetsOf (voiced escaped lost data (pulses (result :: supply))))
            (pending reader (result :: supply)) ⟨.length 0, ⟨[], buf⟩, supply⟩ := by
        intro pause
        rw [pause] at fairly ⊢
        refine ⟨by simp, by simp, fun _ => ⟨?_, later, escaped, escaped, data,
          ⟨tracks.start, tracks.octets, by simp [transOf]⟩, fairly, rfl⟩⟩
        simp only [pending, pause, stream, Reading.next, List.length_nil, List.length_cons]
        omega
      rw [same]
      cases result with
      | octets chunk =>
        cases chunk with
        | nil => exact idle rfl
        | cons ch chunk =>
          have split : stream (pulses (.octets (ch :: chunk) :: supply)) =
              (ch :: chunk) ++ stream (pulses supply) := stream_append (ch :: chunk) _
          rw [split] at fairly
          refine (induction escaped lost data escape ⟨ch :: chunk, buf⟩ later tracks
            fairly).longer ?_
          simp only [pending, split, List.length_append, List.length_cons]
          omega
      | again => exact idle rfl
      | failed => exact absurd List.mem_cons_self sound
    | ended buf rest =>
      rw [outcome] at scanned
      exact read_ended_goes sound scanned
    | invalid buf =>
      rw [outcome] at scanned
      exact ⟨by simp, fun _ => scanned, fun fine => absurd rfl fine⟩
    | overrun =>
      rw [outcome] at scanned
      exact scanned.elim

/-- With enough calls the packets of a fair stream are those between its flags. -/
theorem read_packets_voiced (calls : Nat) (escaped lost : Bool) (data : List Voice)
    (reader : Reader) (supply : List ReadResult) (sound : .failed ∉ supply)
    (tracks : Tracks escaped lost data 0 reader.buf)
    (fairly : fair data.length (reader.rbuf ++ stream (pulses supply)) = true)
    (enough : pending reader supply ≤ calls) :
    readPackets calls reader supply =
      packetsOf (voiced escaped lost data (reader.rbuf.map Pulse.octet ++ pulses supply)) := by
  induction calls generalizing escaped lost data reader supply with
  | zero =>
    have nothing : reader.rbuf = [] ∧ supply = [] := by
      simp only [pending] at enough
      exact ⟨List.length_eq_zero_iff.mp (by omega), List.length_eq_zero_iff.mp (by omega)⟩
    rw [nothing.1, nothing.2]
    rfl
  | succ calls induction =>
    have went := read_loop_goes escaped lost data 0 0 reader supply sound tracks fairly
    simp only [readPackets, readPacket]
    generalize readLoop 0 0 reader supply = reading at went
    cases status : reading.status with
    | length len =>
      obtain ⟨fewer, sound, escaped, lost, data, tracks, fairly, same⟩ :=
        went.goes (by simp [status])
      rw [same, ← induction escaped lost data _ _ sound tracks fairly (by omega)]
      cases len with
      | zero => simp only [Reading.packets, Reading.next, status, List.nil_append]
      | succ len => simp only [Reading.packets, Reading.next, status, List.singleton_append]
    | error => exact (went.failed status).symm
    | overrun => exact absurd status went.inside

/-! ## What the pieces change -/

def Voice.kept (voice : Voice) : Voice := { voice with lost := false }

def Voice.dropped (voice : Voice) : Voice := { voice with lost := voice.escaped }

def Frame.map (change : Voice → Voice) (frame : Frame) : Frame :=
  ⟨frame.data.map change, change frame.flag⟩

/-- The data between the flags do not depend on the pieces; which escapes got lost does. -/
theorem voiced_kept (escaped lost : Bool) (data : List Voice) (later : List Pulse) :
    (voiced escaped lost data later).map (Frame.map Voice.kept) =
      voiced escaped false (data.map Voice.kept) ((stream later).map Pulse.octet) := by
  induction later generalizing escaped lost data with
  | nil => rfl
  | cons pulse later induction =>
    cases pulse with
    | pause => exact induction escaped escaped data
    | octet ch =>
      simp only [voiced, stream, List.map_cons]
      split
      · rw [List.map_cons, induction false false []]
        rfl
      · split
        · exact induction true false data
        · rw [induction false false, List.map_append]
          rfl

theorem voiced_dropped (escaped lost : Bool) (data : List Voice) (octets : Bytes) :
    voiced escaped escaped (data.map Voice.dropped)
        (octets.flatMap fun ch => [.octet ch, .pause]) =
      (voiced escaped lost data (octets.map Pulse.octet)).map (Frame.map Voice.dropped) := by
  induction octets generalizing escaped lost data with
  | nil => rfl
  | cons ch octets induction =>
    simp only [List.flatMap_cons, List.cons_append, List.nil_append, voiced, List.map_cons]
    split
    · rw [List.map_cons, ← induction false false []]
      rfl
    · split
      · exact induction true false data
      · rw [← induction false false, List.map_append]
        rfl

/-- No read comes back empty directly behind an escape. -/
def steady (escaped : Bool) : List Pulse → Bool
  | [] => true
  | .pause :: later => !escaped && steady false later
  | .octet ch :: later => steady (ch = pppEscape) later

theorem voiced_steady (escaped : Bool) (data : List Voice) (later : List Pulse)
    (calm : steady escaped later = true) :
    voiced escaped false data later =
      voiced escaped false data ((stream later).map Pulse.octet) := by
  induction later generalizing escaped data with
  | nil => rfl
  | cons pulse later induction =>
    cases pulse with
    | pause =>
      obtain ⟨off, calm⟩ := Bool.and_eq_true_iff.mp calm
      have clear : escaped = false := by simpa using off
      subst clear
      exact induction false data calm
    | octet ch =>
      simp only [steady] at calm
      simp only [voiced, stream, List.map_cons]
      by_cases flag : ch = pppFlag
      · have other : ch ≠ pppEscape := by rw [flag]; decide
        simp only [other, decide_false] at calm
        simp only [if_pos flag, induction false [] calm]
      · by_cases plain : ch = pppEscape
        · simp only [plain, decide_true] at calm
          simp only [if_neg flag, if_pos plain, induction true data calm]
        · simp only [plain, decide_false] at calm
          simp only [if_neg flag, if_neg plain, induction false _ calm]

theorem information_map {Item Other : Type} (change : Item → Other) (data : List Item) :
    information (data.map change) = (information data).map change := by
  unfold information
  rw [List.length_map]
  split
  · rw [List.map_take]
  · rfl

theorem information_mem {Item : Type} {data : List Item} {item : Item}
    (member : item ∈ information data) : item ∈ data := by
  unfold information at member
  split at member
  · exact List.mem_of_mem_take member
  · exact member

theorem packet_map (change : Voice → Voice) (frame : Frame) :
    (frame.map change).packet =
      (information frame.data).map fun voice => (change voice).value := by
  rw [Frame.packet, Frame.map, List.map_map, information_map]
  rfl

theorem packet_nil_iff (frame : Frame) : frame.packet = [] ↔ information frame.data = [] := by
  rw [Frame.packet, information_map, List.map_eq_nil_iff]

theorem packets_of_next (frame : Frame) (frames : List Frame)
    (calm : transOf frame.flag.escaped frame.flag.lost = 0) :
    packetsOf (frame :: frames) =
      (if information frame.data = [] then [] else [frame.packet]) ++ packetsOf frames := by
  rw [packetsOf, if_neg (not_not.mpr calm)]
  simp only [packet_nil_iff]

theorem dropped_calm (voice : Voice) : transOf voice.dropped.escaped voice.dropped.lost = 0 := by
  simp [Voice.dropped, transOf]

/-- No octet of a packet in front of the first escaped flag is escaped, and there is no packet
behind it. -/
def plainFrames : List Frame → Bool
  | [] => true
  | frame :: frames =>
      if frame.flag.escaped then (frame :: frames).all fun frame => information frame.data = []
      else (information frame.data).all (fun voice => !voice.escaped) && plainFrames frames

def plainPackets (octets : Bytes) : Bool :=
  plainFrames (voiced false false [] (octets.map Pulse.octet))

theorem plain_frames_kept (frames : List Frame) :
    plainFrames (frames.map (Frame.map Voice.kept)) = plainFrames frames := by
  have data (frame : Frame) : information (frame.map Voice.kept).data =
      (information frame.data).map Voice.kept := information_map _ _
  induction frames with
  | nil => rfl
  | cons frame frames induction =>
    simp only [List.map_cons, plainFrames, induction, List.all_cons, List.all_map, data,
      Function.comp_def, List.map_eq_nil_iff]
    rfl

theorem packets_of_empty (frames : List Frame)
    (none : ∀ frame ∈ frames, information frame.data = []) : packetsOf frames = [] := by
  induction frames with
  | nil => rfl
  | cons frame frames induction =>
    rw [packetsOf, if_pos ((packet_nil_iff frame).mpr (none frame List.mem_cons_self)),
      induction fun other member => none other (List.mem_cons_of_mem _ member)]
    exact ite_self _

theorem packets_of_kept (frames : List Frame) (plain : plainFrames frames = true) :
    packetsOf frames = packetsOf (frames.map (Frame.map Voice.kept)) := by
  induction frames with
  | nil => rfl
  | cons frame frames induction =>
    cases escaped : frame.flag.escaped with
    | true =>
      rw [plainFrames, if_pos escaped, List.all_eq_true] at plain
      rw [packets_of_empty _ fun other member => of_decide_eq_true (plain other member),
        packets_of_empty]
      intro kept member
      obtain ⟨other, listed, rfl⟩ := List.mem_map.mp member
      rw [Frame.map, information_map, of_decide_eq_true (plain other listed)]
      rfl
    | false =>
      rw [plainFrames, escaped, if_neg (by simp), Bool.and_eq_true, List.all_eq_true] at plain
      have packet : (frame.map Voice.kept).packet = frame.packet := by
        rw [packet_map, Frame.packet, information_map]
        refine List.map_congr_left fun voice inside => ?_
        have unescaped : voice.escaped = false := by simpa using plain.1 voice inside
        simp only [Voice.value, Voice.kept, unescaped, transOf, Bool.false_and]
      rw [List.map_cons, packetsOf, packetsOf, packet, induction plain.2]
      simp only [Frame.map, Voice.kept, escaped, transOf, Bool.false_and]

theorem empty_of_dropped (frames : List Frame)
    (none : packetsOf (frames.map (Frame.map Voice.dropped)) = []) :
    ∀ frame ∈ frames, information frame.data = [] := by
  induction frames with
  | nil => simp
  | cons frame frames induction =>
    rw [List.map_cons, packets_of_next _ _ (dropped_calm _), List.append_eq_nil_iff] at none
    have first : information frame.data = [] := by
      simpa [Frame.map, information_map] using none.1
    intro other member
    rcases List.mem_cons.mp member with rfl | later
    · exact first
    · exact induction none.2 other later

theorem packets_of_dropped (frames : List Frame)
    (flags : ∀ frame ∈ frames, frame.flag.lost = false)
    (whole : ∀ frame ∈ frames, ∀ voice ∈ frame.data, voice.lost = false)
    (same : packetsOf frames = packetsOf (frames.map (Frame.map Voice.dropped))) :
    plainFrames frames = true := by
  induction frames with
  | nil => rfl
  | cons frame frames induction =>
    have here := flags frame List.mem_cons_self
    unfold plainFrames
    cases escaped : frame.flag.escaped with
    | true =>
      -- one chunking ends here, the other reads on
      rw [packetsOf, if_pos (by rw [escaped, here]; decide)] at same
      rw [if_pos rfl, List.all_eq_true]
      exact fun other member => decide_eq_true (empty_of_dropped _ same.symm other member)
    | false =>
      have data : information (frame.map Voice.dropped).data = [] ↔ information frame.data = [] := by
        rw [Frame.map, information_map, List.map_eq_nil_iff]
      rw [List.map_cons, packets_of_next _ _ (by rw [escaped]; rfl),
        packets_of_next _ _ (dropped_calm _), packet_map, Frame.packet, information_map] at same
      rw [if_neg (by simp), Bool.and_eq_true, List.all_eq_true]
      have rest := induction (fun other member => flags other (List.mem_cons_of_mem _ member))
        fun other member => whole other (List.mem_cons_of_mem _ member)
      by_cases none : information frame.data = []
      · rw [if_pos none, if_pos (data.mpr none)] at same
        exact ⟨by simp [none], rest same⟩
      · rw [if_neg none, if_neg (data.not.mpr none)] at same
        obtain ⟨values, same⟩ := List.cons.inj same
        refine ⟨fun voice inside => ?_, rest same⟩
        have value := List.map_inj_left.mp values voice inside
        have clear := whole frame List.mem_cons_self voice (information_mem inside)
        cases lost : voice.escaped with
        | false => rfl
        | true =>
          simp only [Voice.value, Voice.dropped, lost, clear, transOf] at value
          exact absurd (UInt8.xor_right_inj voice.ch |>.mp value) (by decide)

/-! ## Chunkings -/

/-- Reads that bring a stream in pieces, some of them empty. -/
structure Chunking (octets : Bytes) (supply : List ReadResult) : Prop where
  whole : stream (pulses supply) = octets
  sound : .failed ∉ supply
  room : ∀ chunk, .octets chunk ∈ supply → chunk.length ≤ maxRecvSize

/-- Enough calls deliver the same packets from both. -/
def SamePackets (first second : List ReadResult) : Prop :=
  ∃ enough, ∀ calls, enough ≤ calls → readPackets calls {} first = readPackets calls {} second

theorem read_packets_chunking (calls : Nat) (fairly : fair 0 octets = true)
    (chunking : Chunking octets supply) (enough : pending {} supply ≤ calls) :
    readPackets calls {} supply = packetsOf (voiced false false [] (pulses supply)) := by
  have read := read_packets_voiced calls false false [] {} supply chunking.sound ⟨rfl, rfl, rfl⟩
    (by simpa [chunking.whole] using fairly) enough
  simpa using read

theorem same_packets_iff {first second : List ReadResult} (fairly : fair 0 octets = true)
    (one : Chunking octets first) (other : Chunking octets second) :
    SamePackets first second ↔
      packetsOf (voiced false false [] (pulses first)) =
        packetsOf (voiced false false [] (pulses second)) := by
  constructor
  · rintro ⟨enough, same⟩
    have calls := same (enough + pending {} first + pending {} second) (by omega)
    rwa [read_packets_chunking _ fairly one (by omega),
      read_packets_chunking _ fairly other (by omega)] at calls
  · intro same
    refine ⟨pending {} first + pending {} second, fun calls enough => ?_⟩
    rw [read_packets_chunking calls fairly one (by omega),
      read_packets_chunking calls fairly other (by omega), same]

def singly (octets : Bytes) : List ReadResult := octets.map fun ch => .octets [ch]

def haltingly (octets : Bytes) : List ReadResult :=
  octets.flatMap fun ch => [.octets [ch], .again]

theorem pulses_singly (octets : Bytes) : pulses (singly octets) = octets.map Pulse.octet := by
  induction octets with
  | nil => rfl
  | cons ch octets induction =>
    change .octet ch :: pulses (singly octets) = _
    rw [induction]
    rfl

theorem pulses_haltingly (octets : Bytes) :
    pulses (haltingly octets) = octets.flatMap fun ch => [.octet ch, .pause] := by
  induction octets with
  | nil => rfl
  | cons ch octets induction =>
    change .octet ch :: .pause :: pulses (haltingly octets) = _
    rw [induction]
    rfl

theorem stream_octets (octets : Bytes) : stream (octets.map Pulse.octet) = octets := by
  simpa [stream] using stream_append octets []

theorem stream_halting (octets : Bytes) :
    stream (octets.flatMap fun ch => [.octet ch, .pause]) = octets := by
  induction octets with
  | nil => rfl
  | cons ch octets induction => exact congrArg (ch :: ·) induction

theorem chunking_singly (octets : Bytes) : Chunking octets (singly octets) where
  whole := by rw [pulses_singly, stream_octets]
  sound := by simp [singly]
  room := by
    intro chunk member
    obtain ⟨ch, _, rfl⟩ : ∃ ch, ch ∈ octets ∧ [ch] = chunk := by simpa [singly] using member
    simp [maxRecvSize]

theorem chunking_haltingly (octets : Bytes) : Chunking octets (haltingly octets) where
  whole := by rw [pulses_haltingly, stream_halting]
  sound := by simp [haltingly]
  room := by
    intro chunk member
    obtain ⟨ch, _, rfl⟩ : ∃ ch, ch ∈ octets ∧ chunk = [ch] := by simpa [haltingly] using member
    simp [maxRecvSize]

theorem packets_of_plain (chunking : Chunking octets supply) (plain : plainPackets octets = true) :
    packetsOf (voiced false false [] (pulses supply)) =
      packetsOf (voiced false false [] (octets.map Pulse.octet)) := by
  have kept := voiced_kept false false [] (pulses supply)
  rw [chunking.whole, List.map_nil] at kept
  rw [← kept]
  apply packets_of_kept
  rw [← plain_frames_kept, kept]
  exact plain

theorem chunking_independence (octets : Bytes) (fairly : fair 0 octets = true) :
    (∀ first second, Chunking octets first → Chunking octets second →
      steady false (pulses first) = true → steady false (pulses second) = true →
      SamePackets first second) ∧
    ((∀ first second, Chunking octets first → Chunking octets second →
      SamePackets first second) ↔ plainPackets octets = true) := by
  refine ⟨?_, ?_, ?_⟩
  · intro first second one other calm quiet
    rw [same_packets_iff fairly one other, voiced_steady false [] _ calm,
      voiced_steady false [] _ quiet, one.whole, other.whole]
  · intro all
    have same := all (singly octets) (haltingly octets) (chunking_singly octets)
      (chunking_haltingly octets)
    rw [same_packets_iff fairly (chunking_singly octets) (chunking_haltingly octets),
      pulses_singly, pulses_haltingly] at same
    have dropped := voiced_dropped false false [] octets
    rw [List.map_nil] at dropped
    rw [dropped] at same
    have kept := voiced_kept false false [] (octets.map Pulse.octet)
    rw [stream_octets, List.map_nil] at kept
    refine packets_of_dropped _ (fun frame member => ?_) (fun frame member voice inside => ?_) same
    · rw [← kept] at member
      obtain ⟨frame, _, rfl⟩ := List.mem_map.mp member
      rfl
    · rw [← kept] at member
      obtain ⟨frame, _, rfl⟩ := List.mem_map.mp member
      obtain ⟨voice, _, rfl⟩ := List.mem_map.mp inside
      rfl
  · intro plain first second one other
    rw [same_packets_iff fairly one other, packets_of_plain one plain, packets_of_plain other plain]

/-- An escaped octet that comes after an empty read is taken for itself. -/
theorem chunking_changes_packet :
    ¬ ∀ (octets : Bytes) (first second : List ReadResult), Chunking octets first →
      Chunking octets second → SamePackets first second := by
  intro all
  have fairly : fair 0 [0x7e, 0x7d, 0x31, 0x41, 0x42, 0x7e] = true := by decide
  have one : Chunking [0x7e, 0x7d, 0x31, 0x41, 0x42, 0x7e]
      [.octets [0x7e, 0x7d, 0x31, 0x41, 0x42, 0x7e]] :=
    ⟨rfl, by decide, by simp [maxRecvSize]⟩
  have other : Chunking [0x7e, 0x7d, 0x31, 0x41, 0x42, 0x7e]
      [.octets [0x7e, 0x7d], .again, .octets [0x31, 0x41, 0x42, 0x7e]] :=
    ⟨rfl, by decide, by simp [maxRecvSize]⟩
  have same := all _ _ _ one other
  rw [same_packets_iff fairly one other] at same
  exact absurd same (by decide)

theorem chunking_independence_sample :
    fair 0 [0x7e, 0x41, 0x7d, 0x31, 0x42, 0x7e] = true ∧
      ∀ first second, Chunking [0x7e, 0x41, 0x7d, 0x31, 0x42, 0x7e] first →
        Chunking [0x7e, 0x41, 0x7d, 0x31, 0x42, 0x7e] second → SamePackets first second :=
  ⟨by decide, (chunking_independence _ (by decide)).2.mpr (by decide)⟩

end Xl2tpd
