import Xl2tpd.Wire

/-!
# PPP frames on the pty

The daemon talks to `pppd` in asynchronous frames: `write_packet` puts the checksum, the escapes
and the flags around a packet, `read_packet` takes them off again. The reader keeps the escape it
is in the middle of only for the time of one call.
-/

namespace Xl2tpd

set_option autoImplicit false

/-- `MAX_RECV_SIZE`, the size of every packet buffer, of `rbuf` and of `wbuf`. -/
def maxRecvSize : Nat := 4096

/-- `PAYLOAD_BUF`, the octets kept free in front of a received datagram. -/
def payloadBuf : Nat := 10

def pppFlag : UInt8 := 0x7e

def pppEscape : UInt8 := 0x7d

def pppTrans : UInt8 := 0x20

/-! ## Checksum -/

def pppInitFcs : UInt16 := 0xffff

def pppCrc16Table : List UInt16 :=
  [ 0x0000, 0x1189, 0x2312, 0x329b, 0x4624, 0x57ad, 0x6536, 0x74bf,
    0x8c48, 0x9dc1, 0xaf5a, 0xbed3, 0xca6c, 0xdbe5, 0xe97e, 0xf8f7,
    0x1081, 0x0108, 0x3393, 0x221a, 0x56a5, 0x472c, 0x75b7, 0x643e,
    0x9cc9, 0x8d40, 0xbfdb, 0xae52, 0xdaed, 0xcb64, 0xf9ff, 0xe876,
    0x2102, 0x308b, 0x0210, 0x1399, 0x6726, 0x76af, 0x4434, 0x55bd,
    0xad4a, 0xbcc3, 0x8e58, 0x9fd1, 0xeb6e, 0xfae7, 0xc87c, 0xd9f5,
    0x3183, 0x200a, 0x1291, 0x0318, 0x77a7, 0x662e, 0x54b5, 0x453c,
    0xbdcb, 0xac42, 0x9ed9, 0x8f50, 0xfbef, 0xea66, 0xd8fd, 0xc974,
    0x4204, 0x538d, 0x6116, 0x709f, 0x0420, 0x15a9, 0x2732, 0x36bb,
    0xce4c, 0xdfc5, 0xed5e, 0xfcd7, 0x8868, 0x99e1, 0xab7a, 0xbaf3,
    0x5285, 0x430c, 0x7197, 0x601e, 0x14a1, 0x0528, 0x37b3, 0x263a,
    0xdecd, 0xcf44, 0xfddf, 0xec56, 0x98e9, 0x8960, 0xbbfb, 0xaa72,
    0x6306, 0x728f, 0x4014, 0x519d, 0x2522, 0x34ab, 0x0630, 0x17b9,
    0xef4e, 0xfec7, 0xcc5c, 0xddd5, 0xa96a, 0xb8e3, 0x8a78, 0x9bf1,
    0x7387, 0x620e, 0x5095, 0x411c, 0x35a3, 0x242a, 0x16b1, 0x0738,
    0xffcf, 0xee46, 0xdcdd, 0xcd54, 0xb9eb, 0xa862, 0x9af9, 0x8b70,
    0x8408, 0x9581, 0xa71a, 0xb693, 0xc22c, 0xd3a5, 0xe13e, 0xf0b7,
    0x0840, 0x19c9, 0x2b52, 0x3adb, 0x4e64, 0x5fed, 0x6d76, 0x7cff,
    0x9489, 0x8500, 0xb79b, 0xa612, 0xd2ad, 0xc324, 0xf1bf, 0xe036,
    0x18c1, 0x0948, 0x3bd3, 0x2a5a, 0x5ee5, 0x4f6c, 0x7df7, 0x6c7e,
    0xa50a, 0xb483, 0x8618, 0x9791, 0xe32e, 0xf2a7, 0xc03c, 0xd1b5,
    0x2942, 0x38cb, 0x0a50, 0x1bd9, 0x6f66, 0x7eef, 0x4c74, 0x5dfd,
    0xb58b, 0xa402, 0x9699, 0x8710, 0xf3af, 0xe226, 0xd0bd, 0xc134,
    0x39c3, 0x284a, 0x1ad1, 0x0b58, 0x7fe7, 0x6e6e, 0x5cf5, 0x4d7c,
    0xc60c, 0xd785, 0xe51e, 0xf497, 0x8028, 0x91a1, 0xa33a, 0xb2b3,
    0x4a44, 0x5bcd, 0x6956, 0x78df, 0x0c60, 0x1de9, 0x2f72, 0x3efb,
    0xd68d, 0xc704, 0xf59f, 0xe416, 0x90a9, 0x8120, 0xb3bb, 0xa232,
    0x5ac5, 0x4b4c, 0x79d7, 0x685e, 0x1ce1, 0x0d68, 0x3ff3, 0x2e7a,
    0xe70e, 0xf687, 0xc41c, 0xd595, 0xa12a, 0xb0a3, 0x8238, 0x93b1,
    0x6b46, 0x7acf, 0x4854, 0x59dd, 0x2d62, 0x3ceb, 0x0e70, 0x1ff9,
    0xf78f, 0xe606, 0xd49d, 0xc514, 0xb1ab, 0xa022, 0x92b9, 0x8330,
    0x7bc7, 0x6a4e, 0x58d5, 0x495c, 0x3de3, 0x2c6a, 0x1ef1, 0x0f78 ]

def pppFcs (fcs : UInt16) (octet : UInt8) : UInt16 :=
  (fcs >>> 8) ^^^ pppCrc16Table.getD ((fcs ^^^ octet.toUInt16) &&& 0xff).toNat 0

/-- `add_fcs`: the packet with the two octets it puts behind it. -/
def addFcs (packet : Bytes) : Bytes :=
  let fcs := packet.foldl pppFcs pppInitFcs ^^^ 0xFFFF
  packet ++ [UInt8.ofNat (fcs.toNat % 256), UInt8.ofNat (fcs.toNat / 256)]

/-! ## Writing -/

/-- A store outside a buffer, `-EINVAL`, or the octets for the pty. -/
inductive Conversion
  | overrun
  | invalid
  | frame (octets : Bytes)
  deriving DecidableEq, Repr

/-- Stores at `wbuf[pos]` and up, unless they leave the array. -/
def storeWbuf (wbuf octets : Bytes) : Option Bytes :=
  if wbuf.length + octets.length ≤ maxRecvSize then some (wbuf ++ octets) else none

/-- The octets that stand for one octet of a packet. -/
def escapeOctet (octet : UInt8) : Bytes :=
  if octet < 0x20 ∨ octet = pppEscape ∨ octet = pppFlag then [pppEscape, octet ^^^ pppTrans]
  else [octet]

/-- The loop of `write_packet` over the packet and its checksum. -/
def convertLoop (wbuf : Bytes) : Bytes → Conversion
  | [] =>
      match storeWbuf wbuf [pppFlag] with
      | none => .overrun
      | some wbuf => .frame wbuf
  | octet :: rest =>
      if maxRecvSize - 4 ≤ wbuf.length then .invalid
      else
        match storeWbuf wbuf (escapeOctet octet) with
        | none => .overrun
        | some wbuf => convertLoop wbuf rest

/-- The sync to async conversion of `write_packet`. -/
def convert (packet : Bytes) : Conversion :=
  match storeWbuf [] [pppFlag] with
  | none => .overrun
  | some wbuf => convertLoop wbuf (addFcs packet)

/-! ## Reading -/

/-- A call's `ppp_buf`: where the data start in the allocation of `MAX_RECV_SIZE`
octets, and the data. -/
structure PppBuf where
  start : Nat
  octets : Bytes
  deriving DecidableEq, Repr

def newPayload : PppBuf := { start := payloadHdrSize, octets := [] }

def recyclePayload (_ : PppBuf) : PppBuf := { start := payloadHdrSize, octets := [] }

/-- How far one scan of the octets in `rbuf` gets. -/
inductive Scan
  /-- They are used up, inside an escape or not. -/
  | more (escape : UInt8) (buf : PppBuf)
  /-- A flag ended a packet. -/
  | ended (buf : PppBuf) (rest : Bytes)
  /-- `-EINVAL`: an escaped flag, or more data than `maxlen`. -/
  | invalid (buf : PppBuf)
  /-- A store behind the allocation. -/
  | overrun
  deriving DecidableEq, Repr

/-- The `switch` of `read_packet`. The limit `maxlen` is the size of the allocation, although the
data start behind its beginning. -/
def scan (escape : UInt8) (buf : PppBuf) : Bytes → Scan
  | [] => .more escape buf
  | ch :: rest =>
      if ch = pppFlag then
        if escape ≠ 0 then .invalid buf
        else if 2 ≤ buf.octets.length then
          .ended { buf with octets := buf.octets.take (buf.octets.length - 2) } rest
        else if buf.octets.length = 1 then .ended buf rest
        else scan escape buf rest
      else if ch = pppEscape then scan pppTrans buf rest
      else if buf.octets.length < maxRecvSize then
        if buf.start + buf.octets.length < maxRecvSize then
          scan 0 { buf with octets := buf.octets ++ [ch ^^^ escape] } rest
        else .overrun
      else .invalid buf

/-- What one `read` of the pty returns; `again` stands for `EIO`, `EINTR` and
`EAGAIN`. -/
inductive ReadResult
  | octets (chunk : Bytes)
  | again
  | failed
  deriving DecidableEq, Repr

/-- The unread octets of `rbuf` and the packet being put together. -/
structure Reader where
  rbuf : Bytes := []
  buf : PppBuf := newPayload
  deriving DecidableEq, Repr

inductive ReadStatus
  | length (len : Nat)
  | error
  | overrun
  deriving DecidableEq, Repr

/-- The end of one call of `read_packet`, with the reads that are still to come. -/
structure Reading where
  status : ReadStatus
  reader : Reader
  supply : List ReadResult
  deriving DecidableEq, Repr

/-- The loop of `read_packet`. When nothing is left to read the pty answers
`EAGAIN`. -/
def readLoop (errors : Nat) (escape : UInt8) (reader : Reader) : List ReadResult → Reading
  | [] =>
      match scan escape reader.buf reader.rbuf with
      | .more _ buf => ⟨.length 0, ⟨[], buf⟩, []⟩
      | .ended buf rest => ⟨.length buf.octets.length, ⟨rest, buf⟩, []⟩
      | .invalid buf => ⟨.error, ⟨[], buf⟩, []⟩
      | .overrun => ⟨.overrun, reader, []⟩
  | result :: supply =>
      match scan escape reader.buf reader.rbuf with
      | .more escape buf =>
          match result with
          | .octets [] => ⟨.length 0, ⟨[], buf⟩, supply⟩
          | .octets chunk => readLoop errors escape ⟨chunk, buf⟩ supply
          | .again => ⟨.length 0, ⟨[], buf⟩, supply⟩
          | .failed =>
              if errors + 1 > 10 then ⟨.error, ⟨[], buf⟩, supply⟩
              else readLoop (errors + 1) escape ⟨[], buf⟩ supply
      | .ended buf rest => ⟨.length buf.octets.length, ⟨rest, buf⟩, result :: supply⟩
      | .invalid buf => ⟨.error, ⟨[], buf⟩, result :: supply⟩
      | .overrun => ⟨.overrun, reader, result :: supply⟩

def readPacket (reader : Reader) (supply : List ReadResult) : Reading := readLoop 0 0 reader supply

/-- The packets of successive calls of `read_packet`; `network_thread` recycles the buffer after
each and closes the call at the first error. -/
def readPackets : Nat → Reader → List ReadResult → List Bytes
  | 0, _, _ => []
  | calls + 1, reader, supply =>
      let reading := readPacket reader supply
      match reading.status with
      | .length 0 => readPackets calls reading.reader reading.supply
      | .length _ =>
          reading.reader.buf.octets ::
            readPackets calls { reading.reader with buf := recyclePayload reading.reader.buf }
              reading.supply
      | .error | .overrun => []

end Xl2tpd
