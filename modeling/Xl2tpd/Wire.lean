import Mathlib.Algebra.Group.Int.Defs
import Mathlib.Algebra.Group.Nat.Defs
import Mathlib.Data.List.GetD

/-!
# Octets, headers and byte order

The receive path works on a buffer in memory: the datagram's octets followed by whatever the
buffer still holds. The host is little endian, and `swaps` turns a big-endian field of the
datagram into a word in place.
-/

namespace Xl2tpd

set_option autoImplicit false

abbrev Bytes := List UInt8

def text (message : String) : Bytes :=
  message.toList.map fun letter => UInt8.ofNat letter.toNat

def decimal (value : Int) : Bytes := text (toString value)

/-- A C string after `strncpy` of `room` octets into an array, and a terminator. -/
def cString (room : Nat) (source : Bytes) : Bytes :=
  (source.take room).takeWhile fun octet => octet ≠ 0

def word (high low : UInt8) : UInt16 := UInt16.ofNat (256 * high.toNat + low.toNat)

/-- A `_u16` load at an octet offset, on a little-endian host. -/
def hostWord (buffer : Bytes) (offset : Nat) : UInt16 :=
  word (buffer.getD (offset + 1) 0) (buffer.getD offset 0)

/-- `ntohs` of the same load: the big-endian value in the octets. -/
def netWord (buffer : Bytes) (offset : Nat) : UInt16 :=
  word (buffer.getD offset 0) (buffer.getD (offset + 1) 0)

/-- `htons`, as the two octets it leaves in memory. -/
def netBytes (value : UInt16) : Bytes :=
  [UInt8.ofNat (value.toNat / 256), UInt8.ofNat (value.toNat % 256)]

/-- Two halves of a 32-bit value, each sent with `htons`. -/
def netLong (value : Nat) : Bytes :=
  netBytes (UInt16.ofNat (value / 65536 % 65536)) ++ netBytes (UInt16.ofNat (value % 65536))

/-- A 32-bit unsigned value stored in an `int`. -/
def toInt32 (value : Nat) : Int := Int.bmod value (2 ^ 32)

def swaps : Nat → Bytes → Bytes
  | count + 1, first :: second :: rest => second :: first :: swaps count rest
  | _, buffer => buffer

/-- Octets stored at an offset of a buffer. -/
def overwrite (buffer : Bytes) (offset : Nat) (octets : Bytes) : Bytes :=
  buffer.take offset ++ octets ++ buffer.drop (offset + octets.length)

/-! ## Flag bits of the version word -/

def ctbit (ver : UInt16) : Bool := ver &&& 0x8000 != 0
def clbit (ver : UInt16) : Bool := ver &&& 0x4000 != 0
def cfbit (ver : UInt16) : Bool := ver &&& 0x0800 != 0
def psbit (ver : UInt16) : Bool := ver &&& 0x0200 != 0
def cver (ver : UInt16) : UInt16 := ver &&& 0x0007

def verL2tp : UInt16 := 2

/-- `TBIT | LBIT | FBIT | VER_L2TP`. -/
def controlVer : UInt16 := 0xC802

/-! ## AVP length word -/

def ambit (length : UInt16) : Bool := length &&& 0x8000 != 0
def ahbit (length : UInt16) : Bool := length &&& 0x4000 != 0
def azbits (length : UInt16) : Bool := length &&& 0x3C00 != 0
def alength (length : UInt16) : Nat := (length &&& 0x03FF).toNat

/-! ## Headers -/

structure ControlHdr where
  ver : UInt16
  length : UInt16
  tid : UInt16
  cid : UInt16
  Ns : UInt16
  Nr : UInt16
  deriving DecidableEq, Repr

/-- `sizeof (struct control_hdr)`. -/
def controlHdrSize : Nat := 12

def minPayloadHdrLen : Nat := 6

def payloadHdrSize : Nat := 14

def ControlHdr.encode (header : ControlHdr) : Bytes :=
  netBytes header.ver ++ netBytes header.length ++ netBytes header.tid ++
    netBytes header.cid ++ netBytes header.Ns ++ netBytes header.Nr

/-- A received packet: `bytes` runs from `buf->start` to the end of the buffer. -/
structure RecvBuf where
  bytes : Bytes
  len : Nat
  deriving Repr

/-- The header fields as the code reads them through a `struct control_hdr *`. -/
def RecvBuf.controlHdr (buffer : RecvBuf) : ControlHdr where
  ver := hostWord buffer.bytes 0
  length := hostWord buffer.bytes 2
  tid := hostWord buffer.bytes 4
  cid := hostWord buffer.bytes 6
  Ns := hostWord buffer.bytes 8
  Nr := hostWord buffer.bytes 10

def RecvBuf.body (buffer : RecvBuf) : Bytes :=
  (buffer.bytes.drop controlHdrSize).take (buffer.len - controlHdrSize)

/-- `fix_hdr`. The control bit is tested before the swap, where it is a bit of the second octet, so
a control packet takes the branch for payload. -/
def fixHdr (buffer : Bytes) : Bytes :=
  let ver := netWord buffer 0
  if ctbit (hostWord buffer 0) then swaps 6 buffer
  else
    let length := minPayloadHdrLen + (if psbit ver then 2 else 0) +
      (if clbit ver then 2 else 0) + (if cfbit ver then 4 else 0)
    swaps (length / 2) buffer

/-- `extract`: the tunnel and call ids of a packet whose header has been fixed. -/
def extract (buffer : Bytes) : UInt16 × UInt16 :=
  if clbit (hostWord buffer 0) then (hostWord buffer 4, hostWord buffer 6)
  else (hostWord buffer 2, hostWord buffer 4)

theorem net_bytes_length (value : UInt16) : (netBytes value).length = 2 := rfl

theorem swaps_length (count : Nat) (buffer : Bytes) :
    (swaps count buffer).length = buffer.length := by
  induction count, buffer using swaps.induct with
  | case1 count first second rest induction => simp only [swaps, List.length_cons, induction]
  | case2 count buffer short => cases count <;> simp_all [swaps]

theorem word_toNat (high low : UInt8) : (word high low).toNat = 256 * high.toNat + low.toNat := by
  have highBound := high.toNat_lt
  have lowBound := low.toNat_lt
  simp only [word, UInt16.toNat_ofNat']
  omega

theorem word_net_bytes (value : UInt16) :
    word (UInt8.ofNat (value.toNat / 256)) (UInt8.ofNat (value.toNat % 256)) = value := by
  apply UInt16.toNat_inj.mp
  have bound := value.toNat_lt
  rw [word_toNat, UInt8.toNat_ofNat', UInt8.toNat_ofNat']
  omega

/-- A control packet built by this program reads back, after `fix_hdr`, as its header and body. -/
theorem fix_hdr_encode (header : ControlHdr) (body : Bytes) (version : header.ver = controlVer) :
    let fixed : RecvBuf := ⟨fixHdr (header.encode ++ body), controlHdrSize + body.length⟩
    fixed.controlHdr = header ∧ fixed.bytes.drop controlHdrSize = body := by
  obtain ⟨ver, length, tid, cid, Ns, Nr⟩ := header
  simp only at version
  subst version
  -- The raw word of `0xC802` has no control bit; its L and F bits make twelve octets.
  have sixWords : fixHdr ((ControlHdr.mk controlVer length tid cid Ns Nr).encode ++ body) =
      swaps 6 ((ControlHdr.mk controlVer length tid cid Ns Nr).encode ++ body) := by
    have raw : hostWord ((ControlHdr.mk controlVer length tid cid Ns Nr).encode ++ body) 0 =
        0x02C8 := by
      simp [hostWord, ControlHdr.encode, netBytes, controlVer, word]
    have net : netWord ((ControlHdr.mk controlVer length tid cid Ns Nr).encode ++ body) 0 =
        controlVer := by
      simp [netWord, ControlHdr.encode, netBytes, word_net_bytes]
    unfold fixHdr
    rw [raw, net]
    rfl
  simp only [sixWords]
  constructor
  · simp [RecvBuf.controlHdr, ControlHdr.encode, netBytes, swaps, hostWord, word_net_bytes]
  · simp [ControlHdr.encode, netBytes, swaps, controlHdrSize]

end Xl2tpd
