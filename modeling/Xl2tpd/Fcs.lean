import Xl2tpd.Lib.Crc
import Xl2tpd.Ppp

/-!
# The frame check sequence

The table of `add_fcs` holds eight shifts of the reflected polynomial 0x8408. Over a frame with
its two check octets a receiver always ends in the same register.
-/

namespace Xl2tpd

set_option autoImplicit false

def fcsPoly : BitVec 16 := 0x8408

def fcsOctet (fcs : BitVec 16) (octet : UInt8) : BitVec 16 :=
  Crc.shifts fcsPoly 8 (fcs ^^^ octet.toBitVec.setWidth 16)

def fcsSerial (packet : Bytes) : BitVec 16 := ~~~packet.foldl fcsOctet 0xffff

def pppGoodFcs : UInt16 := 0xf0b8

theorem table_shifts (index : Nat) (small : index < 256) :
    (pppCrc16Table.getD index 0).toBitVec = Crc.shifts fcsPoly 8 (BitVec.ofNat 16 index) := by
  revert index
  decide +kernel

theorem table_index (fcs : UInt16) (octet : UInt8) :
    ((fcs ^^^ octet.toUInt16) &&& 0xff).toNat < 256 ∧
      BitVec.ofNat 16 ((fcs ^^^ octet.toUInt16) &&& 0xff).toNat =
        (fcs.toBitVec ^^^ octet.toBitVec.setWidth 16) &&& 255#16 := by
  constructor
  · rw [UInt16.toNat_and]
    exact Nat.lt_succ_of_le Nat.and_le_right
  · exact BitVec.ofNat_toNat _ _

theorem octet_shift (octet : UInt8) : octet.toBitVec.setWidth 16 >>> 8 = 0#16 := by
  have low := octet.toNat_lt
  apply BitVec.eq_of_toNat_eq
  simp [BitVec.toNat_ushiftRight, Nat.shiftRight_eq_div_pow]
  omega

theorem pppFcs_octet (fcs : UInt16) (octet : UInt8) :
    (pppFcs fcs octet).toBitVec = fcsOctet fcs.toBitVec octet := by
  obtain ⟨small, index⟩ := table_index fcs octet
  have high : (fcs >>> 8).toBitVec = fcs.toBitVec >>> 8 := rfl
  unfold pppFcs fcsOctet
  rw [Crc.shifts_octet, UInt16.toBitVec_xor, table_shifts _ small, index, high,
    BitVec.ushiftRight_xor_distrib, octet_shift, BitVec.xor_zero]

theorem foldl_pppFcs (packet : Bytes) (fcs : UInt16) :
    (packet.foldl pppFcs fcs).toBitVec = packet.foldl fcsOctet fcs.toBitVec := by
  induction packet generalizing fcs with
  | nil => rfl
  | cons octet rest ih => rw [List.foldl_cons, List.foldl_cons, ih, pppFcs_octet]

theorem fcsOctet_low (fcs : BitVec 16) (octet : UInt8)
    (low : octet.toBitVec.setWidth 16 = ~~~fcs &&& 255#16) :
    fcsOctet fcs octet = (fcs >>> 8) ^^^ Crc.shifts fcsPoly 8 255#16 := by
  have index : (fcs ^^^ (~~~fcs &&& 255#16)) &&& 255#16 = 255#16 := by
    ext bit
    simp only [BitVec.getElem_and, BitVec.getElem_xor, BitVec.getElem_not]
    cases fcs[bit] <;> cases (255#16)[bit] <;> rfl
  unfold fcsOctet
  rw [Crc.shifts_octet, BitVec.ushiftRight_xor_distrib, octet_shift, BitVec.xor_zero, low, index]

theorem fcsOctet_high (fcs left : BitVec 16) (octet : UInt8)
    (high : octet.toBitVec.setWidth 16 = ~~~fcs >>> 8) :
    fcsOctet ((fcs >>> 8) ^^^ left) octet = Crc.shifts fcsPoly 8 (left ^^^ 255#16) := by
  have ones : (fcs >>> 8) ^^^ (~~~fcs >>> 8) = 255#16 := by
    rw [← BitVec.ushiftRight_xor_distrib, ← BitVec.xor_allOnes, ← BitVec.xor_assoc,
      BitVec.xor_self, BitVec.zero_xor]
    rfl
  unfold fcsOctet
  rw [high, BitVec.xor_assoc, BitVec.xor_comm left, ← BitVec.xor_assoc, ones, BitVec.xor_comm]

theorem check_octets (fcs : UInt16) :
    (UInt8.ofNat ((fcs ^^^ 0xFFFF).toNat % 256)).toBitVec.setWidth 16 =
        ~~~fcs.toBitVec &&& 255#16 ∧
      (UInt8.ofNat ((fcs ^^^ 0xFFFF).toNat / 256)).toBitVec.setWidth 16 =
        ~~~fcs.toBitVec >>> 8 := by
  have complement : (fcs ^^^ 0xFFFF).toNat = (~~~fcs.toBitVec).toNat := by
    rw [← BitVec.xor_allOnes]
    rfl
  have bound := (~~~fcs.toBitVec).isLt
  rw [complement]
  constructor
  · apply BitVec.eq_of_toNat_eq
    have mask (value : Nat) : value &&& 255 % 2 ^ 16 = value % 256 :=
      Nat.and_two_pow_sub_one_eq_mod value 8
    simp only [BitVec.toNat_setWidth, UInt8.toNat_toBitVec, UInt8.toNat_ofNat', BitVec.toNat_and,
      BitVec.toNat_ofNat, mask]
    omega
  · apply BitVec.eq_of_toNat_eq
    simp only [BitVec.toNat_setWidth, UInt8.toNat_toBitVec, UInt8.toNat_ofNat',
      BitVec.toNat_ushiftRight, Nat.shiftRight_eq_div_pow]
    omega

/-- The table gives the check taken bit by bit, and a frame with it ends in `PPP_GOODFCS`. -/
theorem frame_check_sequence (packet : Bytes) :
    (packet.foldl pppFcs pppInitFcs ^^^ 0xFFFF).toBitVec = fcsSerial packet ∧
      (addFcs packet).foldl pppFcs pppInitFcs = pppGoodFcs := by
  constructor
  · rw [fcsSerial, UInt16.toBitVec_xor, foldl_pppFcs]
    exact BitVec.xor_allOnes
  · apply UInt16.toBitVec_inj.mp
    unfold addFcs
    obtain ⟨low, high⟩ := check_octets (packet.foldl pppFcs pppInitFcs)
    rw [List.foldl_append, foldl_pppFcs, List.foldl_cons, fcsOctet_low _ _ low, List.foldl_cons,
      fcsOctet_high _ _ _ high]
    decide +kernel

end Xl2tpd
