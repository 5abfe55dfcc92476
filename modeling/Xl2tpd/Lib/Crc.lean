import Mathlib.Logic.Function.Iterate

/-!
# Reflected cyclic redundancy checks

One shift of the register is linear in exclusive or. So eight shifts are those of the low octet,
which a table can hold, and the rest of the register moved down.
-/

namespace Crc

set_option autoImplicit false

variable {w : Nat} (poly : BitVec w)

/-- One bit of a reflected check with the given polynomial. -/
def shift (register : BitVec w) : BitVec w :=
  if register.getLsbD 0 then (register >>> 1) ^^^ poly else register >>> 1

def shifts (count : Nat) (register : BitVec w) : BitVec w := (shift poly)^[count] register

theorem shift_xor (left right : BitVec w) :
    shift poly (left ^^^ right) = shift poly left ^^^ shift poly right := by
  unfold shift
  rw [BitVec.getLsbD_xor, BitVec.ushiftRight_xor_distrib]
  generalize left >>> 1 = a
  generalize right >>> 1 = b
  cases left.getLsbD 0 <;> cases right.getLsbD 0
  · rfl
  · exact BitVec.xor_assoc a b poly
  · have swap : a ^^^ b ^^^ poly = a ^^^ poly ^^^ b := by
      rw [BitVec.xor_assoc, BitVec.xor_comm b poly, ← BitVec.xor_assoc]
    exact swap
  · have cancel : a ^^^ poly ^^^ (b ^^^ poly) = a ^^^ b := by
      rw [BitVec.xor_assoc, BitVec.xor_comm b poly, ← BitVec.xor_assoc poly poly b,
        BitVec.xor_self, BitVec.zero_xor]
    exact cancel.symm

theorem shifts_xor (count : Nat) (left right : BitVec w) :
    shifts poly count (left ^^^ right) = shifts poly count left ^^^ shifts poly count right := by
  induction count generalizing left right with
  | zero => rfl
  | succ count ih =>
    unfold shifts at ih ⊢
    rw [Function.iterate_succ_apply, Function.iterate_succ_apply, Function.iterate_succ_apply,
      shift_xor, ih]

theorem shifts_clear {register : BitVec w} (count : Nat)
    (clear : ∀ index < count, register.getLsbD index = false) :
    shifts poly count register = register >>> count := by
  induction count with
  | zero => exact (BitVec.ushiftRight_zero register).symm
  | succ count ih =>
    have moved := ih fun index below => clear index (Nat.lt_succ_of_lt below)
    have next : (register >>> count).getLsbD 0 = false := by
      rw [BitVec.getLsbD_ushiftRight, Nat.add_zero]
      exact clear count (Nat.lt_succ_self count)
    unfold shifts at moved ⊢
    rw [Function.iterate_succ_apply', moved, shift, next, BitVec.shiftRight_add]
    rfl

theorem low_octet_bit {index : Nat} (inside : index < w) :
    (255#w).getLsbD index = decide (index < 8) := by
  have mask : (255 : Nat) = 2 ^ 8 - 1 := rfl
  rw [BitVec.getLsbD_ofNat, mask, Nat.testBit_two_pow_sub_one]
  simp [inside]

theorem shifts_octet (register : BitVec w) :
    shifts poly 8 register =
      (register >>> 8) ^^^ shifts poly 8 (register &&& 255#w) := by
  have halves : register = (register &&& ~~~255#w) ^^^ (register &&& 255#w) := by
    ext index
    simp only [BitVec.getElem_xor, BitVec.getElem_and, BitVec.getElem_not]
    cases register[index] <;> cases (255#w)[index] <;> rfl
  have clear : ∀ index < 8, (register &&& ~~~255#w).getLsbD index = false := by
    intro index low
    by_cases inside : index < w
    · rw [BitVec.getLsbD_and, BitVec.getLsbD_not, low_octet_bit inside]
      simp [low]
    · exact BitVec.getLsbD_of_ge _ _ (Nat.not_lt.mp inside)
  have high : (register &&& ~~~255#w) >>> 8 = register >>> 8 := by
    apply BitVec.eq_of_getLsbD_eq
    intro index _
    rw [BitVec.getLsbD_ushiftRight, BitVec.getLsbD_ushiftRight, BitVec.getLsbD_and,
      BitVec.getLsbD_not]
    by_cases inside : 8 + index < w
    · rw [low_octet_bit inside]
      simp [inside]
    · rw [BitVec.getLsbD_of_ge register _ (Nat.not_lt.mp inside), Bool.false_and]
  calc shifts poly 8 register
    _ = shifts poly 8 ((register &&& ~~~255#w) ^^^ (register &&& 255#w)) := by
      rw [← halves]
    _ = (register >>> 8) ^^^ shifts poly 8 (register &&& 255#w) := by
      rw [shifts_xor, shifts_clear poly 8 clear, high]

end Crc
