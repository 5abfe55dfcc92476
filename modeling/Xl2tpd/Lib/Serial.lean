import Mathlib.Data.Nat.Basic

/-!
# Serial numbers

The order of 16-bit numbers that wrap: one number precedes another when it is reached
from it by going back less than half of the circle.
-/

namespace Serial

set_option autoImplicit false

def Precedes (first second : UInt16) : Prop :=
  first ≠ second ∧ (second - first).toNat < 32768

instance (first second : UInt16) : Decidable (Precedes first second) :=
  inferInstanceAs (Decidable (_ ∧ _))

/-- Less than half of the circle ahead of an origin, numbers are in the order of their distances. -/
theorem precedes_iff_distance {origin first second : UInt16}
    (near : (first - origin).toNat < 32768) (close : (second - origin).toNat < 32768) :
    Precedes first second ↔ (first - origin).toNat < (second - origin).toNat := by
  have firstBound := first.toNat_lt
  have secondBound := second.toNat_lt
  have originBound := origin.toNat_lt
  have difference := UInt16.toNat_sub second first
  have firstDistance := UInt16.toNat_sub first origin
  have secondDistance := UInt16.toNat_sub second origin
  rw [Precedes, ne_eq, ← UInt16.toNat_inj]
  omega

end Serial
