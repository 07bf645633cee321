import Mathlib.Tactic.Common

/-!
# Bit fields of a register

A field is a mask and the place of its lowest bit.  What is put into a field is read back
if it fits under the mask, and fields whose masks do not overlap do not disturb each
other.
-/

namespace Lib

structure Field (w : Nat) where
  bits : BitVec w
  shift : Nat
  deriving DecidableEq

namespace Field

variable {w : Nat} (f g : Field w) (reg v : BitVec w)

def set : BitVec w := (reg &&& ~~~f.bits) ||| ((v <<< f.shift) &&& f.bits)

def get : BitVec w := (reg &&& f.bits) >>> f.shift

/-- `v` fits into the field. -/
def Holds : Prop := ((v <<< f.shift) &&& f.bits) >>> f.shift = v

instance : Decidable (f.Holds v) := inferInstanceAs (Decidable (_ = _))

variable {f g reg v}

theorem get_set (h : f.Holds v) : f.get (f.set reg v) = v := by
  have hclear : reg &&& ~~~f.bits &&& f.bits = 0#w := by
    rw [BitVec.and_assoc, BitVec.not_and_self]
    exact BitVec.and_zero
  rw [get, set, BitVec.and_or_distrib_right, hclear, BitVec.zero_or, BitVec.and_assoc,
    BitVec.and_self]
  exact h

theorem get_set_of_disjoint (h : f.bits &&& g.bits = 0#w) : g.get (f.set reg v) = g.get reg := by
  have hkeep : ~~~f.bits &&& g.bits = g.bits :=
    calc ~~~f.bits &&& g.bits
      _ = f.bits &&& g.bits ||| ~~~f.bits &&& g.bits := by rw [h, BitVec.zero_or]
      _ = (f.bits ||| ~~~f.bits) &&& g.bits := BitVec.and_or_distrib_right.symm
      _ = g.bits := by rw [BitVec.or_not_self, BitVec.allOnes_and]
  rw [get, set, BitVec.and_or_distrib_right, BitVec.and_assoc, BitVec.and_assoc, hkeep, h,
    BitVec.and_zero, BitVec.or_zero, get]

end Field

end Lib
