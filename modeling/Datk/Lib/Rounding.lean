import Mathlib.Data.Int.Log
import Mathlib.Data.Rat.Floor
import Mathlib.Tactic.Linarith

/-!
# Rounding to nearest, ties to even

`roundEven` rounds a rational number to an integer, `roundTo p` to a binary
number of `p` significant digits.  The second is the rounding of a floating-point
operation whose result is in the range of normal numbers.
-/

namespace Lib

/-- The nearest integer; of two the even one. -/
def roundEven (q : ℚ) : ℤ :=
  if q - ⌊q⌋ < 1 / 2 then ⌊q⌋
  else if 1 / 2 < q - ⌊q⌋ then ⌊q⌋ + 1
  else if ⌊q⌋ % 2 = 0 then ⌊q⌋ else ⌊q⌋ + 1

/-- The nearest number with `p` significant binary digits. -/
def roundTo (p : ℕ) (q : ℚ) : ℚ :=
  let ulp : ℚ := 2 ^ (Int.log 2 |q| - p + 1)
  roundEven (q / ulp) * ulp

@[simp] theorem roundEven_intCast (m : ℤ) : roundEven m = m := by
  have hfloor : (m : ℚ) - ⌊(m : ℚ)⌋ < 1 / 2 := by
    rw [Int.floor_intCast, sub_self]
    exact one_half_pos
  rw [roundEven, if_pos hfloor, Int.floor_intCast]

/-- What is at least an even integer after rounding is at least half below it
before. -/
theorem le_roundEven_iff {m : ℤ} (hm : m % 2 = 0) (q : ℚ) :
    m ≤ roundEven q ↔ (m : ℚ) - 1 / 2 ≤ q := by
  have hle := Int.floor_le q
  have hlt := Int.lt_floor_add_one q
  have hcast : ∀ {k : ℤ}, (m : ℚ) < k + 1 → m ≤ k := fun h => by
    exact Int.lt_add_one_iff.mp (by exact_mod_cast h)
  unfold roundEven
  split
  · rename_i hdown
    constructor
    · intro h
      have : (m : ℚ) ≤ ⌊q⌋ := by exact_mod_cast h
      linarith
    · intro h
      exact hcast (by linarith)
  · rename_i hdown
    split
    · rename_i hup
      constructor
      · intro h
        have : (m : ℚ) ≤ ⌊q⌋ + 1 := by exact_mod_cast h
        linarith
      · intro h
        refine hcast ?_
        push_cast
        linarith
    · rename_i hup
      have htie : q = ⌊q⌋ + 1 / 2 := by linarith
      have hiff : (m : ℚ) - 1 / 2 ≤ q ↔ m ≤ ⌊q⌋ + 1 := by
        constructor
        · intro h
          refine hcast ?_
          push_cast
          linarith
        · intro h
          have : (m : ℚ) ≤ ⌊q⌋ + 1 := by exact_mod_cast h
          linarith
      rw [hiff]
      split <;> omega

end Lib
