import Datk.Sensor.Calibration
import Datk.Lib.CInt

/-!
# The temperature

`bme680_convert_temperature` subtracts signed parameters from an unsigned reading, so that
C does all of it in `uint32_t`: a negative product becomes a large one, and the shift after
it brings in zeros instead of its sign.  A temperature below the calibration point comes
out `2 ^ 21` units of `t_fine` too high.

`convertTemperature_iff` says when the result is that of the formula over the integers.
-/

namespace Datk.Sensor

open Lib.CInt

section

variable (cd : CalibData)

/-- `bme680_convert_temperature`: the temperature, and the `t_fine` that it leaves. -/
def convertTemperature (rawTemperature : Nat) : Int × Int :=
  let difference1 := toUnsigned 32 ((rawTemperature >>> 3 : Nat) - shl cd.parT1.toNat 1)
  let difference2 := toUnsigned 32 ((rawTemperature >>> 4 : Nat) - (cd.parT1.toNat : Int))
  let var1 := shr (toUnsigned 32 (difference1 * cd.parT2.toInt)) 11
  let var2 := shr (toUnsigned 32
    (shr (toUnsigned 32 (difference2 * difference2)) 12 * cd.parT3.toInt)) 14
  let tFine := toSigned 32 (var1 + var2)
  (toSigned 16 (shr (tFine * 5 + 128) 8), tFine)

/-! ### The formula -/

/-- What `var1` is the quotient of. -/
def linearTerm (rawTemperature : Nat) : Int :=
  ((rawTemperature >>> 3 : Nat) - shl cd.parT1.toNat 1) * cd.parT2.toInt

/-- What `var2` is the quotient of. -/
def squareTerm (rawTemperature : Nat) : Int :=
  shr (((rawTemperature >>> 4 : Nat) - (cd.parT1.toNat : Int)) *
    ((rawTemperature >>> 4 : Nat) - (cd.parT1.toNat : Int))) 12 * cd.parT3.toInt

/-- The formula over the integers. -/
def exactTFine (rawTemperature : Nat) : Int :=
  shr (linearTerm cd rawTemperature) 11 + shr (squareTerm cd rawTemperature) 14

def exactTemperature (rawTemperature : Nat) : Int :=
  shr (exactTFine cd rawTemperature * 5 + 128) 8

/-- No intermediate result is negative: the reading and the calibration are on the side of
the sign of `par_t2`, and the square correction is not subtracted. -/
def Unwrapped (rawTemperature : Nat) : Prop :=
  (2 * (cd.parT1.toNat : Int) ≤ (rawTemperature / 8 : Nat) ∧ 0 ≤ cd.parT2.toInt ∨
      (rawTemperature / 8 : Nat) ≤ 2 * (cd.parT1.toNat : Int) ∧ cd.parT2.toInt ≤ 0) ∧
    (0 ≤ cd.parT3.toInt ∨ |(rawTemperature / 16 : Nat) - (cd.parT1.toNat : Int)| < 64)

instance (rawTemperature : Nat) : Decidable (Unwrapped cd rawTemperature) :=
  inferInstanceAs (Decidable (_ ∧ _))

end

/-! ### The two terms -/

section

variable {cd : CalibData} {rawTemperature : Nat}

theorem linearTerm_eq : linearTerm cd rawTemperature =
    ((rawTemperature / 8 : Nat) - 2 * (cd.parT1.toNat : Int)) * cd.parT2.toInt := by
  rw [linearTerm, Nat.shiftRight_eq_div_pow, shl_eq, Int.mul_comm 2]
  rfl

theorem squareTerm_eq : squareTerm cd rawTemperature =
    ((rawTemperature / 16 : Nat) - (cd.parT1.toNat : Int)) *
      ((rawTemperature / 16 : Nat) - (cd.parT1.toNat : Int)) / 4096 * cd.parT3.toInt := by
  rw [squareTerm, Nat.shiftRight_eq_div_pow, shr_eq]
  rfl

theorem linearTerm_bounds (cd : CalibData) (hraw : rawTemperature < 2 ^ 20) :
    -2 ^ 32 ≤ linearTerm cd rawTemperature ∧ linearTerm cd rawTemperature < 2 ^ 32 := by
  have ht1 := cd.parT1.isLt
  have hdifference : |(rawTemperature / 8 : Nat) - 2 * (cd.parT1.toNat : Int)| ≤ 131071 :=
    abs_le.mpr ⟨by omega, by omega⟩
  have hbounds := mul_bounds hdifference (abs_toInt_le 15 cd.parT2)
  rw [linearTerm_eq]
  omega

/-- The square, before it is divided. -/
theorem square_bounds (cd : CalibData) (hraw : rawTemperature < 2 ^ 20) :
    0 ≤ ((rawTemperature >>> 4 : Nat) - (cd.parT1.toNat : Int)) *
        ((rawTemperature >>> 4 : Nat) - (cd.parT1.toNat : Int)) ∧
      ((rawTemperature >>> 4 : Nat) - (cd.parT1.toNat : Int)) *
        ((rawTemperature >>> 4 : Nat) - (cd.parT1.toNat : Int)) < 2 ^ 32 := by
  have ht1 := cd.parT1.isLt
  have hdifference : |(rawTemperature >>> 4 : Nat) - (cd.parT1.toNat : Int)| ≤ 65535 := by
    rw [Nat.shiftRight_eq_div_pow]
    exact abs_le.mpr ⟨by omega, by omega⟩
  have hbounds := mul_bounds hdifference hdifference
  exact ⟨mul_self_nonneg _, by omega⟩

theorem squareTerm_bounds (cd : CalibData) (hraw : rawTemperature < 2 ^ 20) :
    -2 ^ 32 ≤ squareTerm cd rawTemperature ∧ squareTerm cd rawTemperature < 2 ^ 32 := by
  obtain ⟨hlow, hhigh⟩ := square_bounds cd hraw
  rw [squareTerm, shr_eq]
  generalize ((rawTemperature >>> 4 : Nat) - (cd.parT1.toNat : Int)) *
    ((rawTemperature >>> 4 : Nat) - (cd.parT1.toNat : Int)) = sq at hlow hhigh ⊢
  have hquotient : |sq / 2 ^ 12| ≤ 1048576 := abs_le.mpr ⟨by omega, by omega⟩
  have hbounds := mul_bounds hquotient (abs_toInt_le 7 cd.parT3)
  omega

theorem linearTerm_nonneg_iff : 0 ≤ linearTerm cd rawTemperature ↔
    2 * (cd.parT1.toNat : Int) ≤ (rawTemperature / 8 : Nat) ∧ 0 ≤ cd.parT2.toInt ∨
      (rawTemperature / 8 : Nat) ≤ 2 * (cd.parT1.toNat : Int) ∧ cd.parT2.toInt ≤ 0 := by
  rw [linearTerm_eq, mul_nonneg_iff, sub_nonneg, sub_nonpos]

theorem squareTerm_nonneg_iff : 0 ≤ squareTerm cd rawTemperature ↔
    0 ≤ cd.parT3.toInt ∨ |(rawTemperature / 16 : Nat) - (cd.parT1.toNat : Int)| < 64 := by
  rw [squareTerm_eq]
  generalize ((rawTemperature / 16 : Nat) : Int) - (cd.parT1.toNat : Int) = d
  have hsmall : |d| < 64 ↔ d * d < 4096 := by
    rw [show (64 : Int) = |64| from rfl, abs_lt_iff_mul_self_lt]
    rfl
  have hsq : 0 ≤ d * d := mul_self_nonneg d
  rw [hsmall, mul_nonneg_iff]
  omega

/-! ### What the code computes -/

theorem temperature_eq : (convertTemperature cd rawTemperature).1 =
    toSigned 16 (shr ((convertTemperature cd rawTemperature).2 * 5 + 128) 8) := by
  simp only [convertTemperature]

theorem tFine_eq_toUnsigned (hraw : rawTemperature < 2 ^ 20) :
    (convertTemperature cd rawTemperature).2 =
      toSigned 32 (shr (toUnsigned 32 (linearTerm cd rawTemperature)) 11 +
        shr (toUnsigned 32 (squareTerm cd rawTemperature)) 14) := by
  obtain ⟨hlow, hhigh⟩ := square_bounds cd hraw
  have hsquare := toUnsigned_mul_self 32 ((rawTemperature >>> 4 : Nat) - (cd.parT1.toNat : Int))
  rw [toUnsigned_of_lt hlow hhigh] at hsquare
  simp only [convertTemperature, hsquare]
  simp only [toUnsigned_mul, linearTerm, squareTerm]

/-- Each negative term adds what its sign is shifted to. -/
theorem tFine_eq (cd : CalibData) (hraw : rawTemperature < 2 ^ 20) :
    (convertTemperature cd rawTemperature).2 = toSigned 32 (exactTFine cd rawTemperature +
      ((if 0 ≤ linearTerm cd rawTemperature then 0 else 2 ^ 21) +
        if 0 ≤ squareTerm cd rawTemperature then 0 else 2 ^ 18)) := by
  obtain ⟨hl1, hl2⟩ := linearTerm_bounds cd hraw
  obtain ⟨hs1, hs2⟩ := squareTerm_bounds cd hraw
  have hvar1 := shr_toUnsigned (k := 11) (by decide) hl1 hl2
  have hvar2 := shr_toUnsigned (k := 14) (by decide) hs1 hs2
  rw [tFine_eq_toUnsigned hraw, hvar1, hvar2, exactTFine]
  congr 1
  omega

theorem tFine_bounds (cd : CalibData) (hraw : rawTemperature < 2 ^ 20) :
    0 ≤ (convertTemperature cd rawTemperature).2 ∧
      (convertTemperature cd rawTemperature).2 < 2 ^ 21 + 2 ^ 18 := by
  have h1 := toUnsigned_bounds 32 (linearTerm cd rawTemperature)
  have h2 := toUnsigned_bounds 32 (squareTerm cd rawTemperature)
  rw [tFine_eq_toUnsigned hraw, shr_eq, shr_eq,
    toSigned_of_fits (w := 31) (by omega) (by omega)]
  omega

/-- **The temperature is that of the formula** exactly if no intermediate result is
negative. -/
theorem convertTemperature_iff (hraw : rawTemperature < 2 ^ 20)
    (hlow : -2 ^ 15 ≤ exactTemperature cd rawTemperature)
    (hhigh : exactTemperature cd rawTemperature < 2 ^ 15) :
    convertTemperature cd rawTemperature =
        (exactTemperature cd rawTemperature, exactTFine cd rawTemperature) ↔
      Unwrapped cd rawTemperature := by
  rw [Unwrapped, ← linearTerm_nonneg_iff, ← squareTerm_nonneg_iff]
  have hbounds := And.intro hlow hhigh
  rw [exactTemperature, shr_eq] at hbounds
  have hfine := tFine_eq cd hraw
  rw [toSigned_of_fits (w := 31) (by split <;> split <;> omega)
    (by split <;> split <;> omega)] at hfine
  constructor
  · intro h
    rw [h] at hfine
    constructor
    · by_contra hneg
      rw [if_neg hneg] at hfine
      split at hfine <;> omega
    · by_contra hneg
      rw [if_neg hneg] at hfine
      split at hfine <;> omega
  · rintro ⟨hlinear, hsquare⟩
    rw [if_pos hlinear, if_pos hsquare, Int.add_zero, Int.add_zero] at hfine
    refine Prod.ext ?_ hfine
    rw [temperature_eq, hfine]
    exact toSigned_of_fits (w := 15) hlow hhigh

end

/-- 25.2 degrees. -/
theorem convertTemperature_room :
    convertTemperature someCalibData 496000 =
        (exactTemperature someCalibData 496000, exactTFine someCalibData 496000) ↔
      Unwrapped someCalibData 496000 :=
  convertTemperature_iff (by decide) (by decide) (by decide)

/-- At 5 degrees below zero the result is 250.8 degrees below. -/
theorem not_convertTemperature_frost :
    ¬ ∀ (cd : CalibData) (rawTemperature : Nat), rawTemperature < 2 ^ 20 →
      -2 ^ 15 ≤ exactTemperature cd rawTemperature →
      exactTemperature cd rawTemperature < 2 ^ 15 →
        convertTemperature cd rawTemperature =
          (exactTemperature cd rawTemperature, exactTFine cd rawTemperature) := by
  intro h
  have hfrost := h someCalibData 400000 (by decide) (by decide) (by decide)
  exact absurd hfrost (by decide)

end Datk.Sensor
