import Datk.Sensor.Calibration
import Datk.Lib.CInt

/-!
# The pressure

`bme680_convert_pressure` computes in `int32_t`.  It is split where its variables start
anew: the correction of the offset, the divisor, the quotient, and the correction of the
quotient.

About half of its operations fit whatever the calibration is.  `PressureFits` is what is
left to check for the others: `convertPressure_eq_ok`.
-/

namespace Datk.Sensor

open Lib.CInt

/-! ### The code -/

/-- `var2`, from `var1 >> 2` to the shift of `par_p4`. -/
def pressureOffset (p4 p5 p6 var1 : Int) : Except Fault Int := do
  let square ← int32 (shr var1 2 * shr var1 2)
  let var2 ← int32 (shr square 11 * p6)
  let product ← int32 (var1 * p5)
  let shifted ← int32 (shl product 1)
  let var2 ← int32 (shr var2 2 + shifted)
  let shifted ← int32 (shl p4 16)
  int32 (shr var2 2 + shifted)

/-- `var1`, which is divided by. -/
def pressureDivisor (p1 p2 p3 var1 : Int) : Except Fault Int := do
  let square ← int32 (shr var1 2 * shr var1 2)
  let shifted ← int32 (shl p3 5)
  let product3 ← int32 (shr square 13 * shifted)
  let product2 ← int32 (p2 * var1)
  let var1 ← int32 (shr product3 3 + shr product2 1)
  let var1 ← int32 (32768 + shr var1 18)
  let var1 ← int32 (var1 * p1)
  pure (shr var1 15)

/-- `BME680_MAX_OVERFLOW_VAL`. -/
def maxOverflowVal : Int := 0x40000000

/-- What is divided: the factor 3125 is a `uint32_t`. -/
def pressureDividend (rawPressure : Nat) (var2 : Int) : Except Fault Int := do
  let pressureComp := toSigned 32 (toUnsigned 32 (1048576 - rawPressure))
  let difference ← int32 (pressureComp - shr var2 12)
  pure (toSigned 32 (toUnsigned 32 (toUnsigned 32 difference * 3125)))

def pressureQuotient (pressureComp var1 : Int) : Except Fault Int :=
  if maxOverflowVal ≤ pressureComp then do
    let quotient ← div pressureComp var1
    int32 (shl quotient 1)
  else do
    let shifted ← int32 (shl pressureComp 1)
    div shifted var1

/-- The last correction. -/
def pressureCorrected (p7 p8 p9 p10 pressureComp : Int) : Except Fault Int := do
  let square ← int32 (shr pressureComp 3 * shr pressureComp 3)
  let var1 ← int32 (p9 * shr square 13)
  let var2 ← int32 (shr pressureComp 2 * p8)
  let var3 ← int32 (shr pressureComp 8 * shr pressureComp 8)
  let var3 ← int32 (var3 * shr pressureComp 8)
  let var3 ← int32 (var3 * p10)
  let sum ← int32 (shr var1 12 + shr var2 13)
  let sum ← int32 (sum + shr var3 17)
  let shifted ← int32 (shl p7 7)
  let sum ← int32 (sum + shifted)
  int32 (pressureComp + shr sum 4)

/-- `bme680_convert_pressure`. -/
def convertPressure (cd : CalibData) (tFine : Int) (rawPressure : Nat) : Except Fault Int := do
  let var1 ← int32 (shr tFine 1 - 64000)
  let var2 ← pressureOffset cd.parP4.toInt cd.parP5.toInt cd.parP6.toInt var1
  let var1 ← pressureDivisor cd.parP1.toNat cd.parP2.toInt cd.parP3.toInt var1
  let pressureComp ← pressureDividend rawPressure var2
  let pressureComp ← pressureQuotient pressureComp var1
  let pressureComp ← pressureCorrected cd.parP7.toInt cd.parP8.toInt cd.parP9.toInt
    cd.parP10.toNat pressureComp
  pure (toUnsigned 32 pressureComp)

/-! ### The offset -/

section

variable {p1 p2 p3 p4 p5 p6 p7 p8 p9 p10 w z : Int}

/-- The correction of second order. -/
def curvature (p6 w : Int) : Int := w / 4 * (w / 4) / 2048 * p6 / 4

def offset (p4 p5 p6 w : Int) : Int := (curvature p6 w + w * p5 * 2) / 4 + p4 * 65536

/-- What has to be checked of the offset. -/
@[mk_iff]
structure OffsetFits (p4 p5 p6 w : Int) : Prop where
  product : Fits (w * p5 * 2)
  sum : Fits (curvature p6 w + w * p5 * 2)
  total : Fits (offset p4 p5 p6 w)

theorem curvature_bounds (hw : |w / 4| ≤ 46340) (hp6 : |p6| ≤ 2 ^ 7) :
    |w / 4 * (w / 4) / 2048 * p6| ≤ 2 ^ 27 := by
  have hself : 0 ≤ w / 4 * (w / 4) := mul_self_nonneg _
  obtain ⟨-, hsquare⟩ := (fits_square_iff _).mpr hw
  have hquotient : |w / 4 * (w / 4) / 2048| ≤ 2 ^ 20 := abs_le.mpr ⟨by omega, by omega⟩
  exact abs_le.mpr (mul_bounds hquotient hp6)

theorem pressureOffset_eq_ok (hp4 : -2 ^ 15 ≤ p4 ∧ p4 < 2 ^ 15) (hp6 : |p6| ≤ 2 ^ 7) :
    pressureOffset p4 p5 p6 w = .ok z ↔
      |w / 4| ≤ 46340 ∧ OffsetFits p4 p5 p6 w ∧ z = offset p4 p5 p6 w := by
  simp only [pressureOffset, int32_bind, int32_eq_ok, shr_eq, shl_eq, fits_square_iff,
    Int.reducePow]
  constructor
  · rintro ⟨hw, -, -, hproduct, hsum, -, htotal, hz⟩
    exact ⟨hw, ⟨hproduct, hsum, htotal⟩, hz⟩
  · rintro ⟨hw, ⟨hproduct, hsum, htotal⟩, hz⟩
    have hcurvature := abs_le.mp (curvature_bounds hw hp6)
    refine ⟨hw, ?_, ?_, hproduct, hsum, ?_, htotal, hz⟩
    · rw [Fits]
      omega
    · rw [Fits] at hproduct ⊢
      omega
    · rw [Fits]
      omega

/-! ### The divisor -/

/-- The sensitivity, around which the divisor is scaled. -/
def sensitivity (p2 p3 w : Int) : Int :=
  32768 + (w / 4 * (w / 4) / 8192 * (p3 * 32) / 8 + p2 * w / 2) / 262144

def divisor (p1 p2 p3 w : Int) : Int := sensitivity p2 p3 w * p1 / 32768

@[mk_iff]
structure DivisorFits (p1 p2 p3 w : Int) : Prop where
  product : Fits (p2 * w)
  scaled : Fits (sensitivity p2 p3 w * p1)

theorem sensitivity_bounds (hw : |w / 4| ≤ 46340) (hp3 : |p3| ≤ 2 ^ 7) :
    |w / 4 * (w / 4) / 8192 * (p3 * 32)| ≤ 2 ^ 30 := by
  have hself : 0 ≤ w / 4 * (w / 4) := mul_self_nonneg _
  obtain ⟨-, hsquare⟩ := (fits_square_iff _).mpr hw
  have hquotient : |w / 4 * (w / 4) / 8192| ≤ 2 ^ 18 := abs_le.mpr ⟨by omega, by omega⟩
  obtain ⟨hlow, hhigh⟩ := abs_le.mp hp3
  have hshifted : |p3 * 32| ≤ 2 ^ 12 := abs_le.mpr ⟨by omega, by omega⟩
  exact abs_le.mpr (mul_bounds hquotient hshifted)

theorem le_sensitivity (hw : |w / 4| ≤ 46340) (hp3 : |p3| ≤ 2 ^ 7) (h : Fits (p2 * w)) :
    16384 ≤ sensitivity p2 p3 w := by
  obtain ⟨hlow, hhigh⟩ := abs_le.mp (sensitivity_bounds hw hp3)
  rw [Fits] at h
  rw [sensitivity]
  omega

theorem pressureDivisor_eq_ok (hw : |w / 4| ≤ 46340) (hp3 : |p3| ≤ 2 ^ 7) :
    pressureDivisor p1 p2 p3 w = .ok z ↔
      DivisorFits p1 p2 p3 w ∧ z = divisor p1 p2 p3 w := by
  simp only [pressureDivisor, int32_bind, shr_eq, shl_eq, fits_square_iff, Int.reducePow, pure,
    Except.pure, Except.ok.injEq]
  constructor
  · rintro ⟨-, -, -, hproduct, -, -, hscaled, hz⟩
    exact ⟨⟨hproduct, hscaled⟩, hz.symm⟩
  · rintro ⟨⟨hproduct, hscaled⟩, hz⟩
    obtain ⟨hlow3, hhigh3⟩ := abs_le.mp hp3
    obtain ⟨hlow, hhigh⟩ := abs_le.mp (sensitivity_bounds hw hp3)
    have hbounds := hproduct
    rw [Fits] at hbounds
    refine ⟨hw, ?_, ?_, hproduct, ?_, ?_, hscaled, hz.symm⟩
    · rw [Fits]
      omega
    · rw [Fits]
      omega
    · rw [Fits]
      omega
    · rw [Fits]
      omega

theorem divisor_nonneg (p1 : Nat) (hw : |w / 4| ≤ 46340) (hp3 : |p3| ≤ 2 ^ 7)
    (h : Fits (p2 * w)) : 0 ≤ divisor p1 p2 p3 w := by
  have hle := le_sensitivity hw hp3 h
  exact Int.ediv_nonneg (mul_nonneg (by omega) (Int.natCast_nonneg p1)) (by decide)

/-- The sensitivity is never far from 32768. -/
theorem divisor_ne_zero_iff (p1 : Nat) (hw : |w / 4| ≤ 46340) (hp3 : |p3| ≤ 2 ^ 7)
    (h : Fits (p2 * w)) :
    divisor p1 p2 p3 w ≠ 0 ↔ 2 ≤ p1 ∨ p1 = 1 ∧ 32768 ≤ sensitivity p2 p3 w := by
  have hle := le_sensitivity hw hp3 h
  rw [divisor]
  rcases Nat.lt_or_ge p1 2 with hsmall | hlarge
  · have hcases : p1 = 0 ∨ p1 = 1 := by omega
    rcases hcases with rfl | rfl
    · simp
    · rw [Nat.cast_one, Int.mul_one]
      omega
  · have hmul : sensitivity p2 p3 w * 2 ≤ sensitivity p2 p3 w * p1 :=
      mul_le_mul_of_nonneg_left (by omega) (by omega)
    omega

/-! ### The quotient -/

/-- `3125` times the difference, as it wraps around. -/
def dividend (rawPressure : Nat) (offset : Int) : Int :=
  toSigned 32 ((1048576 - rawPressure - offset / 4096) * 3125)

def quotient (dividend divisor : Int) : Int :=
  if maxOverflowVal ≤ dividend then dividend.tdiv divisor * 2 else (dividend * 2).tdiv divisor

theorem pressureDividend_eq_ok {rawPressure : Nat} (hraw : rawPressure < 2 ^ 20) {var2 : Int}
    (hvar2 : Fits var2) :
    pressureDividend rawPressure var2 = .ok z ↔ z = dividend rawPressure var2 := by
  have hcomp : toSigned 32 (toUnsigned 32 (1048576 - rawPressure)) = 1048576 - rawPressure := by
    rw [toUnsigned_of_lt (by omega) (by omega), toSigned_of_fits (w := 31) (by omega) (by omega)]
  have hdifference : Fits (1048576 - rawPressure - var2 / 4096) := by
    rw [Fits] at hvar2 ⊢
    omega
  simp only [pressureDividend, hcomp, int32_bind, shr_eq, Int.reducePow, pure, Except.pure,
    Except.ok.injEq, toUnsigned_mul, toSigned_toUnsigned]
  exact ⟨fun h => h.2.symm, fun h => ⟨hdifference, h.symm⟩⟩

theorem pressureQuotient_eq_ok {a b : Int} (ha : Fits a) (hb : 0 ≤ b) :
    pressureQuotient a b = .ok z ↔
      b ≠ 0 ∧ -2 ^ 30 ≤ a ∧ Fits (quotient a b) ∧ z = quotient a b := by
  rw [pressureQuotient, quotient]
  by_cases hb0 : b = 0
  · subst hb0
    rw [div_zero]
    constructor
    · intro h
      split at h
      · cases h
      · obtain ⟨-, h⟩ := int32_bind.mp h
        rw [div_zero] at h
        cases h
    · rintro ⟨h, -⟩
      exact absurd rfl h
  · have hpos : 0 < b := by omega
    obtain ⟨hlow, hhigh⟩ := ha
    by_cases hlarge : maxOverflowVal ≤ a
    · rw [if_pos hlarge, if_pos hlarge, div_of_ne_zero _ hb0, int32_bind, int32_eq_ok,
        shl_eq]
      rw [maxOverflowVal] at hlarge
      constructor
      · rintro ⟨-, hfits, hz⟩
        exact ⟨hb0, by omega, hfits, hz⟩
      · rintro ⟨-, -, hfits, hz⟩
        exact ⟨fits_tdiv ⟨hlow, hhigh⟩ hpos, hfits, hz⟩
    · rw [if_neg hlarge, if_neg hlarge, int32_bind, div_of_ne_zero _ hb0, int32_eq_ok,
        shl_eq]
      rw [maxOverflowVal] at hlarge
      constructor
      · rintro ⟨hfits, hquotient, hz⟩
        rw [Fits] at hfits
        exact ⟨hb0, by omega, hquotient, hz⟩
      · rintro ⟨-, hlow, hquotient, hz⟩
        refine ⟨?_, hquotient, hz⟩
        rw [Fits]
        omega

/-! ### The corrected quotient -/

@[mk_iff]
structure QuotientFits (p8 p9 p10 p : Int) : Prop where
  range : |p / 256| ≤ 1290
  square : Fits (p9 * (p / 8 * (p / 8) / 8192))
  product : Fits (p / 4 * p8)
  cube : Fits (p / 256 * (p / 256) * (p / 256) * p10)

def corrected (p7 p8 p9 p10 p : Int) : Int :=
  p + (p9 * (p / 8 * (p / 8) / 8192) / 4096 + p / 4 * p8 / 8192 +
    p / 256 * (p / 256) * (p / 256) * p10 / 131072 + p7 * 128) / 16

theorem pressureCorrected_eq_ok (hp7 : |p7| ≤ 2 ^ 7) {p : Int} :
    pressureCorrected p7 p8 p9 p10 p = .ok z ↔
      QuotientFits p8 p9 p10 p ∧ z = corrected p7 p8 p9 p10 p := by
  simp only [pressureCorrected, int32_bind, int32_eq_ok, shr_eq, shl_eq, Int.reducePow]
  constructor
  · rintro ⟨-, hsquare, hproduct, hsquare8, hcube8, hcube, -, -, -, -, -, hz⟩
    exact ⟨⟨(fits_cube_iff _).mp ⟨hsquare8, hcube8⟩, hsquare, hproduct, hcube⟩, hz⟩
  · rintro ⟨⟨hrange, hsquare, hproduct, hcube⟩, hz⟩
    obtain ⟨hsquare8, hcube8⟩ := (fits_cube_iff _).mpr hrange
    obtain ⟨hlow, hhigh⟩ := abs_le.mp hrange
    obtain ⟨hlow7, hhigh7⟩ := abs_le.mp hp7
    have hrange3 : |p / 8| ≤ 46340 := abs_le.mpr ⟨by omega, by omega⟩
    refine ⟨(fits_square_iff _).mpr hrange3, hsquare, hproduct, hsquare8, hcube8, hcube, ?_⟩
    simp only [Fits] at hsquare hproduct hcube ⊢
    refine ⟨?_, ?_, ?_, ?_, ?_, hz⟩ <;> omega

end

/-! ### All of it -/

section

variable (cd : CalibData) (tFine : Int) (rawPressure : Nat)

def exactDividend : Int :=
  dividend rawPressure
    (offset cd.parP4.toInt cd.parP5.toInt cd.parP6.toInt (tFine / 2 - 64000))

def exactDivisor : Int :=
  divisor cd.parP1.toNat cd.parP2.toInt cd.parP3.toInt (tFine / 2 - 64000)

def exactQuotient : Int := quotient (exactDividend cd tFine rawPressure) (exactDivisor cd tFine)

/-- The formula over the integers, but for the factor that wraps around. -/
def exactPressure : Int :=
  corrected cd.parP7.toInt cd.parP8.toInt cd.parP9.toInt cd.parP10.toNat
    (exactQuotient cd tFine rawPressure)

/-- What has to be checked of `bme680_convert_pressure`. -/
@[mk_iff]
structure PressureFits : Prop where
  /-- At most 97.4 degrees. -/
  fine : tFine ≤ 498727
  divides : 2 ≤ cd.parP1.toNat ∨ cd.parP1.toNat = 1 ∧
    32768 ≤ sensitivity cd.parP2.toInt cd.parP3.toInt (tFine / 2 - 64000)
  offset : OffsetFits cd.parP4.toInt cd.parP5.toInt cd.parP6.toInt (tFine / 2 - 64000)
  divisor : DivisorFits cd.parP1.toNat cd.parP2.toInt cd.parP3.toInt (tFine / 2 - 64000)
  dividend : -2 ^ 30 ≤ exactDividend cd tFine rawPressure
  quotient : QuotientFits cd.parP8.toInt cd.parP9.toInt cd.parP10.toNat
    (exactQuotient cd tFine rawPressure)

end

instance (p4 p5 p6 w : Int) : Decidable (OffsetFits p4 p5 p6 w) :=
  decidable_of_iff' _ (offsetFits_iff p4 p5 p6 w)

instance (p1 p2 p3 w : Int) : Decidable (DivisorFits p1 p2 p3 w) :=
  decidable_of_iff' _ (divisorFits_iff p1 p2 p3 w)

instance (p8 p9 p10 p : Int) : Decidable (QuotientFits p8 p9 p10 p) :=
  decidable_of_iff' _ (quotientFits_iff p8 p9 p10 p)

instance (cd : CalibData) (tFine : Int) (rawPressure : Nat) :
    Decidable (PressureFits cd tFine rawPressure) :=
  decidable_of_iff' _ (pressureFits_iff cd tFine rawPressure)

section

variable {cd : CalibData} {tFine : Int} {rawPressure : Nat} {z : Int}

/-- **The pressure is computed without a fault** exactly if `PressureFits`, and then it is
that of the formula. -/
theorem convertPressure_eq_ok (hfine : 0 ≤ tFine ∧ tFine < 2 ^ 21 + 2 ^ 18)
    (hraw : rawPressure < 2 ^ 20) :
    convertPressure cd tFine rawPressure = .ok z ↔
      PressureFits cd tFine rawPressure ∧
        z = toUnsigned 32 (exactPressure cd tFine rawPressure) := by
  have hp3 := abs_toInt_le 7 cd.parP3
  have hp6 := abs_toInt_le 7 cd.parP6
  have hp7 := abs_toInt_le 7 cd.parP7
  have hp4 : -2 ^ 15 ≤ cd.parP4.toInt ∧ cd.parP4.toInt < 2 ^ 15 :=
    ⟨BitVec.le_toInt cd.parP4, BitVec.toInt_lt⟩
  have hwide : |(tFine / 2 - 64000) / 4| ≤ 46340 ↔ tFine ≤ 498727 := by
    rw [abs_le]
    omega
  have hstart : Fits (tFine / 2 - 64000) := ⟨by omega, by omega⟩
  rw [convertPressure, int32_bind]
  simp only [shr_eq, Int.reducePow, hstart, true_and, bind_eq_ok,
    pressureOffset_eq_ok hp4 hp6, hwide]
  constructor
  · rintro ⟨var2, ⟨hle, hoffset, rfl⟩, var1, hvar1, a, ha, p, hp, c, hc, hz⟩
    have hw := hwide.mpr hle
    obtain ⟨hdivisor, rfl⟩ := (pressureDivisor_eq_ok hw hp3).mp hvar1
    obtain rfl := (pressureDividend_eq_ok hraw hoffset.total).mp ha
    obtain ⟨hne, hdividend, -, rfl⟩ := (pressureQuotient_eq_ok (fits_toSigned _)
      (divisor_nonneg cd.parP1.toNat hw hp3 hdivisor.product)).mp hp
    obtain ⟨hquotient, rfl⟩ := (pressureCorrected_eq_ok hp7).mp hc
    have hdivides := (divisor_ne_zero_iff cd.parP1.toNat hw hp3 hdivisor.product).mp hne
    cases hz
    exact ⟨⟨hle, hdivides, hoffset, hdivisor, hdividend, hquotient⟩, rfl⟩
  · rintro ⟨⟨hle, hdivides, hoffset, hdivisor, hdividend, hquotient⟩, rfl⟩
    have hw := hwide.mpr hle
    have hne := (divisor_ne_zero_iff cd.parP1.toNat hw hp3 hdivisor.product).mpr hdivides
    have hrange : Fits (exactQuotient cd tFine rawPressure) := by
      obtain ⟨hlow, hhigh⟩ := abs_le.mp hquotient.range
      exact ⟨by omega, by omega⟩
    exact ⟨_, ⟨hle, hoffset, rfl⟩, _, (pressureDivisor_eq_ok hw hp3).mpr ⟨hdivisor, rfl⟩, _,
      (pressureDividend_eq_ok hraw hoffset.total).mpr rfl, _,
      (pressureQuotient_eq_ok (fits_toSigned _)
        (divisor_nonneg cd.parP1.toNat hw hp3 hdivisor.product)).mpr
        ⟨hne, hdividend, hrange, rfl⟩,
      _, (pressureCorrected_eq_ok hp7).mpr ⟨hquotient, rfl⟩, rfl⟩

end

end Datk.Sensor
