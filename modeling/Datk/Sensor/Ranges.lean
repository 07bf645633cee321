import Mathlib.Tactic.Ring
import Datk.Sensor.Humidity

/-!
# The readings that can be converted

`PressureFits` and `HumidityFits` follow the two functions from one intermediate result to the
next.  Here the same is said of what they are given, as a data sheet would: which calibration
can be corrected for a temperature, and between which limits the readings then have to be.
The limits depend on the calibration and on the temperature only.

A reading of the pressure goes down as the pressure goes up.  It is compared with the
reading at no pressure, `zeroReading`, and a step of it stands for `6250 / pressureGain`
pascals.  A reading of the humidity goes up from `zeroHumidity`.
-/

namespace Datk.Sensor

open Lib Lib.CInt

/-! ### The calibration for a temperature -/

section

variable (cd : CalibData) (tFine : Int)

/-- How far the temperature is from 25 degrees.  A degree has 2560. -/
def warmth : Int := tFine / 2 - 64000

/-- How far the zero of the pressure drifts.  A step of a reading has `2 ^ 14`. -/
def zeroDrift : Int :=
  (warmth tFine / 4) ^ 2 / 2048 * cd.parP6.toInt / 4 + 2 * (warmth tFine * cd.parP5.toInt)

/-- How far the gain drifts from `par_p1`.  The whole has `2 ^ 34`. -/
def gainDrift : Int :=
  8 * ((warmth tFine / 4) ^ 2 / 8192 * cd.parP3.toInt) + warmth tFine * cd.parP2.toInt

/-- The reading at no pressure. -/
def zeroReading : Int := 1048576 - 16 * cd.parP4.toInt - zeroDrift cd tFine / 2 ^ 14

def pressureGain : Int := (32768 + gainDrift cd tFine / 2 ^ 19) * cd.parP1.toNat / 32768

/-- The calibration of the pressure can be corrected for the temperature. -/
@[mk_iff]
structure Compensable : Prop where
  /-- At most 97.4 degrees, and so not below `par_t1`, where `t_fine` has wrapped around. -/
  fine : tFine ≤ 498727
  parP1 : 2 ≤ cd.parP1.toNat ∨ cd.parP1.toNat = 1 ∧ 0 ≤ gainDrift cd tFine
  parP2 : -2 ^ 31 ≤ warmth tFine * cd.parP2.toInt ∧ warmth tFine * cd.parP2.toInt < 2 ^ 31
  gain : (32768 + gainDrift cd tFine / 2 ^ 19) * cd.parP1.toNat < 2 ^ 31
  parP5 : -2 ^ 30 ≤ warmth tFine * cd.parP5.toInt ∧ warmth tFine * cd.parP5.toInt < 2 ^ 30
  drift : -2 ^ 31 ≤ zeroDrift cd tFine ∧ zeroDrift cd tFine < 2 ^ 31
  parP4 : -2 ^ 15 ≤ cd.parP4.toInt + zeroDrift cd tFine / 2 ^ 18 ∧
    cd.parP4.toInt + zeroDrift cd tFine / 2 ^ 18 < 2 ^ 15

/-! ### The limits of the pressure -/

/-- The greatest pressure that `par_p8`, `par_p9` and `par_p10` can correct, in pascals, -/
def greatestPressure : Int :=
  min (256 * limit 1290 (fun k => cd.parP10.toNat * (k : Int) ^ 3) + 255)
    (min (8 * limit 41311 (fun k => cd.parP9.toInt * ((k : Int) ^ 2 / 8192)) + 7)
      (4 * limit 82623 (fun k => cd.parP8.toInt * (k : Int)) + 3))

/-- and how far below zero it may be. -/
def leastPressure : Int :=
  -min (256 * limit 1290 (fun k => -(cd.parP10.toNat : Int) * (k : Int) ^ 3) : Int)
    (min (8 * limit 41280 (fun k => cd.parP9.toInt * ((k : Int) ^ 2 / 8192)))
      (4 * limit 82560 (fun k => -cd.parP8.toInt * (k : Int))))

/-- `d` stands for a pressure that can be corrected. -/
def Correctable (d : Int) : Prop :=
  (leastPressure cd - 1) * pressureGain cd tFine < 2 * d ∧
    if d < 2 ^ 30 then 2 * d < (greatestPressure cd + 1) * pressureGain cd tFine
    else d < (greatestPressure cd / 2 + 1) * pressureGain cd tFine

/-- The reading of the pressure is within the limits.  Where it is more than 687194 steps below
`zeroReading`, the factor 3125 makes it wrap around. -/
def PressureRange (rawPressure : Nat) : Prop :=
  (-343597 ≤ zeroReading cd tFine - rawPressure ∧ zeroReading cd tFine - rawPressure ≤ 687194 ∧
      Correctable cd tFine (3125 * (zeroReading cd tFine - rawPressure))) ∨
    1030793 ≤ zeroReading cd tFine - rawPressure ∧
      Correctable cd tFine (3125 * (zeroReading cd tFine - rawPressure) - 2 ^ 32)

/-! ### The limits of the humidity -/

/-- The reading at no humidity. -/
def zeroHumidity : Int :=
  16 * cd.parH1.toNat + (tempScaled tFine * cd.parH3.toInt).tdiv 100 / 2

def humidityGain : Int :=
  cd.parH2.toNat * ((tempScaled tFine * cd.parH4.toInt).tdiv 100 +
    (tempScaled tFine * (tempScaled tFine * cd.parH5.toInt).tdiv 100 / 64).tdiv 100 + 16384) / 1024

/-- The factor of the correction of second order. -/
def humidityCurve : Int :=
  (128 * cd.parH6.toNat + (tempScaled tFine * cd.parH7.toInt).tdiv 100) / 16

/-- The greatest humidity that can be corrected. -/
def greatestHumidity : Nat :=
  limit 46340 fun k => humidityCurve cd tFine * ((k : Int) ^ 2 / 1024)

/-- The temperature is one for `par_h5`, and the reading of the humidity is within the limits. -/
@[mk_iff]
structure HumidityRange (rawHumidity : Nat) : Prop where
  parH5 : -2 ^ 31 ≤ tempScaled tFine * (tempScaled tFine * cd.parH5.toInt).tdiv 100 ∧
    tempScaled tFine * (tempScaled tFine * cd.parH5.toInt).tdiv 100 < 2 ^ 31
  low : -(16384 * (greatestHumidity cd tFine : Int)) ≤
    (rawHumidity - zeroHumidity cd tFine) * humidityGain cd tFine
  high : (rawHumidity - zeroHumidity cd tFine) * humidityGain cd tFine <
    16384 * (greatestHumidity cd tFine + 1)

end

instance (cd : CalibData) (tFine : Int) : Decidable (Compensable cd tFine) :=
  decidable_of_iff' _ (compensable_iff cd tFine)

instance (cd : CalibData) (tFine d : Int) : Decidable (Correctable cd tFine d) :=
  inferInstanceAs (Decidable (_ ∧ _))

instance (cd : CalibData) (tFine : Int) (rawPressure : Nat) :
    Decidable (PressureRange cd tFine rawPressure) :=
  inferInstanceAs (Decidable (_ ∨ _))

instance (cd : CalibData) (tFine : Int) (rawHumidity : Nat) :
    Decidable (HumidityRange cd tFine rawHumidity) :=
  decidable_of_iff' _ (humidityRange_iff cd tFine rawHumidity)

section

variable {cd : CalibData} {tFine : Int}

/-! ### The calibration -/

theorem offset_eq : offset cd.parP4.toInt cd.parP5.toInt cd.parP6.toInt (tFine / 2 - 64000) =
    zeroDrift cd tFine / 4 + cd.parP4.toInt * 65536 := by
  rw [offset, curvature, zeroDrift, warmth, pow_two, Int.mul_comm 2]

theorem offsetFits_iff_drift :
    OffsetFits cd.parP4.toInt cd.parP5.toInt cd.parP6.toInt (tFine / 2 - 64000) ↔
      (-2 ^ 30 ≤ warmth tFine * cd.parP5.toInt ∧ warmth tFine * cd.parP5.toInt < 2 ^ 30) ∧
        (-2 ^ 31 ≤ zeroDrift cd tFine ∧ zeroDrift cd tFine < 2 ^ 31) ∧
          -2 ^ 15 ≤ cd.parP4.toInt + zeroDrift cd tFine / 2 ^ 18 ∧
            cd.parP4.toInt + zeroDrift cd tFine / 2 ^ 18 < 2 ^ 15 := by
  have hsum : curvature cd.parP6.toInt (tFine / 2 - 64000) +
      (tFine / 2 - 64000) * cd.parP5.toInt * 2 = zeroDrift cd tFine := by
    rw [curvature, zeroDrift, warmth, pow_two, Int.mul_comm 2]
  rw [offsetFits_iff, hsum, offset_eq, warmth]
  simp only [Fits]
  omega

theorem sensitivity_eq : sensitivity cd.parP2.toInt cd.parP3.toInt (tFine / 2 - 64000) =
    32768 + gainDrift cd tFine / 2 ^ 19 := by
  rw [sensitivity, gainDrift, warmth, pow_two, Int.mul_comm cd.parP2.toInt, ← Int.mul_assoc]
  omega

theorem divisorFits_iff_gain (hw : |(tFine / 2 - 64000) / 4| ≤ 46340) :
    DivisorFits cd.parP1.toNat cd.parP2.toInt cd.parP3.toInt (tFine / 2 - 64000) ↔
      (-2 ^ 31 ≤ warmth tFine * cd.parP2.toInt ∧ warmth tFine * cd.parP2.toInt < 2 ^ 31) ∧
        (32768 + gainDrift cd tFine / 2 ^ 19) * cd.parP1.toNat < 2 ^ 31 := by
  rw [divisorFits_iff, warmth, Int.mul_comm _ cd.parP2.toInt, ← sensitivity_eq]
  refine and_congr_right fun hproduct => ?_
  have hle := le_sensitivity hw (abs_toInt_le 7 cd.parP3) hproduct
  have hnonneg : 0 ≤ sensitivity cd.parP2.toInt cd.parP3.toInt (tFine / 2 - 64000) *
      cd.parP1.toNat := mul_nonneg (by omega) (Int.natCast_nonneg _)
  exact ⟨fun h => h.2, fun h => ⟨by omega, h⟩⟩

theorem exactDivisor_eq : exactDivisor cd tFine = pressureGain cd tFine := by
  rw [exactDivisor, divisor, sensitivity_eq, pressureGain]

/-! ### The pressure -/

theorem natCast_pow_le (n : Nat) {j k : Nat} (h : j ≤ k) : (j : Int) ^ n ≤ (k : Int) ^ n :=
  pow_le_pow_left₀ (Int.natCast_nonneg j) (Int.ofNat_le.mpr h) n

/-- The bounds that the three parameters set on the steps of a pressure. -/
theorem fits_iff_le_limits (p8 p9 p10 : Int) {a b c m n : Nat} (hb : a ≤ 1290 → b ≤ m)
    (hc : a ≤ 1290 → c ≤ n) :
    (a ≤ 1290 ∧ Fits (p9 * ((b : Int) ^ 2 / 8192)) ∧ Fits (p8 * (c : Int)) ∧
      Fits (p10 * (a : Int) ^ 3)) ↔
      a ≤ limit 1290 (fun k => p10 * (k : Int) ^ 3) ∧
        b ≤ limit m (fun k => p9 * ((k : Int) ^ 2 / 8192)) ∧
          c ≤ limit n (fun k => p8 * (k : Int)) := by
  have hlimit := limit_le 1290 fun k => p10 * (k : Int) ^ 3
  have hcube : a ≤ 1290 →
      (a ≤ limit 1290 (fun k => p10 * (k : Int) ^ 3) ↔ Fits (p10 * (a : Int) ^ 3)) :=
    le_limit_mul_iff (g := fun k => (k : Int) ^ 3) rfl fun j k h => natCast_pow_le 3 h
  have hsquare : b ≤ m → (b ≤ limit m (fun k => p9 * ((k : Int) ^ 2 / 8192)) ↔
      Fits (p9 * ((b : Int) ^ 2 / 8192))) :=
    le_limit_mul_iff (g := fun k => (k : Int) ^ 2 / 8192) rfl fun j k h =>
      Int.ediv_le_ediv (by decide) (natCast_pow_le 2 h)
  have hproduct : c ≤ n → (c ≤ limit n (fun k => p8 * (k : Int)) ↔ Fits (p8 * (c : Int))) :=
    le_limit_mul_iff (g := fun k => (k : Int)) rfl fun j k h => Int.ofNat_le.mpr h
  constructor
  · rintro ⟨ha, h9, h8, h10⟩
    exact ⟨(hcube ha).mpr h10, (hsquare (hb ha)).mpr h9, (hproduct (hc ha)).mpr h8⟩
  · rintro ⟨h10, h9, h8⟩
    have ha : a ≤ 1290 := h10.trans hlimit
    exact ⟨ha, (hsquare (hb ha)).mp h9, (hproduct (hc ha)).mp h8, (hcube ha).mp h10⟩

/-- The pressures from zero on that can be corrected. -/
theorem quotientFits_iff_le {p : Int} (hp : 0 ≤ p) :
    QuotientFits cd.parP8.toInt cd.parP9.toInt cd.parP10.toNat p ↔ p ≤ greatestPressure cd := by
  obtain ⟨a, ha⟩ : ∃ a : Nat, p / 256 = a := ⟨(p / 256).toNat, by omega⟩
  obtain ⟨b, hb⟩ : ∃ b : Nat, p / 8 = b := ⟨(p / 8).toNat, by omega⟩
  obtain ⟨c, hc⟩ : ∃ c : Nat, p / 4 = c := ⟨(p / 4).toNat, by omega⟩
  have hrange : |(a : Int)| ≤ 1290 ↔ a ≤ 1290 := by
    rw [Nat.abs_cast]
    omega
  have hcube : (a : Int) * a * a * cd.parP10.toNat = cd.parP10.toNat * (a : Int) ^ 3 := by ring
  rw [quotientFits_iff, greatestPressure, le_min_iff, le_min_iff, ha, hb, hc, hrange, hcube,
    ← pow_two, Int.mul_comm (c : Int),
    fits_iff_le_limits _ _ _ (m := 41311) (n := 82623) (by omega) (by omega)]
  omega

/-- The pressures below zero that can be corrected. -/
theorem quotientFits_iff_ge {p : Int} (hp : p < 0) :
    QuotientFits cd.parP8.toInt cd.parP9.toInt cd.parP10.toNat p ↔ leastPressure cd ≤ p := by
  obtain ⟨a, ha⟩ : ∃ a : Nat, p / 256 = -a := ⟨(-(p / 256)).toNat, by omega⟩
  obtain ⟨b, hb⟩ : ∃ b : Nat, p / 8 = -b := ⟨(-(p / 8)).toNat, by omega⟩
  obtain ⟨c, hc⟩ : ∃ c : Nat, p / 4 = -c := ⟨(-(p / 4)).toNat, by omega⟩
  have hrange : |-(a : Int)| ≤ 1290 ↔ a ≤ 1290 := by
    rw [abs_neg, Nat.abs_cast]
    omega
  have hcube : -(a : Int) * -a * -a * cd.parP10.toNat = -(cd.parP10.toNat : Int) * a ^ 3 := by ring
  have hproduct : -(c : Int) * cd.parP8.toInt = -cd.parP8.toInt * c := by ring
  have hmin : ∀ x y z : Int, -min x (min y z) ≤ p ↔ -p ≤ x ∧ -p ≤ y ∧ -p ≤ z := by
    intro x y z
    rw [← le_min_iff, ← le_min_iff]
    omega
  rw [quotientFits_iff, leastPressure, hmin, ha, hb, hc, hrange, hcube, hproduct, neg_mul_neg,
    ← pow_two, fits_iff_le_limits _ _ _ (m := 41280) (n := 82560) (by omega) (by omega)]
  omega

theorem leastPressure_le (cd : CalibData) : leastPressure cd ≤ 0 := by
  rw [leastPressure]
  omega

theorem greatestPressure_nonneg (cd : CalibData) : 0 ≤ greatestPressure cd := by
  rw [greatestPressure]
  omega

/-- **The pressures that can be corrected** are those between the two limits. -/
theorem quotientFits_iff_limits {p : Int} :
    QuotientFits cd.parP8.toInt cd.parP9.toInt cd.parP10.toNat p ↔
      leastPressure cd ≤ p ∧ p ≤ greatestPressure cd := by
  have hleast := leastPressure_le cd
  have hgreatest := greatestPressure_nonneg cd
  rcases le_or_gt 0 p with hp | hp
  · rw [quotientFits_iff_le hp]
    exact ⟨fun h => ⟨by omega, h⟩, fun h => h.2⟩
  · rw [quotientFits_iff_ge hp]
    exact ⟨fun h => ⟨h, by omega⟩, fun h => h.1⟩

-- With `par_p10 = 30`, no more than 1065 hPa.
example : greatestPressure (readCalibData someRegisters) = 106495 := by decide +kernel

/-- A quotient is between two limits if what is divided is. -/
theorem quotient_mem_iff {d v lo hi : Int} (hv : 0 < v) (hlo : lo ≤ 0) (hhi : 0 ≤ hi) :
    lo ≤ quotient d v ∧ quotient d v ≤ hi ↔ (lo - 1) * v < 2 * d ∧
      if d < 2 ^ 30 then 2 * d < (hi + 1) * v else d < (hi / 2 + 1) * v := by
  rw [quotient, maxOverflowVal]
  by_cases hd : d < 2 ^ 30
  · rw [if_neg (by omega), if_pos hd, le_tdiv_iff hv hlo, tdiv_le_iff hv hhi, Int.mul_comm d]
  · have hnonneg := Int.tdiv_nonneg (a := d) (by omega) hv.le
    have hneg : (lo - 1) * v < 0 := mul_neg_of_neg_of_pos (by omega) hv
    rw [if_pos (by omega), if_neg hd, ← tdiv_le_iff hv (by omega)]
    omega

theorem exactDividend_eq (rawPressure : Nat) : exactDividend cd tFine rawPressure =
    toSigned 32 (3125 * (zeroReading cd tFine - rawPressure)) := by
  rw [exactDividend, dividend, offset_eq, zeroReading, Int.mul_comm]
  congr 2
  omega

theorem pressureRange_iff (h : Compensable cd tFine) {rawPressure : Nat}
    (hraw : rawPressure < 2 ^ 20) : PressureRange cd tFine rawPressure ↔
      -2 ^ 30 ≤ exactDividend cd tFine rawPressure ∧
        Correctable cd tFine (exactDividend cd tFine rawPressure) := by
  obtain ⟨hlow, hhigh⟩ := h.parP4
  have hzero : 524289 ≤ zeroReading cd tFine ∧ zeroReading cd tFine ≤ 1572864 := by
    rw [zeroReading]
    omega
  rw [PressureRange, exactDividend_eq]
  obtain ⟨x, hx⟩ : ∃ x, zeroReading cd tFine - rawPressure = x := ⟨_, rfl⟩
  rw [hx]
  rcases le_or_gt x 687194 with hsmall | hlarge
  · rw [toSigned_of_fits (w := 31) (by omega) (by omega)]
    constructor
    · rintro (⟨hle, -, hcorrect⟩ | ⟨hge, -⟩)
      · exact ⟨by omega, hcorrect⟩
      · omega
    · rintro ⟨hle, hcorrect⟩
      exact .inl ⟨by omega, hsmall, hcorrect⟩
  · rw [toSigned_of_ge (w := 31) (by omega) (by omega)]
    constructor
    · rintro (⟨-, hle, -⟩ | ⟨hge, hcorrect⟩)
      · omega
      · exact ⟨by omega, hcorrect⟩
    · rintro ⟨hle, hcorrect⟩
      exact .inr ⟨by omega, hcorrect⟩

/-- **The pressures that are converted**, in terms of what is given. -/
theorem pressureFits_iff_ranges (hfine : 0 ≤ tFine) {rawPressure : Nat}
    (hraw : rawPressure < 2 ^ 20) : PressureFits cd tFine rawPressure ↔
      Compensable cd tFine ∧ PressureRange cd tFine rawPressure := by
  have hwarm : tFine ≤ 498727 → |(tFine / 2 - 64000) / 4| ≤ 46340 := fun h =>
    abs_le.mpr ⟨by omega, by omega⟩
  have hsensitivity : 32768 ≤ sensitivity cd.parP2.toInt cd.parP3.toInt (tFine / 2 - 64000) ↔
      0 ≤ gainDrift cd tFine := by
    rw [sensitivity_eq]
    omega
  have hquotient : Compensable cd tFine →
      (QuotientFits cd.parP8.toInt cd.parP9.toInt cd.parP10.toNat
          (exactQuotient cd tFine rawPressure) ↔
        Correctable cd tFine (exactDividend cd tFine rawPressure)) := by
    intro h
    have hproduct : Fits (cd.parP2.toInt * (tFine / 2 - 64000)) := by
      rw [Int.mul_comm]
      exact h.parP2
    have hnonneg := divisor_nonneg cd.parP1.toNat (hwarm h.fine) (abs_toInt_le 7 cd.parP3) hproduct
    have hne := (divisor_ne_zero_iff cd.parP1.toNat (hwarm h.fine) (abs_toInt_le 7 cd.parP3)
      hproduct).mpr (h.parP1.imp_right fun hone => ⟨hone.1, hsensitivity.mpr hone.2⟩)
    have hpos : 0 < pressureGain cd tFine := by
      rw [← exactDivisor_eq, exactDivisor]
      omega
    rw [quotientFits_iff_limits, exactQuotient, exactDivisor_eq]
    exact quotient_mem_iff hpos (leastPressure_le cd) (greatestPressure_nonneg cd)
  rw [pressureFits_iff, hsensitivity, offsetFits_iff_drift]
  constructor
  · rintro ⟨hle, hdivides, ⟨hparP5, hdrift, hparP4⟩, hdivisor, hdividend, hfits⟩
    obtain ⟨hparP2, hgain⟩ := (divisorFits_iff_gain (hwarm hle)).mp hdivisor
    have h : Compensable cd tFine := ⟨hle, hdivides, hparP2, hgain, hparP5, hdrift, hparP4⟩
    exact ⟨h, (pressureRange_iff h hraw).mpr ⟨hdividend, (hquotient h).mp hfits⟩⟩
  · rintro ⟨h, hrange⟩
    obtain ⟨hdividend, hcorrect⟩ := (pressureRange_iff h hraw).mp hrange
    have hdivisor := (divisorFits_iff_gain (hwarm h.fine)).mpr ⟨h.parP2, h.gain⟩
    exact ⟨h.fine, h.parP1, ⟨h.parP5, h.drift, h.parP4⟩, hdivisor, hdividend,
      (hquotient h).mpr hcorrect⟩

/-! ### The humidity -/

theorem exactVar3_eq (rawHumidity : Nat) : exactVar3 cd tFine rawHumidity =
    (rawHumidity - zeroHumidity cd tFine) * humidityGain cd tFine := by
  have hzero : exactVar1 cd.parH1.toNat cd.parH3.toInt (tempScaled tFine) rawHumidity =
      rawHumidity - zeroHumidity cd tFine := by
    rw [exactVar1, zeroHumidity]
    omega
  rw [exactVar3, hzero]
  rfl

/-- The humidities that can be corrected. -/
theorem le_greatestHumidity_iff {k : Nat} (hk : k ≤ 46340) : k ≤ greatestHumidity cd tFine ↔
    Fits (humidityCurve cd tFine * ((k : Int) ^ 2 / 1024)) := by
  refine le_limit_mul_iff (g := fun k => (k : Int) ^ 2 / 1024) rfl (fun i j h => ?_) hk
  exact Int.ediv_le_ediv (by decide) (natCast_pow_le 2 h)

/-- **The humidities that are converted**, in terms of what is given. -/
theorem humidityFits_iff_range (rawHumidity : Nat) :
    HumidityFits cd tFine rawHumidity ↔ HumidityRange cd tFine rawHumidity := by
  have hcurve : exactVar4 cd.parH6.toNat cd.parH7.toInt (tempScaled tFine) =
      humidityCurve cd tFine := by
    rw [exactVar4, humidityCurve, Int.mul_comm 128]
  have hlimit := limit_le 46340 fun k => humidityCurve cd tFine * ((k : Int) ^ 2 / 1024)
  rw [humidityFits_iff, humidityRange_iff, exactVar6, exactVar3_eq, hcurve]
  refine and_congr_right fun _ => ?_
  obtain ⟨v, hv⟩ : ∃ v, (rawHumidity - zeroHumidity cd tFine) * humidityGain cd tFine = v :=
    ⟨_, rfl⟩
  have hsquare : v / 16384 * (v / 16384) = ((v / 16384).natAbs : Int) ^ 2 := by
    rw [pow_two, Int.natAbs_mul_self']
  rw [hv, hsquare]
  constructor
  · rintro ⟨hrange, hfits⟩
    obtain ⟨hlow, hhigh⟩ := abs_le.mp hrange
    have hle := (le_greatestHumidity_iff (by omega)).mpr hfits
    exact ⟨by omega, by omega⟩
  · rintro ⟨hlow, hhigh⟩
    have hle : (v / 16384).natAbs ≤ greatestHumidity cd tFine := by omega
    have hmost : (v / 16384).natAbs ≤ 46340 := hle.trans hlimit
    exact ⟨abs_le.mpr ⟨by omega, by omega⟩, (le_greatestHumidity_iff hmost).mp hle⟩

end

/-! ### The three conversions -/

/-- **The conversions of a reading are sound** exactly if the calibration can be corrected for
the temperature, and the pressure and the humidity read within the limits that it then has. -/
theorem sound_iff (buf : Buffer Byte cdmSize) {rawTemperature rawPressure rawHumidity : Nat}
    (ht : rawTemperature < 2 ^ 20) (hp : rawPressure < 2 ^ 20) (hh : rawHumidity < 2 ^ 16) :
    Sound (readCalibData buf) (convertTemperature (readCalibData buf) rawTemperature).2
        rawPressure rawHumidity ↔
      Compensable (readCalibData buf) (convertTemperature (readCalibData buf) rawTemperature).2 ∧
        PressureRange (readCalibData buf)
          (convertTemperature (readCalibData buf) rawTemperature).2 rawPressure ∧
        HumidityRange (readCalibData buf)
          (convertTemperature (readCalibData buf) rawTemperature).2 rawHumidity := by
  have hfine := (tFine_bounds (readCalibData buf) ht).1
  rw [sound_iff_fits buf ht hp hh, pressureFits_iff_ranges hfine hp, humidityFits_iff_range,
    and_assoc]

/-- 25.2 degrees, 969 hPa. -/
theorem sound_room :
    Sound (readCalibData someRegisters)
      (convertTemperature (readCalibData someRegisters) 496000).2 380000 20000 :=
  (sound_iff someRegisters (by decide) (by decide) (by decide)).mpr
    ⟨by decide +kernel, by decide +kernel, by decide +kernel⟩

/-- At 5 degrees below zero the wrapped temperature makes a square overflow.  If all
registers read zero, the pressure is divided by zero. -/
theorem not_sound :
    (¬ ∀ (buf : Buffer Byte cdmSize) (rawTemperature rawPressure rawHumidity : Nat),
      rawTemperature < 2 ^ 20 → rawPressure < 2 ^ 20 → rawHumidity < 2 ^ 16 →
        Sound (readCalibData buf) (convertTemperature (readCalibData buf) rawTemperature).2
          rawPressure rawHumidity) ∧
    convertPressure (readCalibData someRegisters)
        (convertTemperature (readCalibData someRegisters) 400000).2 380000 = .error .overflow ∧
    convertPressure (readCalibData (.fill cdmSize 0))
        (convertTemperature (readCalibData (.fill cdmSize 0)) 400000).2 380000 =
      .error .divideByZero := by
  have hfrost : convertPressure (readCalibData someRegisters)
      (convertTemperature (readCalibData someRegisters) 400000).2 380000 = .error .overflow := rfl
  refine ⟨?_, hfrost, rfl⟩
  intro h
  obtain ⟨p, hp⟩ :=
    (h someRegisters 400000 380000 0 (by decide) (by decide) (by decide)).pressure
  rw [hfrost] at hp
  cases hp

end Datk.Sensor
