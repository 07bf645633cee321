import Datk.Sensor.Pressure
import Datk.Sensor.Temperature

/-!
# The humidity

`bme680_convert_humidity` also computes in `int32_t`, and caps its result.
`HumidityFits` is what has to be checked of it: three products.

`sound_iff_fits` puts the three conversions together: `bme680_convert_temperature` leaves the
`t_fine` that the other two start from.
-/

namespace Datk.Sensor

open Lib Lib.CInt

/-! ### The code -/

/-- `var1`. -/
def humidityOffset (h1 h3 tempScaled : Int) (rawHumidity : Nat) : Except Fault Int := do
  let shifted ← int32 (shl h1 4)
  let difference ← int32 (rawHumidity - shifted)
  let product ← int32 (tempScaled * h3)
  let quotient ← div product 100
  int32 (difference - shr quotient 1)

/-- `var2`. -/
def humiditySlope (h2 h4 h5 tempScaled : Int) : Except Fault Int := do
  let product ← int32 (tempScaled * h4)
  let quotient4 ← div product 100
  let product ← int32 (tempScaled * h5)
  let quotient5 ← div product 100
  let product ← int32 (tempScaled * quotient5)
  let quotient5 ← div (shr product 6) 100
  let sum ← int32 (quotient4 + quotient5)
  let sum ← int32 (sum + shl 1 14)
  let var2 ← int32 (h2 * sum)
  pure (shr var2 10)

/-- `var4`. -/
def humidityFactor (h6 h7 tempScaled : Int) : Except Fault Int := do
  let shifted ← int32 (shl h6 7)
  let product ← int32 (tempScaled * h7)
  let quotient ← div product 100
  let var4 ← int32 (shifted + quotient)
  pure (shr var4 4)

/-- The cap at 0 and 100 percent. -/
def capHumidity (humidity : Int) : Int :=
  if 100000 < humidity then 100000 else if humidity < 0 then 0 else humidity

/-- `bme680_convert_humidity`. -/
def convertHumidity (cd : CalibData) (tFine : Int) (rawHumidity : Nat) : Except Fault Int := do
  let product ← int32 (tFine * 5)
  let tempScaled ← int32 (product + 128)
  let tempScaled := shr tempScaled 8
  let var1 ← humidityOffset cd.parH1.toNat cd.parH3.toInt tempScaled rawHumidity
  let var2 ← humiditySlope cd.parH2.toNat cd.parH4.toInt cd.parH5.toInt tempScaled
  let var3 ← int32 (var1 * var2)
  let var4 ← humidityFactor cd.parH6.toNat cd.parH7.toInt tempScaled
  let var5 ← int32 (shr var3 14 * shr var3 14)
  let var6 ← int32 (var4 * shr var5 10)
  let sum ← int32 (var3 + shr var6 1)
  let humidity ← int32 (shr sum 10 * 1000)
  pure (toUnsigned 32 (capHumidity (shr humidity 12)))

/-! ### The three variables -/

section

variable {h1 h2 h3 h4 h5 h6 h7 t z : Int} {rawHumidity : Nat}

/-- A parameter of eight bits, scaled by the temperature. -/
theorem scaled_bounds (ht : |t| ≤ 46080) {h : Int} (hh : |h| ≤ 2 ^ 7) :
    Fits (t * h) ∧ -58983 ≤ (t * h).tdiv 100 ∧ (t * h).tdiv 100 ≤ 58983 := by
  have hbounds := mul_bounds ht hh
  have habs : |t * h| ≤ 100 * 58983 := abs_le.mpr ⟨by omega, by omega⟩
  exact ⟨⟨by omega, by omega⟩, tdiv_bounds (by decide) habs⟩

def exactVar1 (h1 h3 t : Int) (rawHumidity : Nat) : Int :=
  rawHumidity - h1 * 16 - (t * h3).tdiv 100 / 2

def exactVar2 (h2 h4 h5 t : Int) : Int :=
  h2 * ((t * h4).tdiv 100 + (t * (t * h5).tdiv 100 / 64).tdiv 100 + 16384) / 1024

def exactVar4 (h6 h7 t : Int) : Int := (h6 * 128 + (t * h7).tdiv 100) / 16

theorem humidityOffset_eq (ht : |t| ≤ 46080) (hraw : rawHumidity < 2 ^ 16)
    (hh1 : 0 ≤ h1 ∧ h1 < 2 ^ 12) (hh3 : |h3| ≤ 2 ^ 7) :
    humidityOffset h1 h3 t rawHumidity = .ok (exactVar1 h1 h3 t rawHumidity) := by
  obtain ⟨hproduct, hlow, hhigh⟩ := scaled_bounds ht hh3
  simp only [humidityOffset, int32_bind, div_of_ne_zero _ (show (100 : Int) ≠ 0 by decide),
    int32_eq_ok, shr_eq, shl_eq, Int.reducePow]
  refine ⟨?_, ?_, hproduct, ?_, ?_, rfl⟩ <;> rw [Fits] <;> omega

theorem humiditySlope_eq_ok (ht : |t| ≤ 46080) (hh2 : 0 ≤ h2 ∧ h2 < 2 ^ 12)
    (hh4 : |h4| ≤ 2 ^ 7) (hh5 : |h5| ≤ 2 ^ 7) :
    humiditySlope h2 h4 h5 t = .ok z ↔
      Fits (t * (t * h5).tdiv 100) ∧ z = exactVar2 h2 h4 h5 t := by
  obtain ⟨hproduct4, hlow4, hhigh4⟩ := scaled_bounds ht hh4
  obtain ⟨hproduct5, hlow5, hhigh5⟩ := scaled_bounds ht hh5
  simp only [humiditySlope, int32_bind, div_of_ne_zero _ (show (100 : Int) ≠ 0 by decide),
    shr_eq, shl_eq, Int.reducePow, Int.one_mul, pure, Except.pure, Except.ok.injEq]
  constructor
  · rintro ⟨-, -, -, -, hfits, -, -, -, -, hz⟩
    exact ⟨hfits, hz.symm⟩
  · rintro ⟨hfits, hz⟩
    have hsquare := hfits
    rw [Fits] at hsquare
    have hquotient : |t * (t * h5).tdiv 100 / 64| ≤ 100 * 335545 := abs_le.mpr ⟨by omega, by omega⟩
    have hbounds := tdiv_bounds (by decide) hquotient
    have habs2 : |h2| ≤ 4095 := abs_le.mpr ⟨by omega, by omega⟩
    have hsum : |(t * h4).tdiv 100 + (t * (t * h5).tdiv 100 / 64).tdiv 100 + 16384| ≤ 410912 :=
      abs_le.mpr ⟨by omega, by omega⟩
    have hvar2 := mul_bounds habs2 hsum
    refine ⟨hproduct4, ?_, hproduct5, ?_, hfits, ?_, ?_, ?_, ?_, hz.symm⟩ <;> rw [Fits] <;> omega

theorem humidityFactor_eq (ht : |t| ≤ 46080) (hh6 : 0 ≤ h6 ∧ h6 < 2 ^ 8)
    (hh7 : |h7| ≤ 2 ^ 7) :
    humidityFactor h6 h7 t = .ok (exactVar4 h6 h7 t) := by
  obtain ⟨hproduct, hlow, hhigh⟩ := scaled_bounds ht hh7
  simp only [humidityFactor, int32_bind, div_of_ne_zero _ (show (100 : Int) ≠ 0 by decide),
    shr_eq, shl_eq, Int.reducePow, pure, Except.pure, Except.ok.injEq]
  refine ⟨?_, hproduct, ?_, ?_, rfl⟩ <;> rw [Fits] <;> omega

end

/-! ### All of it -/

section

variable (cd : CalibData) (tFine : Int) (rawHumidity : Nat)

def tempScaled : Int := (tFine * 5 + 128) / 256

def exactVar3 : Int :=
  exactVar1 cd.parH1.toNat cd.parH3.toInt (tempScaled tFine) rawHumidity *
    exactVar2 cd.parH2.toNat cd.parH4.toInt cd.parH5.toInt (tempScaled tFine)

def exactVar6 : Int :=
  exactVar4 cd.parH6.toNat cd.parH7.toInt (tempScaled tFine) *
    (exactVar3 cd tFine rawHumidity / 16384 * (exactVar3 cd tFine rawHumidity / 16384) / 1024)

/-- The formula over the integers, and the cap. -/
def exactHumidity : Int :=
  capHumidity ((exactVar3 cd tFine rawHumidity + exactVar6 cd tFine rawHumidity / 2) / 1024 * 1000
    / 4096)

/-- What has to be checked of `bme680_convert_humidity`. -/
@[mk_iff]
structure HumidityFits : Prop where
  square : Fits (tempScaled tFine * (tempScaled tFine * cd.parH5.toInt).tdiv 100)
  var3 : |exactVar3 cd tFine rawHumidity / 16384| ≤ 46340
  var6 : Fits (exactVar6 cd tFine rawHumidity)

end

instance (cd : CalibData) (tFine : Int) (rawHumidity : Nat) :
    Decidable (HumidityFits cd tFine rawHumidity) :=
  decidable_of_iff' _ (humidityFits_iff cd tFine rawHumidity)

section

variable {cd : CalibData} {tFine : Int} {rawHumidity : Nat} {z : Int}

theorem capHumidity_bounds (humidity : Int) :
    0 ≤ capHumidity humidity ∧ capHumidity humidity ≤ 100000 := by
  rw [capHumidity]
  split
  · omega
  · split <;> omega

theorem toUnsigned_capHumidity (humidity : Int) :
    toUnsigned 32 (capHumidity humidity) = capHumidity humidity := by
  obtain ⟨hlow, hhigh⟩ := capHumidity_bounds humidity
  exact toUnsigned_of_lt hlow (by omega)

theorem fits_sum {a b : Int} (ha : |a / 16384| ≤ 46340) (hb : Fits b) :
    Fits a ∧ Fits (a + b / 2) ∧ Fits ((a + b / 2) / 1024 * 1000) := by
  obtain ⟨hlow, hhigh⟩ := abs_le.mp ha
  simp only [Fits] at hb ⊢
  omega

/-- **The humidity is computed without a fault** exactly if `HumidityFits`, and then it is
that of the formula. -/
theorem convertHumidity_eq_ok (hfine : 0 ≤ tFine ∧ tFine < 2 ^ 21 + 2 ^ 18)
    (hraw : rawHumidity < 2 ^ 16) (hh1 : cd.parH1.toNat < 2 ^ 12)
    (hh2 : cd.parH2.toNat < 2 ^ 12) :
    convertHumidity cd tFine rawHumidity = .ok z ↔
      HumidityFits cd tFine rawHumidity ∧ z = exactHumidity cd tFine rawHumidity := by
  have ht : |tempScaled tFine| ≤ 46080 := by
    rw [tempScaled]
    exact abs_le.mpr ⟨by omega, by omega⟩
  have hh6 := cd.parH6.isLt
  have hvar1 := humidityOffset_eq ht hraw
    ⟨Int.natCast_nonneg cd.parH1.toNat, by omega⟩ (abs_toInt_le 7 cd.parH3)
  have hvar4 := humidityFactor_eq ht ⟨Int.natCast_nonneg cd.parH6.toNat, by omega⟩
    (abs_toInt_le 7 cd.parH7)
  have hvar2 : ∀ z, humiditySlope cd.parH2.toNat cd.parH4.toInt cd.parH5.toInt
      (tempScaled tFine) = .ok z ↔ _ := fun z =>
    humiditySlope_eq_ok ht ⟨by omega, by omega⟩ (abs_toInt_le 7 cd.parH4)
      (abs_toInt_le 7 cd.parH5)
  have hfive : Fits (tFine * 5) := ⟨by omega, by omega⟩
  have hadd : Fits (tFine * 5 + 128) := ⟨by omega, by omega⟩
  have hscaled : (tFine * 5 + 128) / 256 = tempScaled tFine := rfl
  simp only [convertHumidity, int32_bind, shr_eq, Int.reducePow, hscaled, hfive, hadd, true_and,
    hvar1, ok_bind, bind_of_iff hvar2, hvar4, pure, Except.pure, Except.ok.injEq,
    fits_square_iff]
  constructor
  · rintro ⟨hsquare, -, hvar3, hvar6, -, -, rfl⟩
    exact ⟨⟨hsquare, hvar3, hvar6⟩, toUnsigned_capHumidity _⟩
  · rintro ⟨⟨hsquare, hvar3, hvar6⟩, rfl⟩
    obtain ⟨hproduct, hsum, hscale⟩ := fits_sum hvar3 hvar6
    exact ⟨hsquare, hproduct, hvar3, hvar6, hsum, hscale, toUnsigned_capHumidity _⟩

end

/-! ### The three conversions -/

/-- Neither the pressure nor the humidity conversion divides by zero or overflows, and the
humidity is between 0 and 100 percent. -/
structure Sound (cd : CalibData) (tFine : Int) (rawPressure rawHumidity : Nat) : Prop where
  pressure : ∃ p, convertPressure cd tFine rawPressure = .ok p
  humidity : ∃ h, convertHumidity cd tFine rawHumidity = .ok h ∧ 0 ≤ h ∧ h ≤ 100000

/-- The conversions of a reading are sound exactly if `PressureFits` and `HumidityFits`, for
the `t_fine` that the temperature leaves. -/
theorem sound_iff_fits (buf : Buffer Byte cdmSize) {rawTemperature rawPressure rawHumidity : Nat}
    (ht : rawTemperature < 2 ^ 20) (hp : rawPressure < 2 ^ 20) (hh : rawHumidity < 2 ^ 16) :
    Sound (readCalibData buf) (convertTemperature (readCalibData buf) rawTemperature).2
        rawPressure rawHumidity ↔
      PressureFits (readCalibData buf) (convertTemperature (readCalibData buf) rawTemperature).2
          rawPressure ∧
        HumidityFits (readCalibData buf) (convertTemperature (readCalibData buf) rawTemperature).2
          rawHumidity := by
  obtain ⟨hh1, hh2⟩ := readCalibData_lt buf
  have hfine := tFine_bounds (readCalibData buf) ht
  constructor
  · rintro ⟨⟨p, hpressure⟩, ⟨h, hhumidity, -⟩⟩
    exact ⟨((convertPressure_eq_ok hfine hp).mp hpressure).1,
      ((convertHumidity_eq_ok hfine hh hh1 hh2).mp hhumidity).1⟩
  · rintro ⟨hpressure, hhumidity⟩
    exact ⟨⟨_, (convertPressure_eq_ok hfine hp).mpr ⟨hpressure, rfl⟩⟩,
      ⟨_, (convertHumidity_eq_ok hfine hh hh1 hh2).mpr ⟨hhumidity, rfl⟩, capHumidity_bounds _⟩⟩

end Datk.Sensor
