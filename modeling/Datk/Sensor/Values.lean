import Datk.Basic
import Datk.Lib.Rounding

/-!
# The measured values

A `float` is the rational number it stands for; every operation on it rounds.
The values below are far from the ends of the range of a `float`, so rounding to
its 24 digits is all there is.
-/

namespace Datk.Sensor

open Lib

def single (q : ℚ) : ℚ := roundTo 24 q

def double (q : ℚ) : ℚ := roundTo 53 q

/-- `bme680_values_fixed_t`. -/
structure ValuesFixed where
  /-- An `int16_t`. -/
  temperature : Int
  /-- This and the other two are a `uint32_t`. -/
  pressure : Nat
  humidity : Nat
  gasResistance : Nat
  deriving DecidableEq, Repr

/-- `bme680_values_float_t`. -/
structure ValuesFloat where
  temperature : ℚ
  pressure : ℚ
  humidity : ℚ
  gasResistance : ℚ
  deriving DecidableEq, Repr

/-- The conversion at the end of `bme680_get_results_float`. -/
def ValuesFixed.toFloat (fixed : ValuesFixed) : ValuesFloat where
  temperature := single (single fixed.temperature / 100)
  pressure := single (single fixed.pressure / 100)
  humidity := single (single fixed.humidity / 1000)
  gasResistance := single fixed.gasResistance

/-- `ml851_uv_intensity`, of a voltage in mV. -/
def ml851UvIntensity (voltage : Nat) : ℚ :=
  single (double (double (double (single (single voltage / 1000) - double (99 / 100)) * 15) /
    double (181 / 100)))

end Datk.Sensor
