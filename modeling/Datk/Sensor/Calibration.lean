import Datk.Basic
import Datk.Lib.Buffer

/-!
# The calibration data of the sensor

`bme680_init_sensor` reads the registers with the calibration data into one buffer, and
takes the parameters of the compensation formulas from it.
-/

namespace Datk.Sensor

open Lib

/-- `bme680_calib_data_t`, without the parameters of the gas sensor, and without the
`t_fine` that the conversions leave in it. -/
structure CalibData where
  parT1 : BitVec 16
  parT2 : BitVec 16
  parT3 : BitVec 8
  parP1 : BitVec 16
  parP2 : BitVec 16
  parP3 : BitVec 8
  parP4 : BitVec 16
  parP5 : BitVec 16
  parP6 : BitVec 8
  parP7 : BitVec 8
  parP8 : BitVec 16
  parP9 : BitVec 16
  parP10 : BitVec 8
  parH1 : BitVec 16
  parH2 : BitVec 16
  parH3 : BitVec 8
  parH4 : BitVec 8
  parH5 : BitVec 8
  parH6 : BitVec 8
  parH7 : BitVec 8
  deriving DecidableEq, Repr

/-- `BME680_CDM_SIZE`. -/
abbrev cdmSize : Nat := 25 + 16 + 8

section

variable (buf : Buffer Byte cdmSize)

def lsb (o : Nat) : Byte := buf.cells.getD o 0

def lsbMsb (o : Nat) : BitVec 16 := (lsb buf (o + 1)).setWidth 16 <<< 8 ||| (lsb buf o).setWidth 16

/-- The parameters, at their offsets `BME680_CDM_T2` to `BME680_CDM_T1`. -/
def readCalibData : CalibData where
  parT1 := lsbMsb buf 33
  parT2 := lsbMsb buf 1
  parT3 := lsb buf 3
  parP1 := lsbMsb buf 5
  parP2 := lsbMsb buf 7
  parP3 := lsb buf 9
  parP4 := lsbMsb buf 11
  parP5 := lsbMsb buf 13
  parP6 := lsb buf 16
  parP7 := lsb buf 15
  parP8 := lsbMsb buf 19
  parP9 := lsbMsb buf 21
  parP10 := lsb buf 23
  parH1 := (lsb buf 27).setWidth 16 <<< 4 ||| (lsb buf 26 &&& 0x0f).setWidth 16
  parH2 := (lsb buf 25).setWidth 16 <<< 4 ||| (lsb buf 26 >>> 4).setWidth 16
  parH3 := lsb buf 28
  parH4 := lsb buf 29
  parH5 := lsb buf 30
  parH6 := lsb buf 31
  parH7 := lsb buf 32

end

/-- The parameters of 12 bits. -/
theorem readCalibData_lt (buf : Buffer Byte cdmSize) :
    (readCalibData buf).parH1.toNat < 2 ^ 12 ∧ (readCalibData buf).parH2.toNat < 2 ^ 12 := by
  have htwelve : ∀ hi lo : Byte,
      (hi.setWidth 16 <<< 4 ||| lo.setWidth 16 : BitVec 16).toNat < 2 ^ 12 := by
    intro hi lo
    have hhi := hi.isLt
    have hlo := lo.isLt
    rw [BitVec.toNat_or]
    refine Nat.or_lt_two_pow ?_ ?_
    · rw [BitVec.toNat_shiftLeft, BitVec.toNat_setWidth, Nat.shiftLeft_eq]
      omega
    · rw [BitVec.toNat_setWidth]
      omega
  exact ⟨htwelve _ _, htwelve _ _⟩

/-- The registers of a sensor, in the order of the three transfers. -/
def someRegisters : Buffer Byte cdmSize where
  cells :=
    [0x00, 0x20, 0x67, 0x03, 0x00, 0xa0, 0x8c, 0xfc, 0xd6, 0x58, 0x00, 0x58, 0x1b,
      0x9c, 0xff, 0x28, 0x1e, 0x00, 0x00, 0x18, 0xfc, 0x3c, 0xf6, 0x1e, 0x00,
      0x3e, 0x80, 0x32, 0x00, 0x2d, 0x14, 0x78, 0x9c, 0x90, 0x65, 0x00, 0x00, 0x00, 0x00,
      0x00, 0x00, 0x00, 0x00, 0x00, 0x00, 0x00, 0x00, 0x00, 0x00]
  size := rfl

def someCalibData : CalibData := readCalibData someRegisters

end Datk.Sensor
