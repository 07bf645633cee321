import Datk.Lib.Field
import Datk.Sensor.Bme680
import Datk.Sensor.Calibration

/-!
# Where the sensor keeps its values

The calibration parameters are at fixed places of three blocks of registers, two of 12 bits
share a byte, and two others are fields of a byte.  The results of a measurement are packed
into one block, most significant byte first.

`writeCalibData` and `pack` are what the chip does: they put values at their places and
leave all other bits alone.  So `bme680_init_sensor` and `bme680_get_raw_data` read every
value that the chip can have, and nothing that depends on other bits.
-/

namespace Datk.Sensor

open Lib

/-! ### Bytes of a word -/

def lo (v : BitVec 16) : Byte := v.setWidth 8

def hi (v : BitVec 16) : Byte := (v >>> 8).setWidth 8

theorem hi_lo (v : BitVec 16) : (hi v).setWidth 16 <<< 8 ||| (lo v).setWidth 16 = v := by
  apply BitVec.eq_of_getLsbD_eq
  intro i hlt
  simp only [hi, lo, BitVec.getLsbD_or, BitVec.getLsbD_shiftLeft, BitVec.getLsbD_setWidth,
    BitVec.getLsbD_ushiftRight]
  by_cases hi8 : i < 8
  · simp [hlt, hi8]
  · simp [hlt, hi8, show 8 + (i - 8) = i by omega, show i - 8 < 16 by omega,
      show i - 8 < 8 by omega]

theorem lo_join (a b : Byte) : lo (a.setWidth 16 <<< 8 ||| b.setWidth 16) = b := by
  apply BitVec.eq_of_getLsbD_eq
  intro i hlt
  simp [lo, hlt]

theorem hi_join (a b : Byte) : hi (a.setWidth 16 <<< 8 ||| b.setWidth 16) = a := by
  apply BitVec.eq_of_getLsbD_eq
  intro i hlt
  simp [hi, hlt, show 8 + i < 16 by omega]

/-- The upper eight and the lower four of 12 bits. -/
def upper (v : BitVec 16) : Byte := (v >>> 4).setWidth 8

def nibble (v : BitVec 16) : Byte := v.setWidth 8 &&& 0x0f

theorem toNat_and_nibble (b : Byte) : (b &&& 0x0f).toNat = b.toNat % 16 := by
  rw [BitVec.toNat_and]
  exact Nat.and_two_pow_sub_one_eq_mod b.toNat 4

/-- Twelve bits, the lower four of which are `n`. -/
theorem toNat_join4 (u n : Byte) :
    (u.setWidth 16 <<< 4 ||| (n &&& 0x0f).setWidth 16 : BitVec 16).toNat =
      u.toNat * 16 + n.toNat % 16 := by
  have hu := u.isLt
  have hn := toNat_and_nibble n
  rw [BitVec.toNat_or, BitVec.toNat_shiftLeft, BitVec.toNat_setWidth, BitVec.toNat_setWidth, hn,
    Nat.mod_eq_of_lt (show n.toNat % 16 < 2 ^ 16 by omega),
    Nat.mod_eq_of_lt (show u.toNat < 2 ^ 16 by omega),
    Nat.mod_eq_of_lt (show u.toNat <<< 4 < 2 ^ 16 by rw [Nat.shiftLeft_eq]; omega),
    ← Nat.shiftLeft_add_eq_or_of_lt (show n.toNat % 16 < 2 ^ 4 by omega), Nat.shiftLeft_eq]

theorem join4_upper_nibble {v : BitVec 16} (h : v.toNat < 2 ^ 12) :
    (upper v).setWidth 16 <<< 4 ||| (nibble v).setWidth 16 = v := by
  apply BitVec.eq_of_toNat_eq
  rw [nibble, toNat_join4, upper, BitVec.toNat_setWidth, BitVec.toNat_setWidth,
    BitVec.toNat_ushiftRight, Nat.shiftRight_eq_div_pow]
  omega

/-! ### The calibration data -/

attribute [ext] CalibData

/-- The parameters of the gas sensor in `bme680_calib_data_t`. -/
@[ext]
structure GasCalibData where
  parGh1 : BitVec 8
  parGh2 : BitVec 16
  parGh3 : BitVec 8
  resHeatRange : Byte
  resHeatVal : BitVec 8
  rangeSwErr : Byte
  deriving DecidableEq, Repr

/-- `BME680_RHR` and `BME680_RSWE`. -/
def rhr : Field 8 := ⟨0x30, 4⟩
def rswe : Field 8 := ⟨0xf0, 4⟩

/-- The byte that `par_h1` and `par_h2` share. -/
def h1Low : Field 8 := ⟨0x0f, 0⟩
def h2Low : Field 8 := ⟨0xf0, 4⟩

/-- The parameters, at their offsets `BME680_CDM_GH2` to `BME680_CDM_RSWE`. -/
def readGasCalibData (buf : Buffer Byte cdmSize) : GasCalibData where
  parGh1 := lsb buf 37
  parGh2 := lsbMsb buf 35
  parGh3 := lsb buf 38
  resHeatRange := rhr.get (lsb buf 43)
  resHeatVal := lsb buf 41
  rangeSwErr := rswe.get (lsb buf 45)

/-- The byte at an offset, if it was `rest`. -/
def calibByte (c : CalibData) (g : GasCalibData) (rest : Byte) : Nat → Byte
  | 1 => lo c.parT2
  | 2 => hi c.parT2
  | 3 => c.parT3
  | 5 => lo c.parP1
  | 6 => hi c.parP1
  | 7 => lo c.parP2
  | 8 => hi c.parP2
  | 9 => c.parP3
  | 11 => lo c.parP4
  | 12 => hi c.parP4
  | 13 => lo c.parP5
  | 14 => hi c.parP5
  | 15 => c.parP7
  | 16 => c.parP6
  | 19 => lo c.parP8
  | 20 => hi c.parP8
  | 21 => lo c.parP9
  | 22 => hi c.parP9
  | 23 => c.parP10
  | 25 => upper c.parH2
  | 26 => h2Low.set (h1Low.set 0 (nibble c.parH1)) (nibble c.parH2)
  | 27 => upper c.parH1
  | 28 => c.parH3
  | 29 => c.parH4
  | 30 => c.parH5
  | 31 => c.parH6
  | 32 => c.parH7
  | 33 => lo c.parT1
  | 34 => hi c.parT1
  | 35 => lo g.parGh2
  | 36 => hi g.parGh2
  | 37 => g.parGh1
  | 38 => g.parGh3
  | 41 => g.resHeatVal
  | 43 => rhr.set rest g.resHeatRange
  | 45 => rswe.set rest g.rangeSwErr
  | _ => rest

def writeCalibData (c : CalibData) (g : GasCalibData) (buf : Buffer Byte cdmSize) :
    Buffer Byte cdmSize where
  cells := (List.range cdmSize).map fun o => calibByte c g (lsb buf o) o
  size := by rw [List.length_map, List.length_range]

theorem lsb_writeCalibData (c : CalibData) (g : GasCalibData) (buf : Buffer Byte cdmSize) {o : Nat}
    (ho : o < cdmSize) : lsb (writeCalibData c g buf) o = calibByte c g (lsb buf o) o := by
  rw [lsb, writeCalibData, List.getD_eq_getElem?_getD, List.getElem?_map,
    List.getElem?_range ho]
  rfl

/-- The values that fit into their places. -/
structure Storable (c : CalibData) (g : GasCalibData) : Prop where
  parH1 : c.parH1.toNat < 2 ^ 12
  parH2 : c.parH2.toNat < 2 ^ 12
  resHeatRange : rhr.Holds g.resHeatRange
  rangeSwErr : rswe.Holds g.rangeSwErr

theorem holds_nibble (v : BitVec 16) : h1Low.Holds (nibble v) ∧ h2Low.Holds (nibble v) := by
  have hall : ∀ b : Byte, h1Low.Holds (b &&& 0x0f) ∧ h2Low.Holds (b &&& 0x0f) := by
    decide +kernel
  exact hall _

/-- The shared byte has both nibbles. -/
theorem nibbles (u v : BitVec 16) :
    h2Low.set (h1Low.set 0 (nibble u)) (nibble v) &&& 0x0f = nibble u ∧
      h2Low.set (h1Low.set 0 (nibble u)) (nibble v) >>> 4 = nibble v := by
  have hget : ∀ b : Byte, b &&& 0x0f = h1Low.get b ∧ b >>> 4 = h2Low.get b := by decide +kernel
  rw [(hget _).1, (hget _).2, Field.get_set (holds_nibble v).2,
    Field.get_set_of_disjoint (by decide), Field.get_set (holds_nibble u).1]
  exact ⟨rfl, rfl⟩

/-- **What is stored is read**: every parameter that fits into its place, wherever the other
bits come from. -/
theorem readCalibData_write {c : CalibData} {g : GasCalibData} (h : Storable c g)
    (buf : Buffer Byte cdmSize) :
    readCalibData (writeCalibData c g buf) = c ∧
      readGasCalibData (writeCalibData c g buf) = g := by
  have hbyte : ∀ o, o < cdmSize →
      lsb (writeCalibData c g buf) o = calibByte c g (lsb buf o) o := fun o ho =>
    lsb_writeCalibData c g buf ho
  have hword : ∀ (o : Nat) (v : BitVec 16), o + 1 < cdmSize →
      calibByte c g (lsb buf o) o = lo v → calibByte c g (lsb buf (o + 1)) (o + 1) = hi v →
      lsbMsb (writeCalibData c g buf) o = v := by
    intro o v ho hlo hhi
    rw [lsbMsb, hbyte _ ho, hbyte _ (Nat.lt_of_succ_lt ho), hlo, hhi, hi_lo]
  constructor
  · refine CalibData.ext (hword 33 _ (by decide) rfl rfl) (hword 1 _ (by decide) rfl rfl)
      (hbyte 3 (by decide)) (hword 5 _ (by decide) rfl rfl) (hword 7 _ (by decide) rfl rfl)
      (hbyte 9 (by decide)) (hword 11 _ (by decide) rfl rfl) (hword 13 _ (by decide) rfl rfl)
      (hbyte 16 (by decide)) (hbyte 15 (by decide)) (hword 19 _ (by decide) rfl rfl)
      (hword 21 _ (by decide) rfl rfl) (hbyte 23 (by decide)) ?_ ?_ (hbyte 28 (by decide))
      (hbyte 29 (by decide)) (hbyte 30 (by decide)) (hbyte 31 (by decide)) (hbyte 32 (by decide))
    · rw [readCalibData, hbyte 27 (by decide), hbyte 26 (by decide)]
      change (upper c.parH1).setWidth 16 <<< 4 |||
        (h2Low.set (h1Low.set 0 (nibble c.parH1)) (nibble c.parH2) &&& 0x0f).setWidth 16 = _
      rw [(nibbles _ _).1, join4_upper_nibble h.parH1]
    · rw [readCalibData, hbyte 25 (by decide), hbyte 26 (by decide)]
      change (upper c.parH2).setWidth 16 <<< 4 |||
        (h2Low.set (h1Low.set 0 (nibble c.parH1)) (nibble c.parH2) >>> 4).setWidth 16 = _
      rw [(nibbles _ _).2, join4_upper_nibble h.parH2]
  · refine GasCalibData.ext (hbyte 37 (by decide)) (hword 35 _ (by decide) rfl rfl)
      (hbyte 38 (by decide)) ?_ (hbyte 41 (by decide)) ?_
    · rw [readGasCalibData, hbyte 43 (by decide)]
      exact Field.get_set h.resHeatRange
    · rw [readGasCalibData, hbyte 45 (by decide)]
      exact Field.get_set h.rangeSwErr

/-- **The parameters that are read** are those that fit into their places. -/
theorem exists_readCalibData_iff (c : CalibData) (g : GasCalibData) :
    (∃ buf, readCalibData buf = c ∧ readGasCalibData buf = g) ↔ Storable c g := by
  constructor
  · rintro ⟨buf, rfl, rfl⟩
    have hfields : ∀ b : Byte, rhr.Holds (rhr.get b) ∧ rswe.Holds (rswe.get b) := by
      decide +kernel
    obtain ⟨hH1, hH2⟩ := readCalibData_lt buf
    exact ⟨hH1, hH2, (hfields _).1, (hfields _).2⟩
  · intro h
    exact ⟨_, readCalibData_write h (.fill cdmSize 0)⟩

/-! ### The bits that count -/

/-- The bits of a byte that parameters are read from. -/
def calibBits : Nat → Byte
  | 43 => 0x30
  | 45 => 0xf0
  | 1 | 2 | 3 | 5 | 6 | 7 | 8 | 9 | 11 | 12 | 13 | 14 | 15 | 16 | 19 | 20 | 21 | 22 | 23
  | 25 | 26 | 27 | 28 | 29 | 30 | 31 | 32 | 33 | 34 | 35 | 36 | 37 | 38 | 41 => 0xff
  | _ => 0

theorem upper_join4 (u n : Byte) :
    upper (u.setWidth 16 <<< 4 ||| (n &&& 0x0f).setWidth 16) = u := by
  apply BitVec.eq_of_toNat_eq
  have hu := u.isLt
  rw [upper, BitVec.toNat_setWidth, BitVec.toNat_ushiftRight, toNat_join4,
    Nat.shiftRight_eq_div_pow]
  omega

theorem nibble_join4 (u n : Byte) :
    nibble (u.setWidth 16 <<< 4 ||| (n &&& 0x0f).setWidth 16) = n &&& 0x0f := by
  apply BitVec.eq_of_toNat_eq
  rw [nibble, toNat_and_nibble, toNat_and_nibble, BitVec.toNat_setWidth, toNat_join4]
  omega

theorem shiftRight_nibble (b : Byte) : b >>> 4 = b >>> 4 &&& 0x0f := by
  revert b
  decide +kernel

/-- What is read is what is stored. -/
theorem calibByte_read (buf : Buffer Byte cdmSize) (o : Nat) :
    calibByte (readCalibData buf) (readGasCalibData buf) (lsb buf o) o = lsb buf o := by
  have hnibbles : ∀ b : Byte, h2Low.set (h1Low.set 0 (b &&& 0x0f)) (b >>> 4 &&& 0x0f) = b := by
    decide +kernel
  have hfields : ∀ b : Byte, rhr.set b (rhr.get b) = b ∧ rswe.set b (rswe.get b) = b := by
    decide +kernel
  have hH2 : (readCalibData buf).parH2 = (lsb buf 25).setWidth 16 <<< 4 |||
      (lsb buf 26 >>> 4 &&& 0x0f).setWidth 16 := by
    rw [readCalibData, ← shiftRight_nibble]
  unfold calibByte
  split
  case h_20 =>
    rw [hH2]
    exact upper_join4 _ _
  case h_21 =>
    rw [hH2, nibble_join4]
    exact (congrArg (h2Low.set · _) (congrArg (h1Low.set 0 ·) (nibble_join4 _ _))).trans
      (hnibbles _)
  case h_22 => exact upper_join4 _ _
  case h_35 => exact (hfields _).1
  case h_36 => exact (hfields _).2
  all_goals first | rfl | exact lo_join _ _ | exact hi_join _ _

/-- Other bits play no part in those that count. -/
theorem calibByte_and (c : CalibData) (g : GasCalibData) (r r' : Byte) (o : Nat) :
    calibByte c g r o &&& calibBits o = calibByte c g r' o &&& calibBits o := by
  have hfield : ∀ (f : Field 8) (v : Byte), f.set r v &&& f.bits = f.set r' v &&& f.bits := by
    intro f v
    have hclear : ∀ x : Byte, x &&& ~~~f.bits &&& f.bits = 0#8 := by
      intro x
      rw [BitVec.and_assoc, BitVec.not_and_self]
      exact BitVec.and_zero
    rw [Field.set, Field.set, BitVec.and_or_distrib_right, BitVec.and_or_distrib_right, hclear,
      hclear]
  unfold calibByte
  split
  case h_35 => exact hfield rhr _
  case h_36 => exact hfield rswe _
  case h_37 =>
    have hunused : calibBits o = 0#8 := by
      unfold calibBits
      split <;> first | rfl | contradiction
    rw [hunused, BitVec.and_zero, BitVec.and_zero]
  all_goals rfl

/-- **Two sensors have the same parameters** exactly if they agree in the bits that count. -/
theorem readCalibData_eq_iff (buf buf' : Buffer Byte cdmSize) :
    (readCalibData buf = readCalibData buf' ∧ readGasCalibData buf = readGasCalibData buf') ↔
      ∀ o, lsb buf o &&& calibBits o = lsb buf' o &&& calibBits o := by
  constructor
  · rintro ⟨hc, hg⟩ o
    rw [← calibByte_read buf o, ← calibByte_read buf' o, hc, hg]
    exact calibByte_and _ _ _ _ o
  · intro h
    have hfull : ∀ o, calibBits o = 0xff → lsb buf o = lsb buf' o := by
      intro o ho
      have hand := h o
      rwa [ho, show (0xff : Byte) = BitVec.allOnes 8 from rfl, BitVec.and_allOnes,
        BitVec.and_allOnes] at hand
    have hword : ∀ o, calibBits o = 0xff → calibBits (o + 1) = 0xff →
        lsbMsb buf o = lsbMsb buf' o := by
      intro o hlo hhi
      rw [lsbMsb, lsbMsb, hfull o hlo, hfull (o + 1) hhi]
    have hfield : ∀ (f : Field 8) (o : Nat), calibBits o = f.bits →
        f.get (lsb buf o) = f.get (lsb buf' o) := by
      intro f o ho
      rw [Field.get, Field.get, ← ho, h o]
    constructor
    · refine CalibData.ext (hword 33 rfl rfl) (hword 1 rfl rfl) (hfull 3 rfl) (hword 5 rfl rfl)
        (hword 7 rfl rfl) (hfull 9 rfl) (hword 11 rfl rfl) (hword 13 rfl rfl) (hfull 16 rfl)
        (hfull 15 rfl) (hword 19 rfl rfl) (hword 21 rfl rfl) (hfull 23 rfl) ?_ ?_ (hfull 28 rfl)
        (hfull 29 rfl) (hfull 30 rfl) (hfull 31 rfl) (hfull 32 rfl)
      · rw [readCalibData, readCalibData, hfull 27 rfl, hfull 26 rfl]
      · rw [readCalibData, readCalibData, hfull 25 rfl, hfull 26 rfl]
    · exact GasCalibData.ext (hfull 37 rfl) (hword 35 rfl rfl) (hfull 38 rfl) (hfield rhr 43 rfl)
        (hfull 41 rfl) (hfield rswe 45 rfl)

/-! ### The results of a measurement -/

attribute [ext] RawData

/-- The values that fit into the registers. -/
structure RawData.Storable (raw : RawData) : Prop where
  temperature : raw.temperature < 2 ^ 20
  pressure : raw.pressure < 2 ^ 20
  humidity : raw.humidity < 2 ^ 16
  gasResistance : raw.gasResistance < 2 ^ 10
  gasRange : raw.gasRange < 16
  gasIndex : raw.gasIndex < 16

/-- The register `BME680_REG_GAS_R_LSB_0`. -/
def gasByte (gasResistance : Nat) (gasValid heaterStable : Bool) (gasRange : Nat) : Byte :=
  .ofNat 8 (gasResistance % 4 * 64 + gasValid.toNat * 32 + heaterStable.toNat * 16 + gasRange)

/-- The registers from `BME680_REG_RAW_DATA_0` on. -/
def pack (raw : RawData) : Buffer Byte 15 where
  cells :=
    [0, 0, .ofNat 8 (raw.pressure / 4096), .ofNat 8 (raw.pressure / 16),
      .ofNat 8 (raw.pressure % 16 * 16), .ofNat 8 (raw.temperature / 4096),
      .ofNat 8 (raw.temperature / 16), .ofNat 8 (raw.temperature % 16 * 16),
      .ofNat 8 (raw.humidity / 256), .ofNat 8 raw.humidity, 0, 0, 0,
      .ofNat 8 (raw.gasResistance / 4),
      gasByte raw.gasResistance raw.gasValid raw.heaterStable raw.gasRange]
  size := rfl

theorem gasByte_fields (k : Nat) (gasValid heaterStable : Bool) {gasRange : Nat}
    (h : gasRange < 16) :
    decide (gasByte k gasValid heaterStable gasRange &&& 0x20 ≠ 0) = gasValid ∧
      decide (gasByte k gasValid heaterStable gasRange &&& 0x10 ≠ 0) = heaterStable ∧
      (gasByte k gasValid heaterStable gasRange).toNat >>> 6 = k % 4 ∧
      (gasByte k gasValid heaterStable gasRange &&& 0x0f).toNat = gasRange := by
  have hall : ∀ k < 4, ∀ gasValid heaterStable : Bool, ∀ gasRange < 16,
      decide (gasByte k gasValid heaterStable gasRange &&& 0x20 ≠ 0) = gasValid ∧
        decide (gasByte k gasValid heaterStable gasRange &&& 0x10 ≠ 0) = heaterStable ∧
        (gasByte k gasValid heaterStable gasRange).toNat >>> 6 = k ∧
        (gasByte k gasValid heaterStable gasRange &&& 0x0f).toNat = gasRange := by
    decide +kernel
  have hmod : gasByte k gasValid heaterStable gasRange =
      gasByte (k % 4) gasValid heaterStable gasRange := by
    rw [gasByte, gasByte, Nat.mod_mod]
  rw [hmod]
  exact hall (k % 4) (Nat.mod_lt k (by decide)) gasValid heaterStable gasRange h

/-- A value of 20 bits. -/
theorem join20 {v : Nat} (h : v < 2 ^ 20) :
    (BitVec.ofNat 8 (v / 4096)).toNat <<< 12 ||| (BitVec.ofNat 8 (v / 16)).toNat <<< 4 |||
      (BitVec.ofNat 8 (v % 16 * 16)).toNat >>> 4 = v := by
  rw [BitVec.toNat_ofNat, BitVec.toNat_ofNat, BitVec.toNat_ofNat, Nat.or_assoc,
    Nat.shiftRight_eq_div_pow,
    ← Nat.shiftLeft_add_eq_or_of_lt (show v % 16 * 16 % 2 ^ 8 / 2 ^ 4 < 2 ^ 4 by omega),
    ← Nat.shiftLeft_add_eq_or_of_lt (by rw [Nat.shiftLeft_eq]; omega), Nat.shiftLeft_eq,
    Nat.shiftLeft_eq]
  omega

theorem unpack_pack {raw : RawData} (h : raw.Storable) :
    unpack (pack raw) (.ofNat 8 raw.gasIndex) = raw := by
  obtain ⟨hvalid, hstable, hlow, hrange⟩ :=
    gasByte_fields raw.gasResistance raw.gasValid raw.heaterStable h.gasRange
  have hhumidity := h.humidity
  have hgas := h.gasResistance
  refine RawData.ext hvalid hstable (join20 h.temperature) (join20 h.pressure) ?_ ?_ hrange ?_
  · change (BitVec.ofNat 8 (raw.humidity / 256)).toNat <<< 8 |||
      (BitVec.ofNat 8 raw.humidity).toNat = raw.humidity
    rw [BitVec.toNat_ofNat, BitVec.toNat_ofNat,
      ← Nat.shiftLeft_add_eq_or_of_lt (Nat.mod_lt _ (by decide)), Nat.shiftLeft_eq]
    omega
  · change (BitVec.ofNat 8 (raw.gasResistance / 4)).toNat <<< 2 |||
      (gasByte raw.gasResistance raw.gasValid raw.heaterStable raw.gasRange).toNat >>> 6 =
        raw.gasResistance
    rw [hlow, BitVec.toNat_ofNat,
      ← Nat.shiftLeft_add_eq_or_of_lt (show raw.gasResistance % 4 < 2 ^ 2 by omega),
      Nat.shiftLeft_eq]
    omega
  · change (BitVec.ofNat 8 raw.gasIndex &&& 0x0f).toNat = raw.gasIndex
    have hindex := h.gasIndex
    rw [toNat_and_nibble, BitVec.toNat_ofNat]
    omega

theorem msbLsbXlsb_lt (raw : Buffer Byte 15) (o : Nat) : msbLsbXlsb raw o < 2 ^ 20 := by
  have hbyte : ∀ b : Byte, b.toNat < 2 ^ 8 := fun b => b.isLt
  refine Nat.or_lt_two_pow (Nat.or_lt_two_pow ?_ ?_) ?_
  · have hb := hbyte (raw.cells.getD o 0)
    rw [Nat.shiftLeft_eq]
    omega
  · have hb := hbyte (raw.cells.getD (o + 1) 0)
    rw [Nat.shiftLeft_eq]
    omega
  · have hb := hbyte (raw.cells.getD (o + 2) 0)
    rw [Nat.shiftRight_eq_div_pow]
    omega

/-- **The results that are read** are those that fit into the registers. -/
theorem exists_unpack_iff (raw : RawData) :
    (∃ buf status, unpack buf status = raw) ↔ raw.Storable := by
  constructor
  · rintro ⟨buf, status, rfl⟩
    have hbyte : ∀ b : Byte, b.toNat < 2 ^ 8 := fun b => b.isLt
    have hnibble : ∀ b : Byte, (b &&& 0x0f).toNat < 16 := by
      intro b
      rw [toNat_and_nibble]
      exact Nat.mod_lt _ (by decide)
    refine ⟨msbLsbXlsb_lt buf 5, msbLsbXlsb_lt buf 2, Nat.or_lt_two_pow ?_ ?_,
      Nat.or_lt_two_pow ?_ ?_, hnibble _, hnibble _⟩
    · have hb := hbyte (buf.cells.getD 8 0)
      rw [Nat.shiftLeft_eq]
      omega
    · exact Nat.lt_trans (hbyte _) (by decide)
    · have hb := hbyte (buf.cells.getD 13 0)
      rw [Nat.shiftLeft_eq]
      omega
    · have hb := hbyte (buf.cells.getD 14 0)
      rw [Nat.shiftRight_eq_div_pow]
      omega
  · intro h
    exact ⟨_, _, unpack_pack h⟩

end Datk.Sensor
