import Mathlib.Logic.Function.Basic
import Datk.Basic
import Datk.Lib.Field
import Datk.Lib.System

/-!
# The cached settings of the sensor

The driver keeps the settings of the chip in `dev->settings`.  A call that sets them
stores the new value there first and writes the register after that; if the value is the
old one, it returns `ESP_OK` without any transfer.  So if a transfer fails, the same call
once more succeeds, and the register is never written.

The gas measurement is switched on by `bme680_use_heater_profile` alone, if temperature and
duration of the profile are not zero at that time.  `bme680_set_heater_profile` does not
switch it on or off when it changes the profile in use.

The byte for a duration has six bits and a multiplier of at most 64.  A duration that is
longer than 4095 ms gets a larger multiplier, of which two bits are kept.

`faithful_of_steady` says that nothing else goes wrong.
-/

namespace Datk.Sensor.Config

open Lib

/-- `bme680_oversampling_rate_t`. -/
inductive OversamplingRate
  | osrNone
  | osr1x
  | osr2x
  | osr4x
  | osr8x
  | osr16x
  deriving DecidableEq, Repr

def OversamplingRate.value : OversamplingRate → Byte
  | .osrNone => 0
  | .osr1x => 1
  | .osr2x => 2
  | .osr4x => 3
  | .osr8x => 4
  | .osr16x => 5

/-- `bme680_filter_size_t`. -/
inductive FilterSize
  | iirSize0
  | iirSize1
  | iirSize3
  | iirSize7
  | iirSize15
  | iirSize31
  | iirSize63
  | iirSize127
  deriving DecidableEq, Repr

def FilterSize.value : FilterSize → Byte
  | .iirSize0 => 0
  | .iirSize1 => 1
  | .iirSize3 => 2
  | .iirSize7 => 3
  | .iirSize15 => 4
  | .iirSize31 => 5
  | .iirSize63 => 6
  | .iirSize127 => 7

/-- `bme680_settings_t`; `-1` is `BME680_HEATER_NOT_USED`. -/
structure Settings where
  osrTemperature : OversamplingRate
  osrPressure : OversamplingRate
  osrHumidity : OversamplingRate
  filterSize : FilterSize
  heaterProfile : Int
  heaterTemperature : Nat → BitVec 16
  heaterDuration : Nat → BitVec 16

/-- The registers of the chip, by their addresses. -/
abbrev Regs := Nat → Byte

structure Dev where
  settings : Settings
  regs : Regs

inductive EspErr
  | ok
  | invalidArg
  /-- What a failed transfer or mutex returned. -/
  | failed
  deriving DecidableEq, Repr

/-- What becomes of a write: one that returns an error may have been carried out. -/
inductive Write
  | ok
  | stored
  | lost
  deriving DecidableEq, Repr

/-- What becomes of the transfers of a call: the first register that it accesses, the
second one, and the mutex. -/
structure Bus where
  take : Bool
  read1 : Bool
  write1 : Write
  read2 : Bool
  write2 : Write
  give : Bool
  deriving DecidableEq, Repr

/-! ### The registers -/

def resHeatBase : Nat := 0x5a
def gasWaitBase : Nat := 0x64
def ctrlGas1 : Nat := 0x71
def ctrlHum : Nat := 0x72
def ctrlMeas : Nat := 0x74
def config : Nat := 0x75

def osrT : Field 8 := ⟨0xe0, 5⟩
def osrP : Field 8 := ⟨0x1c, 2⟩
def osrH : Field 8 := ⟨0x07, 0⟩
def filter : Field 8 := ⟨0x1c, 2⟩
def nbConv : Field 8 := ⟨0x0f, 0⟩
def runGas : Field 8 := ⟨0x10, 4⟩

def writeReg8 (regs : Regs) (reg : Nat) (data : Byte) (w : Write) : Bool × Regs :=
  (w = .ok, if w = .lost then regs else Function.update regs reg data)

/-- A register is read, changed and written back. -/
def modifyReg8 (regs : Regs) (reg : Nat) (f : Byte → Byte) (read : Bool) (w : Write) :
    Bool × Regs :=
  if read then writeReg8 regs reg (f (regs reg)) w else (false, regs)

/-- `I2C_DEV_TAKE_MUTEX` to `I2C_DEV_GIVE_MUTEX`: the mutex is given whether a transfer fails
or not. -/
def locked (dev : Dev) (b : Bus) (body : Regs → Bool × Regs) : EspErr × Dev :=
  if b.take then
    (if (body dev.regs).1 && b.give then .ok else .failed,
      { dev with regs := (body dev.regs).2 })
  else (.failed, dev)

/-! ### The heater -/

/-- The loop of `bme680_heater_duration`. -/
def durationLoop (duration multiplier : Nat) : Nat × Nat :=
  if 63 < duration then durationLoop (duration / 4) (multiplier + 1) else (duration, multiplier)
termination_by duration
decreasing_by omega

def heaterDuration (duration : BitVec 16) : Byte :=
  let (duration, multiplier) := durationLoop duration.toNat 0
  .ofNat 8 (duration ||| multiplier <<< 6)

/-- The condition under which the duration of a measurement includes the heater's. -/
def measuresGas (s : Settings) : Bool :=
  s.heaterProfile ≠ -1 ∧ s.heaterDuration s.heaterProfile.toNat ≠ 0 ∧
    s.heaterTemperature s.heaterProfile.toNat ≠ 0

/-- The measuring time of a quantity, in microseconds. -/
def osrDuration (osr : OversamplingRate) (extra : Nat) : Nat :=
  if osr = .osrNone then 0 else 1 <<< (osr.value.toNat - 1) * 2300 + extra

/-- `bme680_get_measurement_duration`, in ticks. -/
def getMeasurementDuration (s : Settings) (portTickPeriodMs : Nat) : Nat :=
  let gas :=
    if measuresGas s then
      (s.heaterDuration s.heaterProfile.toNat).toNat * 1000 + (2300 + 575)
    else 0
  let us := 1250 + osrDuration s.osrTemperature 0 + osrDuration s.osrPressure 575 +
    osrDuration s.osrHumidity 575 + gas
  let ms := (us + 999) / 1000 + 5
  (ms + portTickPeriodMs - 1) / portTickPeriodMs + 1

/-! ### The calls -/

def setOversamplingRates (dev : Dev) (ost osp osh : OversamplingRate) (b : Bus) :
    EspErr × Dev :=
  let ostChanged := dev.settings.osrTemperature ≠ ost
  let ospChanged := dev.settings.osrPressure ≠ osp
  let oshChanged := dev.settings.osrHumidity ≠ osh
  if ¬ ostChanged ∧ ¬ ospChanged ∧ ¬ oshChanged then (.ok, dev)
  else
    let settings :=
      { dev.settings with osrTemperature := ost, osrPressure := osp, osrHumidity := osh }
    locked { dev with settings := settings } b fun regs =>
      let (done, regs) :=
        if ostChanged ∨ ospChanged then
          modifyReg8 regs ctrlMeas (fun reg =>
            let reg := if ostChanged then osrT.set reg ost.value else reg
            if ospChanged then osrP.set reg osp.value else reg) b.read1 b.write1
        else (true, regs)
      if done ∧ oshChanged then
        modifyReg8 regs ctrlHum (fun reg => osrH.set reg osh.value) b.read2 b.write2
      else (done, regs)

def setFilterSize (dev : Dev) (size : FilterSize) (b : Bus) : EspErr × Dev :=
  if dev.settings.filterSize = size then (.ok, dev)
  else
    locked { dev with settings := { dev.settings with filterSize := size } } b fun regs =>
      modifyReg8 regs config (fun reg => filter.set reg size.value) b.read1 b.write1

/-- `heaterResistance` is `bme680_heater_resistance`. -/
def setHeaterProfile (heaterResistance : BitVec 16 → Byte) (dev : Dev) (profile : Nat)
    (temperature duration : BitVec 16) (b : Bus) : EspErr × Dev :=
  if ¬ profile < 10 then (.invalidArg, dev)
  else
    let temperatureChanged := dev.settings.heaterTemperature profile ≠ temperature
    let durationChanged := dev.settings.heaterDuration profile ≠ duration
    if ¬ temperatureChanged ∧ ¬ durationChanged then (.ok, dev)
    else
      let settings :=
        { dev.settings with
          heaterTemperature := Function.update dev.settings.heaterTemperature profile temperature
          heaterDuration := Function.update dev.settings.heaterDuration profile duration }
      locked { dev with settings := settings } b fun regs =>
        let (done, regs) :=
          if temperatureChanged then
            writeReg8 regs (resHeatBase + profile) (heaterResistance temperature) b.write1
          else (true, regs)
        if done ∧ durationChanged then
          writeReg8 regs (gasWaitBase + profile) (heaterDuration duration) b.write2
        else (done, regs)

def useHeaterProfile (dev : Dev) (profile : Int) (b : Bus) : EspErr × Dev :=
  if ¬ (-1 ≤ profile ∧ profile < 10) then (.invalidArg, dev)
  else if dev.settings.heaterProfile = profile then (.ok, dev)
  else
    let active : Byte := if profile ≠ -1 then .ofNat 8 profile.toNat else 0
    let used := profile ≠ -1 ∧ dev.settings.heaterTemperature profile.toNat ≠ 0 ∧
      dev.settings.heaterDuration profile.toNat ≠ 0
    let reg := runGas.set (nbConv.set 0 active) (if used then 1 else 0)
    locked { dev with settings := { dev.settings with heaterProfile := profile } } b fun regs =>
      writeReg8 regs ctrlGas1 reg b.write1

inductive Call
  | setOversamplingRates (ost osp osh : OversamplingRate)
  | setFilterSize (size : FilterSize)
  | setHeaterProfile (profile : Nat) (temperature duration : BitVec 16)
  | useHeaterProfile (profile : Int)
  deriving DecidableEq, Repr

section

variable (heaterResistance : BitVec 16 → Byte)

def call (dev : Dev) (b : Bus) : Call → EspErr × Dev
  | .setOversamplingRates ost osp osh => setOversamplingRates dev ost osp osh b
  | .setFilterSize size => setFilterSize dev size b
  | .setHeaterProfile profile temperature duration =>
    setHeaterProfile heaterResistance dev profile temperature duration b
  | .useHeaterProfile profile => useHeaterProfile dev profile b

structure State where
  dev : Dev
  /-- The last call, and what it returned. -/
  answer : Option (Call × EspErr)

/-- The settings that `bme680_init_sensor` starts from. -/
def initSettings : Settings where
  osrTemperature := .osrNone
  osrPressure := .osrNone
  osrHumidity := .osrNone
  filterSize := .iirSize0
  heaterProfile := -1
  heaterTemperature _ := 0
  heaterDuration _ := 0

/-- The registers that the settings are written to. -/
inductive Reg
  | ctrlMeas
  | ctrlHum
  | config
  | ctrlGas1
  | gasWait (profile : Fin 10)

def Reg.address : Reg → Nat
  | .ctrlMeas => Config.ctrlMeas
  | .ctrlHum => Config.ctrlHum
  | .config => Config.config
  | .ctrlGas1 => Config.ctrlGas1
  | .gasWait profile => gasWaitBase + profile

def step (s : State) (e : Call × Bus) : Option State :=
  let (answer, dev) := call heaterResistance s.dev e.2 e.1
  some { dev := dev, answer := some (e.1, answer) }

/-- After the reset the registers are zero. -/
def system : System State (Call × Bus) where
  Init s := s.dev.settings = initSettings ∧ (∀ reg : Reg, s.dev.regs reg.address = 0) ∧
    s.answer = none
  step := step heaterResistance

end

/-! ### What the registers stand for -/

/-- The number of the active profile, or zero if there is none. -/
def activeProfile (s : Settings) : Byte :=
  if s.heaterProfile ≠ -1 then .ofNat 8 s.heaterProfile.toNat else 0

/-- The duration that a byte stands for in the chip, in milliseconds, and its unit: six bits
times 1, 4, 16 or 64. -/
def gasWait (b : Byte) : Nat × Nat :=
  ((b &&& 0x3f).toNat * 4 ^ (b >>> 6).toNat, 4 ^ (b >>> 6).toNat)

/-- A byte stands for a duration, which is rounded down to the unit. -/
def StandsFor (b : Byte) (duration : BitVec 16) : Prop :=
  (gasWait b).1 ≤ duration.toNat ∧ duration.toNat < (gasWait b).1 + (gasWait b).2

instance (b : Byte) (duration : BitVec 16) : Decidable (StandsFor b duration) :=
  inferInstanceAs (Decidable (_ ∧ _))

/-- The fields that a call writes stand for the settings. -/
def Encodes (dev : Dev) : Call → Prop
  | .setOversamplingRates _ _ _ =>
    osrT.get (dev.regs ctrlMeas) = dev.settings.osrTemperature.value ∧
      osrP.get (dev.regs ctrlMeas) = dev.settings.osrPressure.value ∧
      osrH.get (dev.regs ctrlHum) = dev.settings.osrHumidity.value
  | .setFilterSize _ => filter.get (dev.regs config) = dev.settings.filterSize.value
  | .setHeaterProfile profile _ _ =>
    StandsFor (dev.regs (gasWaitBase + profile)) (dev.settings.heaterDuration profile)
  | .useHeaterProfile _ => nbConv.get (dev.regs ctrlGas1) = activeProfile dev.settings

/-- The gas measurement runs if its duration is reckoned with. -/
def RunsGas (dev : Dev) : Prop :=
  runGas.get (dev.regs ctrlGas1) = 1 ↔ measuresGas dev.settings = true

/-- **If a call returns `ESP_OK`, the chip has the settings of the cache.** -/
def Faithful (s : State) : Prop :=
  ∀ c, s.answer = some (c, .ok) → Encodes s.dev c ∧ RunsGas s.dev

/-- Microseconds are rounded up to ticks. -/
theorem le_ticks (us : Nat) {period : Nat} (h : 0 < period) :
    us ≤ (((us + 999) / 1000 + 5 + period - 1) / period + 1) * period * 1000 := by
  have hticks := Nat.lt_div_mul_add h (a := (us + 999) / 1000 + 5 + period - 1)
  have hms : (us + 999) / 1000 + 5 ≤
      (((us + 999) / 1000 + 5 + period - 1) / period + 1) * period := by
    rw [Nat.add_mul, Nat.one_mul]
    generalize ((us + 999) / 1000 + 5 + period - 1) / period * period = t at hticks ⊢
    omega
  refine Nat.le_trans ?_ (Nat.mul_le_mul_right 1000 hms)
  omega

/-- If gas is measured, the time that it takes is waited for. -/
theorem gas_le_measurementDuration {s : Settings} {portTickPeriodMs : Nat}
    (hperiod : 0 < portTickPeriodMs) (h : measuresGas s = true) :
    (s.heaterDuration s.heaterProfile.toNat).toNat * 1000 + (2300 + 575) ≤
      getMeasurementDuration s portTickPeriodMs * portTickPeriodMs * 1000 := by
  rw [getMeasurementDuration, if_pos h]
  exact Nat.le_trans (Nat.le_add_left _ _) (le_ticks _ hperiod)

/-- A call that changes the settings reaches the registers that it has to write. -/
def Carried (s : Settings) (b : Bus) : Call → Prop
  | .setOversamplingRates ost osp osh =>
    (s.osrTemperature ≠ ost ∨ s.osrPressure ≠ osp → b.take ∧ b.read1 ∧ b.write1 ≠ .lost) ∧
      (s.osrHumidity ≠ osh → b.take ∧ b.read2 ∧ b.write2 ≠ .lost ∧
        (s.osrTemperature ≠ ost ∨ s.osrPressure ≠ osp → b.write1 = .ok))
  | .setFilterSize size => s.filterSize ≠ size → b.take ∧ b.read1 ∧ b.write1 ≠ .lost
  | .setHeaterProfile profile temperature duration =>
    s.heaterDuration profile ≠ duration → b.take ∧ b.write2 ≠ .lost ∧
      (s.heaterTemperature profile ≠ temperature → b.write1 = .ok)
  | .useHeaterProfile profile => s.heaterProfile ≠ profile → b.take ∧ b.write1 ≠ .lost

/-- A call that changes the profile in use does not make it one that measures gas, nor one
that does not. -/
def KeepsGas (s : Settings) : Call → Prop
  | .setHeaterProfile profile temperature duration => s.heaterProfile = profile →
    (temperature ≠ 0 ∧ duration ≠ 0 ↔
      s.heaterTemperature profile ≠ 0 ∧ s.heaterDuration profile ≠ 0)
  | _ => True

/-- The duration of a profile is at most 4095 ms. -/
def Encodable : Call → Prop
  | .setHeaterProfile profile _ duration => profile < 10 → duration.toNat < 4096
  | _ => True

def Steady (s : State) (e : Call × Bus) : Prop :=
  Carried s.dev.settings e.2 e.1 ∧ KeepsGas s.dev.settings e.1 ∧ Encodable e.1

instance (s : Settings) (b : Bus) : ∀ c, Decidable (Carried s b c)
  | .setOversamplingRates _ _ _ => inferInstanceAs (Decidable (_ ∧ _))
  | .setFilterSize _ => inferInstanceAs (Decidable (_ → _))
  | .setHeaterProfile _ _ _ => inferInstanceAs (Decidable (_ → _))
  | .useHeaterProfile _ => inferInstanceAs (Decidable (_ → _))

instance (s : Settings) : ∀ c, Decidable (KeepsGas s c)
  | .setHeaterProfile _ _ _ => inferInstanceAs (Decidable (_ → _))
  | .setOversamplingRates _ _ _ | .setFilterSize _ | .useHeaterProfile _ => .isTrue trivial

instance : ∀ c, Decidable (Encodable c)
  | .setHeaterProfile _ _ _ => inferInstanceAs (Decidable (_ → _))
  | .setOversamplingRates _ _ _ | .setFilterSize _ | .useHeaterProfile _ => .isTrue trivial

instance (s : State) (e : Call × Bus) : Decidable (Steady s e) :=
  inferInstanceAs (Decidable (_ ∧ _ ∧ _))

/-! ### The invariant -/

/-- A register has what the settings say. -/
def Reg.Agrees (s : Settings) (v : Byte) : Reg → Prop
  | .ctrlMeas => osrT.get v = s.osrTemperature.value ∧ osrP.get v = s.osrPressure.value
  | .ctrlHum => osrH.get v = s.osrHumidity.value
  | .config => filter.get v = s.filterSize.value
  | .ctrlGas1 => nbConv.get v = activeProfile s ∧ runGas.get v = if measuresGas s then 1 else 0
  | .gasWait profile => v = heaterDuration (s.heaterDuration profile)

structure Agree (s : Settings) (regs : Regs) : Prop where
  regs : ∀ reg : Reg, reg.Agrees s (regs reg.address)
  le_profile : -1 ≤ s.heaterProfile

theorem Reg.address_injective : Function.Injective Reg.address := by
  intro a b h
  cases a <;> cases b <;>
    simp only [Reg.address, Config.ctrlMeas, Config.ctrlHum, Config.config, Config.ctrlGas1,
      gasWaitBase, Reg.gasWait.injEq, reduceCtorEq] at h ⊢ <;> omega

theorem Reg.le_address (reg : Reg) : gasWaitBase ≤ reg.address := by
  cases reg with
  | gasWait profile => exact Nat.le_add_right _ _
  | ctrlMeas | ctrlHum | config | ctrlGas1 => decide

/-! ### What fits into the fields -/

theorem holds_osr (osr : OversamplingRate) :
    osrT.Holds osr.value ∧ osrP.Holds osr.value ∧ osrH.Holds osr.value := by
  cases osr <;> decide

theorem holds_filter (size : FilterSize) : filter.Holds size.value := by
  cases size <;> decide

theorem holds_nbConv {profile : Int} (h : profile < 10) :
    nbConv.Holds (if profile ≠ -1 then .ofNat 8 profile.toNat else 0) := by
  have hten : ∀ k < 10, nbConv.Holds (.ofNat 8 k) := by decide
  split
  · exact hten _ (by omega)
  · decide

theorem holds_runGas (p : Prop) [Decidable p] : runGas.Holds (if p then 1 else 0) := by
  split <;> decide

/-! ### The byte for a duration -/

/-- The loop stops before the duration is zero. -/
theorem durationLoop_eq (j : Nat) {duration : Nat} (multiplier : Nat)
    (h : duration < 64 * 4 ^ j) :
    ∃ k ≤ j, durationLoop duration multiplier = (duration / 4 ^ k, multiplier + k) ∧
      duration / 4 ^ k ≤ 63 := by
  induction j generalizing duration multiplier with
  | zero =>
    rw [durationLoop, if_neg (by omega)]
    exact ⟨0, Nat.le_refl 0, by rw [Nat.pow_zero, Nat.div_one, Nat.add_zero], by omega⟩
  | succ j ih =>
    rw [durationLoop]
    by_cases hlarge : 63 < duration
    · rw [Nat.pow_succ] at h
      obtain ⟨k, hk, heq, hle⟩ := ih (multiplier + 1)
        (show duration / 4 < 64 * 4 ^ j by omega)
      rw [Nat.div_div_eq_div_mul, Nat.mul_comm 4, ← Nat.pow_succ] at heq hle
      rw [if_pos hlarge, heq]
      exact ⟨k + 1, Nat.succ_le_succ hk, by rw [Nat.add_right_comm, Nat.add_assoc], hle⟩
    · rw [if_neg hlarge]
      refine ⟨0, Nat.zero_le _, ?_, ?_⟩
      · rw [Nat.pow_zero, Nat.div_one, Nat.add_zero]
      · rw [Nat.pow_zero, Nat.div_one]
        omega

/-- Up to 4095 ms the byte stands for the duration. -/
theorem standsFor_heaterDuration {duration : BitVec 16} (h : duration.toNat < 4096) :
    StandsFor (heaterDuration duration) duration := by
  obtain ⟨k, hk, heq, hle⟩ := durationLoop_eq 3 0
    (show duration.toNat < 64 * 4 ^ 3 by omega)
  have hbyte : ∀ k ≤ 3, ∀ q ≤ 63, gasWait (.ofNat 8 (q ||| k <<< 6)) = (q * 4 ^ k, 4 ^ k) := by
    decide +kernel
  rw [StandsFor, heaterDuration, heq, Nat.zero_add]
  simp only [hbyte k hk _ hle]
  have hpos : 0 < 4 ^ k := Nat.pow_pos (by decide)
  exact ⟨Nat.div_mul_le_self _ _, Nat.lt_div_mul_add hpos⟩

/-! ### A change of the settings -/

section

variable {s s' : Settings} {regs : Regs}

/-- A register is written for the settings that changed. -/
theorem Agree.update (h : Agree s regs) (reg : Reg) {v : Byte} (hv : reg.Agrees s' v)
    (hother : ∀ r : Reg, r ≠ reg → ∀ x, r.Agrees s x → r.Agrees s' x)
    (hprofile : -1 ≤ s'.heaterProfile) : Agree s' (Function.update regs reg.address v) := by
  refine ⟨fun r => ?_, hprofile⟩
  by_cases hr : r = reg
  · subst hr
    rw [Function.update_self]
    exact hv
  · rw [Function.update_of_ne (Reg.address_injective.ne hr)]
    exact hother r hr _ (h.regs r)

/-- The registers for the temperatures of the heater are none of them. -/
theorem Agree.update_low (h : Agree s regs) {a : Nat} (ha : a < gasWaitBase) (v : Byte) :
    Agree s (Function.update regs a v) := by
  refine ⟨fun reg => ?_, h.le_profile⟩
  have hle := reg.le_address
  rw [Function.update_of_ne (by omega)]
  exact h.regs reg

theorem Agree.meas (h : Agree s regs) {ost osp : OversamplingRate} {v : Byte}
    (hv : osrT.get v = ost.value ∧ osrP.get v = osp.value) :
    Agree { s with osrTemperature := ost, osrPressure := osp }
      (Function.update regs ctrlMeas v) := by
  refine h.update .ctrlMeas hv (fun r hr x hx => ?_) h.le_profile
  cases r with
  | ctrlMeas => exact absurd rfl hr
  | ctrlHum | config | ctrlGas1 | gasWait profile => exact hx

/-- The register after the fields that changed were set. -/
theorem Agree.changeMeas (h : Agree s regs) (ost osp : OversamplingRate) :
    Agree { s with osrTemperature := ost, osrPressure := osp }
      (Function.update regs ctrlMeas
        (let reg := if s.osrTemperature ≠ ost then osrT.set (regs ctrlMeas) ost.value
          else regs ctrlMeas
        if s.osrPressure ≠ osp then osrP.set reg osp.value else reg)) := by
  obtain ⟨hT, hP⟩ := h.regs .ctrlMeas
  refine h.meas ?_
  have hfirst : ∀ reg, reg = (if s.osrTemperature ≠ ost then osrT.set (regs ctrlMeas) ost.value
      else regs ctrlMeas) → osrT.get reg = ost.value ∧ osrP.get reg = s.osrPressure.value := by
    rintro reg rfl
    by_cases hchanged : s.osrTemperature ≠ ost
    · rw [if_pos hchanged, Field.get_set (holds_osr ost).1, Field.get_set_of_disjoint (by decide)]
      exact ⟨rfl, hP⟩
    · rw [if_neg hchanged, ← not_not.mp hchanged]
      exact ⟨hT, hP⟩
  obtain ⟨hT, hP⟩ := hfirst _ rfl
  show osrT.get (if s.osrPressure ≠ osp then _ else _) = _ ∧
    osrP.get (if s.osrPressure ≠ osp then _ else _) = _
  by_cases hchanged : s.osrPressure ≠ osp
  · rw [if_pos hchanged, Field.get_set (holds_osr osp).2.1, Field.get_set_of_disjoint (by decide)]
    exact ⟨hT, rfl⟩
  · rw [if_neg hchanged, ← not_not.mp hchanged]
    exact ⟨hT, hP⟩

theorem Agree.hum (h : Agree s regs) (osh : OversamplingRate) :
    Agree { s with osrHumidity := osh }
      (Function.update regs ctrlHum (osrH.set (regs ctrlHum) osh.value)) := by
  refine h.update .ctrlHum (Field.get_set (holds_osr osh).2.2) (fun r hr x hx => ?_) h.le_profile
  cases r with
  | ctrlHum => exact absurd rfl hr
  | ctrlMeas | config | ctrlGas1 | gasWait profile => exact hx

theorem Agree.config (h : Agree s regs) (size : FilterSize) :
    Agree { s with filterSize := size }
      (Function.update regs Config.config (filter.set (regs Config.config) size.value)) := by
  refine h.update .config (Field.get_set (holds_filter size)) (fun r hr x hx => ?_) h.le_profile
  cases r with
  | config => exact absurd rfl hr
  | ctrlMeas | ctrlHum | ctrlGas1 | gasWait profile => exact hx

theorem Agree.gas (h : Agree s regs) {profile : Int} (hlow : -1 ≤ profile) {v : Byte}
    (hv : Reg.ctrlGas1.Agrees { s with heaterProfile := profile } v) :
    Agree { s with heaterProfile := profile } (Function.update regs ctrlGas1 v) := by
  refine h.update .ctrlGas1 hv (fun r hr x hx => ?_) hlow
  cases r with
  | ctrlGas1 => exact absurd rfl hr
  | ctrlMeas | ctrlHum | config | gasWait profile => exact hx

/-- The parameters of a profile. -/
def Settings.setProfile (s : Settings) (profile : Nat) (temperature duration : BitVec 16) :
    Settings :=
  { s with
    heaterTemperature := Function.update s.heaterTemperature profile temperature
    heaterDuration := Function.update s.heaterDuration profile duration }

theorem measuresGas_setProfile {profile : Nat} {temperature duration : BitVec 16}
    (hlow : -1 ≤ s.heaterProfile)
    (hkeep : KeepsGas s (.setHeaterProfile profile temperature duration)) :
    measuresGas (s.setProfile profile temperature duration) = measuresGas s := by
  rw [measuresGas, measuresGas, decide_eq_decide]
  by_cases hused : s.heaterProfile = profile
  · have hkeep := hkeep hused
    have hindex : s.heaterProfile.toNat = profile := by omega
    simp only [Settings.setProfile, hindex, Function.update_self]
    rw [and_comm (a := duration ≠ 0), hkeep, and_comm (a := s.heaterDuration profile ≠ 0)]
  · by_cases hnone : s.heaterProfile = -1
    · simp only [Settings.setProfile, hnone, ne_eq, not_true_eq_false, false_and]
    · have hindex : s.heaterProfile.toNat ≠ profile := by omega
      simp only [Settings.setProfile, Function.update_of_ne hindex]

theorem Agree.gasWait (h : Agree s regs) {profile : Nat} (hprofile : profile < 10)
    {temperature duration : BitVec 16}
    (hkeep : KeepsGas s (.setHeaterProfile profile temperature duration)) :
    Agree (s.setProfile profile temperature duration)
      (Function.update regs (gasWaitBase + profile) (heaterDuration duration)) := by
  refine h.update (.gasWait ⟨profile, hprofile⟩) ?_ (fun r hr x hx => ?_) h.le_profile
  · show heaterDuration duration =
      heaterDuration (Function.update s.heaterDuration profile duration profile)
    rw [Function.update_self]
  · cases r with
    | gasWait p =>
      have hne : (p : Nat) ≠ profile := by
        rintro rfl
        exact hr rfl
      show x = heaterDuration (Function.update s.heaterDuration profile duration p)
      rw [Function.update_of_ne hne]
      exact hx
    | ctrlGas1 =>
      refine ⟨hx.1, ?_⟩
      rw [measuresGas_setProfile h.le_profile hkeep]
      exact hx.2
    | ctrlMeas | ctrlHum | config => exact hx

/-- A profile whose duration stays. -/
theorem Agree.same_duration (h : Agree s regs) {profile : Nat} (hprofile : profile < 10)
    {temperature duration : BitVec 16} (hsame : s.heaterDuration profile = duration)
    (hkeep : KeepsGas s (.setHeaterProfile profile temperature duration)) :
    Agree (s.setProfile profile temperature duration) regs := by
  have hagree := h.gasWait hprofile hkeep
  have hvalue : regs (gasWaitBase + profile) = heaterDuration (s.heaterDuration profile) :=
    h.regs (.gasWait ⟨profile, hprofile⟩)
  rw [hsame] at hvalue
  rwa [← hvalue, Function.update_eq_self] at hagree

end

/-! ### One call -/

section

variable {dev : Dev} {b : Bus}

/-- A write that is carried out. -/
theorem writeReg8_carried (regs : Regs) (reg : Nat) (data : Byte) {w : Write} (h : w ≠ .lost) :
    writeReg8 regs reg data w = (decide (w = .ok), Function.update regs reg data) := by
  rw [writeReg8, if_neg h]

theorem writeReg8_ok (regs : Regs) (reg : Nat) (data : Byte) :
    writeReg8 regs reg data .ok = (true, Function.update regs reg data) := rfl

theorem writeReg8_low {s : Settings} {regs : Regs} (h : Agree s regs) {reg : Nat}
    (hreg : reg < gasWaitBase) (data : Byte) (w : Write) :
    Agree s (writeReg8 regs reg data w).2 := by
  rw [writeReg8]
  split
  · exact h
  · exact h.update_low hreg data

theorem locked_carried {body : Regs → Bool × Regs} (h : b.take = true) :
    (locked dev b body).2 = { dev with regs := (body dev.regs).2 } := by
  rw [locked, if_pos h]

theorem Agree.setOversamplingRates (h : Agree dev.settings dev.regs)
    {ost osp osh : OversamplingRate}
    (hc : Carried dev.settings b (.setOversamplingRates ost osp osh)) :
    Agree (setOversamplingRates dev ost osp osh b).2.settings
      (setOversamplingRates dev ost osp osh b).2.regs := by
  obtain ⟨hmeas, hhum⟩ := hc
  rw [Config.setOversamplingRates]
  by_cases hchanged : dev.settings.osrTemperature ≠ ost ∨ dev.settings.osrPressure ≠ osp
  · obtain ⟨htake, hread, hwrite⟩ := hmeas hchanged
    have hnot : ¬ (¬ dev.settings.osrTemperature ≠ ost ∧ ¬ dev.settings.osrPressure ≠ osp ∧
        ¬ dev.settings.osrHumidity ≠ osh) := by
      rintro ⟨h1, h2, -⟩
      exact hchanged.elim h1 h2
    rw [if_neg hnot, locked_carried htake]
    have hreg := h.changeMeas ost osp
    by_cases hsame : dev.settings.osrHumidity = osh
    · subst hsame
      simp only [hchanged, if_true, modifyReg8, hread, writeReg8_carried _ _ _ hwrite, ne_eq,
        not_true_eq_false, and_false, if_false]
      exact hreg
    · obtain ⟨-, hread2, hwrite2, hfirst⟩ := hhum hsame
      simp only [hchanged, if_true, modifyReg8, hread, hfirst hchanged, writeReg8_ok, ne_eq,
        hsame, not_false_eq_true, and_self, hread2, writeReg8_carried _ _ _ hwrite2]
      exact hreg.hum osh
  · have hT : dev.settings.osrTemperature = ost := by
      by_contra hT
      exact hchanged (.inl hT)
    have hP : dev.settings.osrPressure = osp := by
      by_contra hP
      exact hchanged (.inr hP)
    subst hT hP
    by_cases hsame : dev.settings.osrHumidity = osh
    · rw [if_pos ⟨not_not_intro rfl, not_not_intro rfl, not_not_intro hsame⟩]
      exact h
    · obtain ⟨htake, hread, hwrite, -⟩ := hhum hsame
      rw [if_neg fun hnone => hnone.2.2 hsame, locked_carried htake]
      simp only [ne_eq, not_true_eq_false, or_self, if_false, hsame, not_false_eq_true, and_self,
        if_true, modifyReg8, hread, writeReg8_carried _ _ _ hwrite]
      exact h.hum osh

theorem Agree.setFilterSize (h : Agree dev.settings dev.regs) {size : FilterSize}
    (hc : Carried dev.settings b (.setFilterSize size)) :
    Agree (setFilterSize dev size b).2.settings (setFilterSize dev size b).2.regs := by
  rw [Config.setFilterSize]
  by_cases hsame : dev.settings.filterSize = size
  · rw [if_pos hsame]
    exact h
  · obtain ⟨htake, hread, hwrite⟩ := hc hsame
    rw [if_neg hsame, locked_carried htake, modifyReg8, if_pos hread,
      writeReg8_carried _ _ _ hwrite]
    exact h.config size

theorem Agree.setHeaterProfile {heaterResistance : BitVec 16 → Byte}
    (h : Agree dev.settings dev.regs) {profile : Nat} {temperature duration : BitVec 16}
    (hc : Carried dev.settings b (.setHeaterProfile profile temperature duration))
    (hkeep : KeepsGas dev.settings (.setHeaterProfile profile temperature duration)) :
    Agree (setHeaterProfile heaterResistance dev profile temperature duration b).2.settings
      (setHeaterProfile heaterResistance dev profile temperature duration b).2.regs := by
  rw [Config.setHeaterProfile]
  by_cases hprofile : profile < 10
  · rw [if_neg (not_not_intro hprofile)]
    have hlow : resHeatBase + profile < gasWaitBase := by
      rw [resHeatBase, gasWaitBase]
      omega
    by_cases hduration : dev.settings.heaterDuration profile = duration
    · by_cases htemperature : dev.settings.heaterTemperature profile = temperature
      · rw [if_pos ⟨not_not_intro htemperature, not_not_intro hduration⟩]
        exact h
      · rw [if_neg fun hsame => hsame.1 htemperature, locked]
        have hsettings := h.same_duration hprofile hduration hkeep
        split
        · simp only [hduration, ne_eq, not_true_eq_false, and_false, if_false]
          exact writeReg8_low hsettings hlow _ _
        · exact hsettings
    · obtain ⟨htake, hwrite, hfirst⟩ := hc hduration
      rw [if_neg fun hsame => hsame.2 hduration, locked_carried htake]
      by_cases htemperature : dev.settings.heaterTemperature profile = temperature
      · simp only [htemperature, ne_eq, not_true_eq_false, if_false, hduration, not_false_eq_true,
          and_self, if_true, writeReg8_carried _ _ _ hwrite]
        exact h.gasWait hprofile hkeep
      · simp only [htemperature, ne_eq, not_false_eq_true, if_true, hduration,
          hfirst htemperature, writeReg8_ok, and_self, writeReg8_carried _ _ _ hwrite]
        exact (h.update_low hlow _).gasWait hprofile hkeep
  · rw [if_pos hprofile]
    exact h

theorem Agree.useHeaterProfile (h : Agree dev.settings dev.regs) {profile : Int}
    (hc : Carried dev.settings b (.useHeaterProfile profile)) :
    Agree (useHeaterProfile dev profile b).2.settings (useHeaterProfile dev profile b).2.regs := by
  rw [Config.useHeaterProfile]
  by_cases hrange : -1 ≤ profile ∧ profile < 10
  · rw [if_neg (not_not_intro hrange)]
    by_cases hsame : dev.settings.heaterProfile = profile
    · rw [if_pos hsame]
      exact h
    · obtain ⟨htake, hwrite⟩ := hc hsame
      rw [if_neg hsame, locked_carried htake, writeReg8_carried _ _ _ hwrite]
      refine h.gas hrange.1 ⟨?_, ?_⟩
      · rw [Field.get_set_of_disjoint (by decide), Field.get_set (holds_nbConv hrange.2)]
        rfl
      · rw [Field.get_set (holds_runGas _)]
        have hcomm : (profile ≠ -1 ∧ dev.settings.heaterTemperature profile.toNat ≠ 0 ∧
            dev.settings.heaterDuration profile.toNat ≠ 0) ↔
            measuresGas { dev.settings with heaterProfile := profile } = true := by
          rw [measuresGas, decide_eq_true_iff, and_comm (a := _ ≠ (0 : BitVec 16))]
        simp only [hcomm]
  · rw [if_pos hrange]
    exact h

/-- A call keeps the durations, but for that of a profile that it sets. -/
theorem heaterDuration_call {heaterResistance : BitVec 16 → Byte} {c : Call}
    (h : ∀ profile, (dev.settings.heaterDuration profile).toNat < 4096) (hc : Encodable c)
    (profile : Nat) :
    ((call heaterResistance dev b c).2.settings.heaterDuration profile).toNat < 4096 := by
  have hlocked : ∀ (dev : Dev) (body : Regs → Bool × Regs),
      (∀ profile, (dev.settings.heaterDuration profile).toNat < 4096) →
      ((locked dev b body).2.settings.heaterDuration profile).toNat < 4096 := by
    intro dev body hdev
    rw [locked]
    split <;> exact hdev profile
  cases c with
  | setOversamplingRates ost osp osh =>
    rw [call, Config.setOversamplingRates]
    split
    · exact h profile
    · exact hlocked _ _ h
  | setFilterSize size =>
    rw [call, Config.setFilterSize]
    split
    · exact h profile
    · exact hlocked _ _ h
  | setHeaterProfile number temperature duration =>
    rw [call, Config.setHeaterProfile]
    split
    · exact h profile
    · rename_i hnumber
      dsimp only
      split
      · exact h profile
      · refine hlocked _ _ fun p => ?_
        dsimp only
        by_cases hp : p = number
        · subst hp
          rw [Function.update_self]
          exact hc (not_not.mp hnumber)
        · rw [Function.update_of_ne hp]
          exact h p
  | useHeaterProfile number =>
    rw [call, Config.useHeaterProfile]
    split
    · exact h profile
    · split
      · exact h profile
      · exact hlocked _ _ h

theorem lt_of_setHeaterProfile {heaterResistance : BitVec 16 → Byte} {profile : Nat}
    {temperature duration : BitVec 16}
    (h : (setHeaterProfile heaterResistance dev profile temperature duration b).1 = .ok) :
    profile < 10 := by
  by_contra hprofile
  rw [setHeaterProfile, if_pos hprofile] at h
  cases h

end

/-! ### A run -/

section

variable {heaterResistance : BitVec 16 → Byte}

theorem Agree.call {dev : Dev} {b : Bus} (h : Agree dev.settings dev.regs) {c : Call}
    (hc : Carried dev.settings b c) (hkeep : KeepsGas dev.settings c) :
    Agree (call heaterResistance dev b c).2.settings (call heaterResistance dev b c).2.regs := by
  cases c with
  | setOversamplingRates ost osp osh => exact h.setOversamplingRates hc
  | setFilterSize size => exact h.setFilterSize hc
  | setHeaterProfile profile temperature duration => exact h.setHeaterProfile hc hkeep
  | useHeaterProfile profile => exact h.useHeaterProfile hc

theorem agree_boot {regs : Regs} (h : ∀ reg : Reg, regs reg.address = 0) :
    Agree initSettings regs := by
  refine ⟨fun reg => ?_, by decide⟩
  rw [h reg]
  cases reg with
  | gasWait profile =>
    show 0 = heaterDuration 0
    rw [heaterDuration, durationLoop]
    rfl
  | ctrlMeas | ctrlGas1 => exact ⟨rfl, rfl⟩
  | ctrlHum | config => exact rfl

theorem agree_of_steady {s : State} (h : (system heaterResistance).Reaches Steady s) :
    Agree s.dev.settings s.dev.regs := by
  refine h.invariant (P := fun s => Agree s.dev.settings s.dev.regs) ?_ ?_
  · rintro s ⟨hsettings, hregs, -⟩
    rw [hsettings]
    exact agree_boot hregs
  · rintro s e s' hp ⟨hc, hkeep, -⟩ hs
    cases hs
    exact hp.call hc hkeep

theorem heaterDuration_lt {s : State} (h : (system heaterResistance).Reaches Steady s)
    (profile : Nat) : (s.dev.settings.heaterDuration profile).toNat < 4096 := by
  refine h.invariant
    (P := fun s => ∀ profile, (s.dev.settings.heaterDuration profile).toNat < 4096) ?_ ?_ profile
  · rintro s ⟨hsettings, -, -⟩ profile
    rw [hsettings]
    exact (by decide : (0 : BitVec 16).toNat < 4096)
  · rintro s e s' hp ⟨-, -, hencodable⟩ hs
    cases hs
    exact heaterDuration_call hp hencodable

/-- A profile that was set is one of the ten. -/
theorem profile_lt {s : State} (h : (system heaterResistance).Reachable s) {profile : Nat}
    {temperature duration : BitVec 16}
    (hs : s.answer = some (.setHeaterProfile profile temperature duration, .ok)) :
    profile < 10 := by
  cases h with
  | init h0 =>
    rw [h0.2.2] at hs
    cases hs
  | step _ _ hstep =>
    cases hstep
    rw [Option.some.injEq, Prod.mk.injEq] at hs
    obtain ⟨hcall, hok⟩ := hs
    rw [hcall] at hok
    exact lt_of_setHeaterProfile hok

/-- **If no call loses a write, no profile is switched on or off while it is in use, and none
heats for longer than 4095 ms, the chip has the settings of the cache.** -/
theorem faithful_of_steady {s : State} (h : (system heaterResistance).Reaches Steady s) :
    Faithful s := by
  obtain ⟨hregs, -⟩ := agree_of_steady h
  have hmeas := hregs .ctrlMeas
  have hgas := hregs .ctrlGas1
  intro c hc
  refine ⟨?_, ?_⟩
  · cases c with
    | setOversamplingRates ost osp osh => exact ⟨hmeas.1, hmeas.2, hregs .ctrlHum⟩
    | setFilterSize size => exact hregs .config
    | setHeaterProfile profile temperature duration =>
      rw [Encodes, show s.dev.regs (gasWaitBase + profile) = _ from
        hregs (.gasWait ⟨profile, profile_lt h.reachable hc⟩)]
      exact standsFor_heaterDuration (heaterDuration_lt h profile)
    | useHeaterProfile profile => exact hgas.1
  · rw [RunsGas, show runGas.get (s.dev.regs ctrlGas1) = _ from hgas.2]
    by_cases hgas : measuresGas s.dev.settings = true
    · rw [if_pos hgas]
      exact iff_of_true rfl hgas
    · rw [if_neg hgas]
      exact iff_of_false (by decide) hgas

end

/-! ### The calls of the program -/

/-- The calls at the end of `bme680_init_sensor`. -/
def initSensor : List Call :=
  [.setOversamplingRates .osr1x .osr1x .osr1x, .setFilterSize .iirSize3,
    .setHeaterProfile 0 320 150, .useHeaterProfile 0]

/-- The calls of `bme680_test`. -/
def bme680Test : List Call :=
  [.setOversamplingRates .osr4x .osr4x .osr2x, .setFilterSize .iirSize7,
    .setHeaterProfile 0 200 100, .useHeaterProfile 0]

def cleanBus : Bus := ⟨true, true, .ok, true, .ok, true⟩

/-- A write that gets lost. -/
def lossyBus : Bus := { cleanBus with write1 := .lost }

/-- `bme680_heater_resistance`, if the calibration data of the heater are zero. -/
def someResistance (temp : BitVec 16) : Byte :=
  .ofNat 8 ((8160000 + 39151 * min (max temp.toNat 200) 400) / 100000)

def boot : State := ⟨⟨initSettings, fun _ => 0⟩, none⟩

theorem boot_init : (system someResistance).Init boot := ⟨rfl, fun _ => rfl, rfl⟩

theorem faithful_after_bme680Test :
    ∃ s, (system someResistance).Reaches Steady s ∧
      s.answer = some (.useHeaterProfile 0, .ok) ∧ Faithful s := by
  have hrun : ∃ s, (system someResistance).Reaches Steady s ∧
      s.answer = some (.useHeaterProfile 0, .ok) :=
    System.exists_of_execute ((initSensor ++ bme680Test).map fun c => (c, cleanBus)) boot_init
      (by decide +kernel)
  obtain ⟨s, hs, hanswer⟩ := hrun
  exact ⟨s, hs, hanswer, faithful_of_steady hs⟩

/-- A filter size that was not written is not written the second time either.  And without
any fault, a profile that is used before it is set does not measure gas, and one that is set
to 4096 ms has the byte for 16 ms. -/
theorem not_faithful_lossyBus :
    (¬ ∀ s, (system someResistance).Reachable s → Faithful s) ∧
      (¬ ∀ s, (system someResistance).Reaches (fun _ e => e.2 = cleanBus) s → Faithful s) ∧
      ¬ ∀ s, (system someResistance).Reaches
        (fun s e => e.2 = cleanBus ∧ KeepsGas s.dev.settings e.1) s → Faithful s := by
  have hlost : ∃ s, (system someResistance).Reachable s ∧
      s.answer = some (.setFilterSize .iirSize7, .ok) ∧
        filter.get (s.dev.regs config) ≠ s.dev.settings.filterSize.value :=
    System.exists_of_execute
      [(.setFilterSize .iirSize7, lossyBus), (.setFilterSize .iirSize7, cleanBus)] boot_init
      (by decide +kernel)
  have hunset : ∃ s, (system someResistance).Reaches (fun _ e => e.2 = cleanBus) s ∧
      s.answer = some (.setHeaterProfile 0 320 150, .ok) ∧
        ¬ (runGas.get (s.dev.regs ctrlGas1) = 1 ↔ measuresGas s.dev.settings = true) :=
    System.exists_of_execute
      [(.useHeaterProfile 0, cleanBus), (.setHeaterProfile 0 320 150, cleanBus)] boot_init
      (by decide +kernel)
  have hlong : ∃ s, (system someResistance).Reaches
      (fun s e => e.2 = cleanBus ∧ KeepsGas s.dev.settings e.1) s ∧
      s.answer = some (.setHeaterProfile 0 320 4096, .ok) ∧
        ¬ StandsFor (s.dev.regs gasWaitBase) (s.dev.settings.heaterDuration 0) :=
    System.exists_of_execute [(.setHeaterProfile 0 320 4096, cleanBus)] boot_init
      (by decide +kernel)
  refine ⟨fun h => ?_, fun h => ?_, fun h => ?_⟩
  · obtain ⟨s, hs, hanswer, hne⟩ := hlost
    exact hne (h s hs _ hanswer).1
  · obtain ⟨s, hs, hanswer, hne⟩ := hunset
    exact hne (h s hs _ hanswer).2
  · obtain ⟨s, hs, hanswer, hne⟩ := hlong
    exact hne (h s hs _ hanswer).1

end Datk.Sensor.Config
