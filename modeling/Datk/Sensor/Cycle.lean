import Datk.Sensor.Bme680
import Datk.Sensor.Config

/-!
# A measurement is finished when it is fetched

`bme680_force_measurement` sets the mode in `ctrl_meas`.  The chip then measures once, what
its registers say and for as long as they say; after that it clears the mode and shows in
its status that there are new data.  The driver does not ask it whether it has finished.
`bme680_get_measurement_duration` reckons with the cached settings, in ticks, and the task
sleeps for so long.

* How long the chip takes is not known here.  It is assumed to be at most what the formulas
  give, which the driver took from the data sheet, for what the registers say
  (`AtMostMaximum`).
* `vTaskDelay` returns at the given tick, and the first tick may be almost over when it is
  called: of `n` ticks, `n - 1` are certain.
* While the task sleeps it makes no call, and no other task uses the sensor.
* A write that returns an error may have been carried out.

`fetched_of_steady` says that the data are always there.
-/

namespace Datk.Sensor.Cycle

open Lib

/-- `BME680_MODE`; the mode 1 is `BME680_FORCED_MODE`, and 0 is that of a chip that sleeps. -/
def mode : Field 8 := ⟨0x03, 0⟩

/-! ### The chip -/

/-- The measuring time of a quantity whose oversampling is `osr`, in microseconds. -/
def conversion (osr : Byte) (extra : Nat) : Nat :=
  if osr = 0 then 0 else 1 <<< (osr.toNat - 1) * 2300 + extra

/-- The time that the heater and the gas measurement take. -/
def gasConversion (regs : Config.Regs) : Nat :=
  let wait := regs (Config.gasWaitBase + (Config.nbConv.get (regs Config.ctrlGas1)).toNat)
  if Config.runGas.get (regs Config.ctrlGas1) = 1 then
    (Config.gasWait wait).1 * 1000 + (2300 + 575)
  else 0

/-- The maximum measurement duration by the formulas, in microseconds. -/
def maximumDuration (regs : Config.Regs) : Nat :=
  1250 + conversion (Config.osrT.get (regs Config.ctrlMeas)) 0 +
    conversion (Config.osrP.get (regs Config.ctrlMeas)) 575 +
    conversion (Config.osrH.get (regs Config.ctrlHum)) 575 + gasConversion regs

/-- A measurement of the chip takes the maximum at most. -/
def AtMostMaximum (chipDuration : Config.Regs → Nat) : Prop :=
  ∀ regs, chipDuration regs ≤ maximumDuration regs

structure Chip where
  /-- The time that is left of a measurement. -/
  running : Option Nat
  newData : Bool
  deriving DecidableEq, Repr

/-- The register `BME680_REG_MEAS_STATUS_0`; what is not modelled of it is `rest`. -/
def Chip.status (chip : Chip) (rest : Byte) : Byte :=
  (rest &&& 0x5f) ||| (if chip.newData then 0x80 else 0) |||
    (if chip.running.isSome then 0x20 else 0)

/-- After a call that may have written `ctrl_meas`: in forced mode the chip measures, from the
start. -/
def Chip.written (chipDuration : Config.Regs → Nat) (chip : Chip) (regs : Config.Regs) : Chip :=
  if mode.get (regs Config.ctrlMeas) = 1 then ⟨some (chipDuration regs), false⟩ else chip

/-! ### The system -/

structure State where
  /-- The settings of the driver and the registers of the chip. -/
  config : Config.Dev
  dev : Dev
  chip : Chip
  /-- How long the task sleeps at least, in microseconds. -/
  asleep : Nat
  /-- History: what `bme680_get_raw_data` has returned after a measurement was started. -/
  fetched : List (Bus × Except EspErr RawData)

inductive Act
  | configure (c : Config.Call) (b : Config.Bus)
  /-- `bme680_force_measurement`, and `vTaskDelay` if it succeeds; a write of the mode that
  fails is carried out if `stored`. -/
  | force (b : Bus) (stored : Bool)
  /-- Time goes by, in microseconds. -/
  | pass (us : Nat)
  /-- `bme680_get_raw_data`; `b` has what a failed transfer leaves as the status. -/
  | fetch (b : Bus)
  deriving DecidableEq

/-- The mode reaches the chip. -/
def modeWritten (b : Bus) (stored : Bool) : Bool :=
  b.modeTake && b.modeRead && (b.modeWrite || stored)

section

variable (chipDuration : Config.Regs → Nat) (portTickPeriodMs : Nat)

/-- The time that `vTaskDelay(duration)` takes at least. -/
def delay (settings : Config.Settings) : Nat :=
  (Config.getMeasurementDuration settings portTickPeriodMs - 1) * portTickPeriodMs * 1000

def force (s : State) (b : Bus) (stored : Bool) : State :=
  let (result, dev) := forceMeasurement s.dev b
  let asleep := match result with
    | .ok () => delay portTickPeriodMs s.config.settings
    | .error _ => 0
  if ¬ s.dev.measStarted ∧ modeWritten b stored then
    let regs := Function.update s.config.regs Config.ctrlMeas
      (mode.set (s.config.regs Config.ctrlMeas) 1)
    { s with
      config := { s.config with regs := regs }
      dev := dev
      chip := s.chip.written chipDuration regs
      asleep := asleep }
  else { s with dev := dev, asleep := asleep }

def pass (s : State) (us : Nat) : State :=
  let s := { s with asleep := s.asleep - us }
  match s.chip.running with
  | none => s
  | some left =>
    if us < left then { s with chip := { s.chip with running := some (left - us) } }
    else
      -- The measurement is over.
      { s with
        config := { s.config with
          regs := Function.update s.config.regs Config.ctrlMeas
            (mode.set (s.config.regs Config.ctrlMeas) 0) }
        chip := ⟨none, true⟩ }

/-- The status that is read is that of the chip. -/
def fetch (s : State) (b : Bus) : State :=
  let b := { b with status := if b.statusRead then s.chip.status b.status else b.status }
  let (raw, dev) := getRawData s.dev b
  { s with
    dev := dev
    fetched := if s.dev.measStarted then s.fetched ++ [(b, raw)] else s.fetched }

variable (heaterResistance : BitVec 16 → Byte)

def step (s : State) : Act → Option State
  | .configure c b =>
    let config := (Config.call heaterResistance s.config b c).2
    if s.asleep = 0 then
      some { s with config := config, chip := s.chip.written chipDuration config.regs }
    else none
  | .force b stored =>
    if s.asleep = 0 then some (force chipDuration portTickPeriodMs s b stored) else none
  | .pass us => some (pass s us)
  | .fetch b => if s.asleep = 0 then some (fetch s b) else none

/-- After the reset the registers are zero. -/
def system : System State Act where
  Init s := s.config.settings = Config.initSettings ∧
    (∀ reg : Config.Reg, s.config.regs reg.address = 0) ∧ s.dev.measStarted = false ∧
    s.chip = ⟨none, false⟩ ∧ s.asleep = 0 ∧ s.fetched = []
  step := step chipDuration portTickPeriodMs heaterResistance

end

/-- The settings reach the chip, and so does the mode only if the call says so. -/
def Steady (s : State) : Act → Prop
  | .configure c b => Config.Carried s.config.settings b c ∧ Config.KeepsGas s.config.settings c
  | .force b stored => modeWritten b stored = true → b.modeWrite = true ∧ b.modeGive = true
  | .pass _ | .fetch _ => True

instance (s : State) : ∀ a, Decidable (Steady s a)
  | .configure _ _ => inferInstanceAs (Decidable (_ ∧ _))
  | .force _ _ => inferInstanceAs (Decidable (_ → _))
  | .pass _ | .fetch _ => .isTrue trivial

/-! ### The delay is long enough -/

/-- The byte for a duration never stands for a longer one. -/
theorem gasWait_heaterDuration_le (duration : BitVec 16) :
    (Config.gasWait (Config.heaterDuration duration)).1 ≤ duration.toNat := by
  by_cases hsmall : duration.toNat < 4096
  · exact (Config.standsFor_heaterDuration hsmall).1
  · have hbyte : ∀ b : Byte, (Config.gasWait b).1 ≤ 4032 := by decide +kernel
    exact Nat.le_trans (hbyte _) (by omega)

theorem conversion_value (osr : Config.OversamplingRate) (extra : Nat) :
    conversion osr.value extra = Config.osrDuration osr extra := by
  cases osr <;> rfl

theorem le_delay (us : Nat) {period : Nat} (h : 0 < period) :
    us ≤ ((us + 999) / 1000 + 5 + period - 1) / period * period * 1000 := by
  have hticks := Nat.lt_div_mul_add h (a := (us + 999) / 1000 + 5 + period - 1)
  generalize ((us + 999) / 1000 + 5 + period - 1) / period * period = t at hticks ⊢
  omega

variable {settings : Config.Settings} {regs : Config.Regs}

theorem gasConversion_le (h : Config.Agree settings regs) (hprofile : settings.heaterProfile < 10) :
    gasConversion regs ≤ if Config.measuresGas settings then
      (settings.heaterDuration settings.heaterProfile.toNat).toNat * 1000 + (2300 + 575)
      else 0 := by
  obtain ⟨hactive, hrun⟩ := h.regs .ctrlGas1
  change Config.nbConv.get (regs Config.ctrlGas1) = _ at hactive
  change Config.runGas.get (regs Config.ctrlGas1) = _ at hrun
  rw [gasConversion, hactive, hrun]
  by_cases hgas : Config.measuresGas settings = true
  · have hused : settings.heaterProfile ≠ -1 := by
      rw [Config.measuresGas, decide_eq_true_iff] at hgas
      exact hgas.1
    have hlow := h.le_profile
    have hindex : settings.heaterProfile.toNat < 10 := by omega
    have hnumber : (Config.activeProfile settings).toNat = settings.heaterProfile.toNat := by
      rw [Config.activeProfile, if_pos hused, BitVec.toNat_ofNat]
      omega
    have hwait : regs (Config.gasWaitBase + settings.heaterProfile.toNat) =
        Config.heaterDuration (settings.heaterDuration settings.heaterProfile.toNat) :=
      h.regs (.gasWait ⟨_, hindex⟩)
    simp only [hgas, if_true, hnumber, hwait]
    have hle := gasWait_heaterDuration_le
      (settings.heaterDuration settings.heaterProfile.toNat)
    omega
  · simp only [hgas]
    exact Nat.le_of_eq (if_neg (by decide))

/-- **The task sleeps long enough**, if the chip has the settings of the driver. -/
theorem maximumDuration_le_delay {period : Nat} (hperiod : 0 < period)
    (h : Config.Agree settings regs) (hprofile : settings.heaterProfile < 10) :
    maximumDuration regs ≤ delay period settings := by
  obtain ⟨hT, hP⟩ := h.regs .ctrlMeas
  have hH := h.regs .ctrlHum
  change Config.osrT.get (regs Config.ctrlMeas) = _ at hT
  change Config.osrP.get (regs Config.ctrlMeas) = _ at hP
  change Config.osrH.get (regs Config.ctrlHum) = _ at hH
  rw [delay, Config.getMeasurementDuration, Nat.add_sub_cancel]
  refine Nat.le_trans ?_ (le_delay _ hperiod)
  rw [maximumDuration, hT, hP, hH, conversion_value, conversion_value, conversion_value]
  exact Nat.add_le_add_left (gasConversion_le h hprofile) _

/-! ### The registers that a call leaves alone -/

theorem mode_update {v : Byte} (h : mode.Holds v) :
    mode.get (Function.update regs Config.ctrlMeas (mode.set (regs Config.ctrlMeas) v)
      Config.ctrlMeas) = v := by
  rw [Function.update_self]
  exact Field.get_set h

/-- The mode is in no field of the settings. -/
theorem agree_mode (h : Config.Agree settings regs) (v : Byte) :
    Config.Agree settings (Function.update regs Config.ctrlMeas
      (mode.set (regs Config.ctrlMeas) v)) := by
  obtain ⟨hT, hP⟩ := h.regs .ctrlMeas
  refine h.meas ⟨?_, ?_⟩
  · rw [Field.get_set_of_disjoint (by decide)]
    exact hT
  · rw [Field.get_set_of_disjoint (by decide)]
    exact hP

/-- A write to a register keeps the mode if what it writes to `ctrl_meas` has it. -/
theorem mode_writeReg8 {reg : Nat} {data : Byte} {w : Config.Write}
    (h : reg = Config.ctrlMeas → mode.get data = mode.get (regs Config.ctrlMeas)) :
    mode.get ((Config.writeReg8 regs reg data w).2 Config.ctrlMeas) =
      mode.get (regs Config.ctrlMeas) := by
  rw [Config.writeReg8]
  dsimp only
  split
  · rfl
  · by_cases hreg : reg = Config.ctrlMeas
    · rw [hreg, Function.update_self, h hreg]
    · rw [Function.update_of_ne (Ne.symm hreg)]

theorem mode_modifyReg8 {reg : Nat} {f : Byte → Byte} {read : Bool} {w : Config.Write}
    (h : reg = Config.ctrlMeas → ∀ v, mode.get (f v) = mode.get v) :
    mode.get ((Config.modifyReg8 regs reg f read w).2 Config.ctrlMeas) =
      mode.get (regs Config.ctrlMeas) := by
  rw [Config.modifyReg8]
  split
  · refine mode_writeReg8 fun hreg => ?_
    rw [h hreg, hreg]
  · rfl

theorem mode_locked {dev : Config.Dev} {b : Config.Bus} {body : Config.Regs → Bool × Config.Regs}
    (h : mode.get ((body dev.regs).2 Config.ctrlMeas) = mode.get (dev.regs Config.ctrlMeas)) :
    mode.get ((Config.locked dev b body).2.regs Config.ctrlMeas) =
      mode.get (dev.regs Config.ctrlMeas) := by
  rw [Config.locked]
  split
  · exact h
  · rfl

theorem mode_setOversamplingRates (dev : Config.Dev) (ost osp osh : Config.OversamplingRate)
    (b : Config.Bus) :
    mode.get ((Config.setOversamplingRates dev ost osp osh b).2.regs Config.ctrlMeas) =
      mode.get (dev.regs Config.ctrlMeas) := by
  have hmeas : ∀ (changedT changedP : Prop) [Decidable changedT] [Decidable changedP] (v : Byte),
      mode.get (let reg := if changedT then Config.osrT.set v ost.value else v
        if changedP then Config.osrP.set reg osp.value else reg) = mode.get v := by
    intro changedT changedP _ _ v
    have hT : mode.get (Config.osrT.set v ost.value) = mode.get v :=
      Field.get_set_of_disjoint (by decide)
    have hP : ∀ v : Byte, mode.get (Config.osrP.set v osp.value) = mode.get v :=
      fun v => Field.get_set_of_disjoint (by decide)
    dsimp only
    split <;> split <;> simp only [hT, hP]
  have hsecond : ∀ first : Bool × Config.Regs,
      mode.get (first.2 Config.ctrlMeas) = mode.get (dev.regs Config.ctrlMeas) →
      mode.get ((if first.1 ∧ dev.settings.osrHumidity ≠ osh then
          Config.modifyReg8 first.2 Config.ctrlHum (fun reg => Config.osrH.set reg osh.value)
            b.read2 b.write2
        else first).2 Config.ctrlMeas) = mode.get (dev.regs Config.ctrlMeas) := by
    intro first hfirst
    split
    · exact (mode_modifyReg8 fun hreg => absurd hreg (by decide)).trans hfirst
    · exact hfirst
  rw [Config.setOversamplingRates]
  split
  · rfl
  · by_cases hchanged : dev.settings.osrTemperature ≠ ost ∨ dev.settings.osrPressure ≠ osp
    · simp only [if_pos hchanged]
      exact mode_locked (hsecond _ (mode_modifyReg8 fun _ v =>
        hmeas (dev.settings.osrTemperature ≠ ost) (dev.settings.osrPressure ≠ osp) v))
    · simp only [if_neg hchanged]
      refine mode_locked ?_
      split
      · exact mode_modifyReg8 fun hreg => absurd hreg (by decide)
      · rfl

theorem mode_setHeaterProfile (heaterResistance : BitVec 16 → Byte) (dev : Config.Dev)
    (profile : Nat) (temperature duration : BitVec 16) (b : Config.Bus) :
    mode.get ((Config.setHeaterProfile heaterResistance dev profile temperature duration
      b).2.regs Config.ctrlMeas) = mode.get (dev.regs Config.ctrlMeas) := by
  by_cases hprofile : profile < 10
  · have hwait : Config.gasWaitBase + profile ≠ Config.ctrlMeas := by
      rw [Config.gasWaitBase, Config.ctrlMeas]
      omega
    have hheat : Config.resHeatBase + profile ≠ Config.ctrlMeas := by
      rw [Config.resHeatBase, Config.ctrlMeas]
      omega
    have hsecond : ∀ first : Bool × Config.Regs,
        mode.get (first.2 Config.ctrlMeas) = mode.get (dev.regs Config.ctrlMeas) →
        mode.get ((if first.1 ∧ dev.settings.heaterDuration profile ≠ duration then
            Config.writeReg8 first.2 (Config.gasWaitBase + profile)
              (Config.heaterDuration duration) b.write2
          else first).2 Config.ctrlMeas) = mode.get (dev.regs Config.ctrlMeas) := by
      intro first hfirst
      split
      · exact (mode_writeReg8 fun hreg => absurd hreg hwait).trans hfirst
      · exact hfirst
    rw [Config.setHeaterProfile, if_neg (not_not_intro hprofile)]
    by_cases hsame : ¬ dev.settings.heaterTemperature profile ≠ temperature ∧
        ¬ dev.settings.heaterDuration profile ≠ duration
    · rw [if_pos hsame]
    · rw [if_neg hsame]
      by_cases hchanged : dev.settings.heaterTemperature profile ≠ temperature
      · simp only [if_pos hchanged]
        exact mode_locked (hsecond _ (mode_writeReg8 fun hreg => absurd hreg hheat))
      · simp only [if_neg hchanged]
        refine mode_locked ?_
        split
        · exact mode_writeReg8 fun hreg => absurd hreg hwait
        · rfl
  · rw [Config.setHeaterProfile, if_pos hprofile]

/-- **No call changes the mode**, whatever fails. -/
theorem mode_call (heaterResistance : BitVec 16 → Byte) (dev : Config.Dev) (b : Config.Bus)
    (c : Config.Call) :
    mode.get ((Config.call heaterResistance dev b c).2.regs Config.ctrlMeas) =
      mode.get (dev.regs Config.ctrlMeas) := by
  cases c with
  | setOversamplingRates ost osp osh => exact mode_setOversamplingRates dev ost osp osh b
  | setFilterSize size =>
    rw [Config.call, Config.setFilterSize]
    split
    · rfl
    · exact mode_locked (mode_modifyReg8 fun hreg => absurd hreg (by decide))
  | setHeaterProfile profile temperature duration =>
    exact mode_setHeaterProfile heaterResistance dev profile temperature duration b
  | useHeaterProfile profile =>
    rw [Config.call, Config.useHeaterProfile]
    split
    · rfl
    · split
      · rfl
      · exact mode_locked (mode_writeReg8 fun hreg => absurd hreg (by decide))

theorem locked_settings (dev : Config.Dev) (b : Config.Bus)
    (body : Config.Regs → Bool × Config.Regs) :
    (Config.locked dev b body).2.settings = dev.settings := by
  rw [Config.locked]
  split <;> rfl

/-- The active profile is one of the ten. -/
theorem profile_call (heaterResistance : BitVec 16 → Byte) {dev : Config.Dev} (b : Config.Bus)
    (c : Config.Call) (h : dev.settings.heaterProfile < 10) :
    (Config.call heaterResistance dev b c).2.settings.heaterProfile < 10 := by
  cases c with
  | setOversamplingRates ost osp osh =>
    rw [Config.call, Config.setOversamplingRates]
    split
    · exact h
    · rw [locked_settings]
      exact h
  | setFilterSize size =>
    rw [Config.call, Config.setFilterSize]
    split
    · exact h
    · rw [locked_settings]
      exact h
  | setHeaterProfile profile temperature duration =>
    rw [Config.call, Config.setHeaterProfile]
    split
    · exact h
    · dsimp only
      split
      · exact h
      · rw [locked_settings]
        exact h
  | useHeaterProfile profile =>
    rw [Config.call, Config.useHeaterProfile]
    split
    · exact h
    · rename_i hrange
      split
      · exact h
      · rw [locked_settings]
        exact (not_not.mp hrange).2

/-! ### The invariant -/

/-- The transfers of `bme680_get_raw_data` succeed. -/
def Transferred (b : Bus) : Prop :=
  (b.statusTake && b.statusRead && b.statusGive) = true ∧
    (b.rawTake && b.rawRead && b.rawGive) = true

instance (b : Bus) : Decidable (Transferred b) := inferInstanceAs (Decidable (_ ∧ _))

/-- **The chip finishes before the task wakes up.** -/
structure OnTime (s : State) : Prop where
  agree : Config.Agree s.config.settings s.config.regs
  profile : s.config.settings.heaterProfile < 10
  idle : s.chip.running = none → mode.get (s.config.regs Config.ctrlMeas) = 0
  left : ∀ us, s.chip.running = some us → 0 < s.asleep ∧ us ≤ s.asleep
  started : s.dev.measStarted = true → s.chip.running = none → s.chip.newData = true
  fetched : ∀ e ∈ s.fetched, Transferred e.1 → ∃ raw, e.2 = .ok raw

variable {s s' : State} {chipDuration : Config.Regs → Nat}

theorem OnTime.awake (h : OnTime s) (hawake : s.asleep = 0) : s.chip.running = none := by
  cases hrunning : s.chip.running with
  | none => rfl
  | some us =>
    have hleft := h.left us hrunning
    omega

theorem OnTime.not_running (h : OnTime s) (hawake : s.asleep = 0) (us : Nat) :
    s.chip.running ≠ some us := by
  rw [h.awake hawake]
  exact nofun

theorem newData_status (chip : Chip) (rest : Byte) :
    newData (chip.status rest) = chip.newData := by
  have hrest : ∀ rest x y : Byte, (rest &&& 0x5f ||| x ||| y) &&& 0x80 =
      x &&& 0x80 ||| y &&& 0x80 := by
    intro rest x y
    rw [BitVec.and_or_distrib_right, BitVec.and_or_distrib_right, BitVec.and_assoc,
      show (0x5f &&& 0x80 : Byte) = 0#8 from rfl, BitVec.and_zero, BitVec.zero_or]
  rw [newData, Chip.status, hrest]
  cases chip.newData <;> cases chip.running.isSome <;> rfl

/-- A measurement that was started and has finished is fetched if the transfers succeed. -/
theorem getRawData_of_new {dev : Dev} {b : Bus} (hstarted : dev.measStarted = true)
    (hnew : newData b.status = true) (h : Transferred b) :
    ∃ raw dev', getRawData dev b = (.ok raw, dev') := by
  have hraw : ∀ dev, ∃ raw dev', readRaw dev b = (.ok raw, dev') := fun dev =>
    ⟨_, _, readRaw_eq_ok.mpr ⟨h.2, rfl, rfl⟩⟩
  rw [getRawData, if_neg (not_not_intro hstarted)]
  by_cases hold : newData dev.measStatus = true
  · rw [if_pos hold]
    exact hraw dev
  · rw [if_neg hold, readStatus_ok h.1]
    dsimp only
    rw [if_pos hnew]
    exact hraw _

theorem Chip.written_of_idle (chip : Chip) {regs : Config.Regs}
    (h : mode.get (regs Config.ctrlMeas) = 0) : chip.written chipDuration regs = chip := by
  rw [Chip.written, h]
  exact if_neg (by decide)

theorem OnTime.configure {heaterResistance : BitVec 16 → Byte} (h : OnTime s)
    (hawake : s.asleep = 0) {c : Config.Call} {b : Config.Bus}
    (hok : Config.Carried s.config.settings b c ∧ Config.KeepsGas s.config.settings c) :
    OnTime { s with
      config := (Config.call heaterResistance s.config b c).2
      chip := s.chip.written chipDuration (Config.call heaterResistance s.config b c).2.regs } := by
  have hmode : mode.get ((Config.call heaterResistance s.config b c).2.regs Config.ctrlMeas) =
      0 := by
    rw [mode_call, h.idle (h.awake hawake)]
  rw [Chip.written_of_idle _ hmode]
  exact { h with
    agree := h.agree.call hok.1 hok.2
    profile := profile_call heaterResistance b c h.profile
    idle := fun _ => hmode }

theorem OnTime.force {period : Nat} (hperiod : 0 < period) (hchip : AtMostMaximum chipDuration)
    (h : OnTime s) (hawake : s.asleep = 0) {b : Bus} {stored : Bool}
    (hok : modeWritten b stored = true → b.modeWrite = true ∧ b.modeGive = true) :
    OnTime (force chipDuration period s b stored) := by
  have hnone := h.not_running hawake
  rw [Cycle.force]
  by_cases hstarted : s.dev.measStarted = true
  · have hforce : forceMeasurement s.dev b = (.error .invalidState, s.dev) := by
      rw [forceMeasurement, if_pos hstarted]
    rw [hforce]
    dsimp only
    rw [if_neg fun hwritten => hwritten.1 hstarted]
    exact { h with left := fun us hrunning => absurd hrunning (hnone us) }
  · by_cases hwritten : modeWritten b stored = true
    · obtain ⟨hwrite, hgive⟩ := hok hwritten
      have hmode : (b.modeTake && b.modeRead && b.modeWrite && b.modeGive) = true := by
        rw [modeWritten, hwrite, Bool.true_or, Bool.and_true] at hwritten
        rw [hwritten, hwrite, hgive]
        rfl
      have hforce := forceMeasurement_eq_ok.mpr ⟨Bool.eq_false_iff.mpr hstarted, hmode, rfl⟩
      rw [hforce]
      dsimp only
      rw [if_pos ⟨hstarted, hwritten⟩]
      have hagree := agree_mode h.agree 1
      rw [Chip.written, if_pos (mode_update (by decide))]
      refine ⟨hagree, h.profile, fun hrunning => (by cases hrunning), fun us hus => ?_,
        fun _ hrunning => (by cases hrunning), h.fetched⟩
      cases hus
      have hdelay := maximumDuration_le_delay hperiod hagree h.profile
      have hpositive : 0 < maximumDuration (Function.update s.config.regs Config.ctrlMeas
          (mode.set (s.config.regs Config.ctrlMeas) 1)) := by
        rw [maximumDuration]
        omega
      exact ⟨Nat.lt_of_lt_of_le hpositive hdelay, Nat.le_trans (hchip _) hdelay⟩
    · have hforce : forceMeasurement s.dev b = (.error .bus, s.dev) := by
        have hmode : ¬ (b.modeTake && b.modeRead && b.modeWrite && b.modeGive) = true := by
          intro hmode
          simp only [Bool.and_eq_true] at hmode
          refine hwritten ?_
          rw [modeWritten, hmode.1.1.1, hmode.1.1.2, hmode.1.2]
          rfl
        rw [forceMeasurement, if_neg hstarted, setMode, if_neg hmode]
      rw [hforce]
      dsimp only
      rw [if_neg fun h => hwritten h.2]
      exact { h with left := fun us hrunning => absurd hrunning (hnone us) }

theorem OnTime.pass (h : OnTime s) (us : Nat) : OnTime (pass s us) := by
  rw [Cycle.pass]
  cases hrunning : s.chip.running with
  | none =>
    exact { h with left := fun left hleft => by cases hrunning.symm.trans hleft }
  | some left =>
    have hleft := h.left left hrunning
    dsimp only
    by_cases hus : us < left
    · rw [if_pos hus]
      refine { h with
        idle := nofun
        left := fun x hx => ?_
        started := fun _ hx => (by cases hx) }
      cases hx
      dsimp only
      omega
    · rw [if_neg hus]
      exact { h with
        agree := agree_mode h.agree 0
        idle := fun _ => mode_update (by decide)
        left := nofun
        started := fun _ _ => rfl }

theorem OnTime.fetch (h : OnTime s) (hawake : s.asleep = 0) (b : Bus) : OnTime (fetch s b) := by
  have hidle := h.awake hawake
  rw [Cycle.fetch]
  dsimp only
  by_cases hstarted : s.dev.measStarted = true
  · rw [if_pos hstarted]
    refine { h with
      started := fun _ => h.started hstarted
      fetched := forall_mem_concat h.fetched fun htransferred => ?_ }
    have hnew : newData (if b.statusRead then s.chip.status b.status else b.status) = true := by
      have hread : b.statusRead = true := by
        have hstatus : (b.statusTake && b.statusRead && b.statusGive) = true := htransferred.1
        simp only [Bool.and_eq_true] at hstatus
        exact hstatus.1.2
      rw [if_pos hread, newData_status]
      exact h.started hstarted hidle
    obtain ⟨raw, dev', hraw⟩ := getRawData_of_new hstarted hnew htransferred
    exact ⟨raw, by rw [hraw]⟩
  · rw [if_neg hstarted, getRawData, if_pos hstarted]
    exact { h with }

theorem OnTime.step {period : Nat} (hperiod : 0 < period) (hchip : AtMostMaximum chipDuration)
    {heaterResistance : BitVec 16 → Byte} {a : Act} (h : OnTime s) (hok : Steady s a)
    (hs : step chipDuration period heaterResistance s a = some s') : OnTime s' := by
  cases a with
  | configure c b =>
    obtain ⟨hawake, hs⟩ := Option.ite_none_right_eq_some.mp hs
    exact Option.some.inj hs ▸ h.configure hawake hok
  | force b stored =>
    obtain ⟨hawake, hs⟩ := Option.ite_none_right_eq_some.mp hs
    exact Option.some.inj hs ▸ h.force hperiod hchip hawake hok
  | pass us => exact Option.some.inj hs ▸ h.pass us
  | fetch b =>
    obtain ⟨hawake, hs⟩ := Option.ite_none_right_eq_some.mp hs
    exact Option.some.inj hs ▸ h.fetch hawake b

/-! ### A run -/

section

variable {period : Nat} {heaterResistance : BitVec 16 → Byte}

theorem onTime_of_steady (hperiod : 0 < period) (hchip : AtMostMaximum chipDuration)
    (h : (system chipDuration period heaterResistance).Reaches Steady s) : OnTime s := by
  refine h.invariant ?_ fun s a s' hp hok hs => hp.step hperiod hchip hok hs
  rintro s ⟨hsettings, hregs, hstarted, hchip, -, hfetched⟩
  refine ⟨?_, ?_, fun _ => ?_, fun us hus => ?_, fun hs => ?_, fun e he => ?_⟩
  · rw [hsettings]
    exact Config.agree_boot hregs
  · rw [hsettings]
    decide
  · rw [show s.config.regs Config.ctrlMeas = 0 from hregs .ctrlMeas]
    rfl
  · rw [hchip] at hus
    cases hus
  · rw [hstarted] at hs
    cases hs
  · rw [hfetched] at he
    cases he

/-- **While the task is awake, the chip sleeps**: no call reaches it in a measurement. -/
theorem idle_of_awake (hperiod : 0 < period) (hchip : AtMostMaximum chipDuration)
    (h : (system chipDuration period heaterResistance).Reaches Steady s)
    (hawake : s.asleep = 0) :
    s.chip.running = none ∧ mode.get (s.config.regs Config.ctrlMeas) = 0 := by
  have hontime := onTime_of_steady hperiod hchip h
  exact ⟨hontime.awake hawake, hontime.idle (hontime.awake hawake)⟩

/-- **A measurement is finished when it is fetched**: `bme680_get_raw_data` fails only if one
of its transfers does. -/
theorem fetched_of_steady (hperiod : 0 < period) (hchip : AtMostMaximum chipDuration)
    (h : (system chipDuration period heaterResistance).Reaches Steady s) :
    ∀ e ∈ s.fetched, Transferred e.1 → ∃ raw, e.2 = .ok raw :=
  (onTime_of_steady hperiod hchip h).fetched

end

/-! ### The calls of the program -/

def boot : State where
  config := ⟨Config.initSettings, fun _ => 0⟩
  dev := ⟨false, 0, 0⟩
  chip := ⟨none, false⟩
  asleep := 0
  fetched := []

theorem boot_init : (system maximumDuration 10 Config.someResistance).Init boot :=
  ⟨rfl, fun _ => rfl, rfl, rfl, rfl, rfl⟩

/-- A chip that always takes the maximum. -/
theorem atMostMaximum_self : AtMostMaximum maximumDuration := fun _ => Nat.le_refl _

def configure : List Act :=
  (Config.initSensor ++ Config.bme680Test).map fun c => .configure c Config.cleanBus

/-- The first measurement, after 200 ms. -/
def measureOnce : List Act := configure ++ [.force cleanBus false, .pass 200000]

theorem idle_of_awake_measured :
    ∃ s, (system maximumDuration 10 Config.someResistance).Reaches Steady s ∧
      s.asleep = 0 ∧ s.dev.measStarted = true ∧ s.chip.running = none ∧
      mode.get (s.config.regs Config.ctrlMeas) = 0 := by
  have hrun : ∃ s, (system maximumDuration 10 Config.someResistance).Reaches Steady s ∧
      s.asleep = 0 ∧ s.dev.measStarted = true :=
    System.exists_of_execute measureOnce boot_init (by decide +kernel)
  obtain ⟨s, hs, hawake, hstarted⟩ := hrun
  exact ⟨s, hs, hawake, hstarted, idle_of_awake (by decide) atMostMaximum_self hs hawake⟩

theorem fetched_of_steady_measured :
    ∃ s, (system maximumDuration 10 Config.someResistance).Reaches Steady s ∧
      s.fetched.length = 1 ∧ ∀ e ∈ s.fetched, Transferred e.1 → ∃ raw, e.2 = .ok raw := by
  have hrun : ∃ s, (system maximumDuration 10 Config.someResistance).Reaches Steady s ∧
      s.fetched.length = 1 :=
    System.exists_of_execute (measureOnce ++ [.fetch cleanBus]) boot_init (by decide +kernel)
  obtain ⟨s, hs, hlength⟩ := hrun
  exact ⟨s, hs, hlength, fetched_of_steady (by decide) atMostMaximum_self hs⟩

/-- The chip still heats for 150 ms, and the driver reckons with 100 ms. -/
theorem exists_unfinished :
    ∃ s, (system maximumDuration 10 Config.someResistance).Reachable s ∧
      ∃ e ∈ s.fetched, Transferred e.1 ∧ e.2 = .error .invalidState :=
  System.exists_of_execute
    (Config.initSensor.map (fun c => Act.configure c Config.cleanBus) ++
      [.configure (.setHeaterProfile 0 200 100) { Config.cleanBus with write2 := .lost },
        .force cleanBus false, .pass 120000, .fetch cleanBus])
    boot_init (by decide +kernel)

end Datk.Sensor.Cycle
