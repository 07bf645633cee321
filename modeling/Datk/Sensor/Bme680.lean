import Datk.Lib.Buffer
import Datk.Lib.System
import Datk.Sensor.Values

/-!
# The measurement loop of `bme680_test`

The loop starts a measurement, waits, fetches the results and enqueues
`bme680_data`, whether there were results or not.  The driver remembers in
`meas_started` that a measurement was started, and forgets it only once it has
seen new data.  A status that cannot be read, or that shows no new data, leaves
the flag set, and `bme680_force_measurement` then fails in every later iteration.

`genuine_iff` says that the values enqueued are measured values exactly if no
transaction ever failed.  The compensation formulas are the parameter `c`.
-/

namespace Datk.Sensor

open Lib

inductive EspErr
  | invalidState
  | invalidResponse
  /-- What a failed transfer or mutex returned. -/
  | bus
  deriving DecidableEq, Repr

/-- What becomes of the transactions of an iteration: each mutex and transfer
succeeds or fails. -/
structure Bus where
  modeTake : Bool
  modeRead : Bool
  modeWrite : Bool
  modeGive : Bool
  statusTake : Bool
  statusRead : Bool
  statusGive : Bool
  /-- The status byte, or what a failed transfer leaves in its place. -/
  status : Byte
  rawTake : Bool
  rawRead : Bool
  rawGive : Bool
  /-- The registers from `BME680_REG_RAW_DATA_0` on. -/
  raw : Buffer Byte 15
  deriving DecidableEq

/-- The fields of `bme680_t` that change in the loop. -/
structure Dev where
  measStarted : Bool
  measStatus : Byte
  tFine : Int
  deriving DecidableEq, Repr

/-- `bme680_settings_t`, as far as fetching results looks at it. -/
structure Settings where
  osrTemperature : Nat
  osrPressure : Nat
  osrHumidity : Nat
  heaterProfile : Int
  deriving DecidableEq, Repr

/-- `bme680_convert_temperature`, with the `t_fine` it leaves, and the conversions
that use it. -/
structure Compensation where
  temperature : Nat → Int × Int
  pressure : Int → Nat → Nat
  humidity : Int → Nat → Nat
  gas : Nat → Nat → Nat

structure RawData where
  gasValid : Bool
  heaterStable : Bool
  temperature : Nat
  pressure : Nat
  humidity : Nat
  gasResistance : Nat
  gasRange : Nat
  gasIndex : Nat
  deriving DecidableEq, Repr

/-! ### The driver -/

/-- `bme680_set_mode(dev, BME680_FORCED_MODE)`. -/
def setMode (b : Bus) : Except EspErr Unit :=
  if b.modeTake && b.modeRead && b.modeWrite && b.modeGive then .ok () else .error .bus

def forceMeasurement (dev : Dev) (b : Bus) : Except EspErr Unit × Dev :=
  if dev.measStarted then (.error .invalidState, dev)
  else match setMode b with
    | .error e => (.error e, dev)
    | .ok () => (.ok (), { dev with measStarted := true, measStatus := 0 })

/-- `read_reg_8(dev, BME680_REG_MEAS_STATUS_0, &dev->meas_status)`. -/
def readStatus (dev : Dev) (b : Bus) : Except EspErr Unit × Dev :=
  if b.statusTake then
    (if b.statusRead && b.statusGive then .ok () else .error .bus,
      { dev with measStatus := b.status })
  else (.error .bus, dev)

def msbLsbXlsb (raw : Buffer Byte 15) (o : Nat) : Nat :=
  (raw.cells.getD o 0).toNat <<< 12 ||| (raw.cells.getD (o + 1) 0).toNat <<< 4 |||
    (raw.cells.getD (o + 2) 0).toNat >>> 4

/-- The fields of `bme680_raw_data_t` in the registers. -/
def unpack (raw : Buffer Byte 15) (status : Byte) : RawData :=
  let g : Byte := raw.cells.getD 14 0
  { gasValid := g &&& 0x20 ≠ 0
    heaterStable := g &&& 0x10 ≠ 0
    temperature := msbLsbXlsb raw 5
    pressure := msbLsbXlsb raw 2
    humidity := (raw.cells.getD 8 0).toNat <<< 8 ||| (raw.cells.getD 9 0).toNat
    gasResistance := (raw.cells.getD 13 0).toNat <<< 2 ||| g.toNat >>> 6
    gasRange := (g &&& 0x0f).toNat
    gasIndex := (status &&& 0x0f).toNat }

/-- `BME680_NEW_DATA_BITS` are set in the status. -/
def newData (status : Byte) : Bool := status &&& 0x80 ≠ 0

def readRaw (dev : Dev) (b : Bus) : Except EspErr RawData × Dev :=
  (if b.rawTake && b.rawRead && b.rawGive then .ok (unpack b.raw dev.measStatus)
    else .error .bus, { dev with measStarted := false })

def getRawData (dev : Dev) (b : Bus) : Except EspErr RawData × Dev :=
  if ¬ dev.measStarted then (.error .invalidState, dev)
  else if newData dev.measStatus then readRaw dev b
  else match readStatus dev b with
    | (.error e, dev) => (.error e, dev)
    | (.ok (), dev) =>
      if newData dev.measStatus then readRaw dev b
      else (.error (if dev.measStatus &&& 0x20 ≠ 0 then .invalidState else .invalidResponse), dev)

section

variable (c : Compensation) (settings : Settings)

/-- The compensation of `bme680_get_results_fixed`, over its invalid values. -/
def compensate (tFine : Int) (raw : RawData) : ValuesFixed × Int :=
  let (temperature, tFine) :=
    if settings.osrTemperature ≠ 0 then c.temperature raw.temperature else (-2 ^ 15, tFine)
  ({ temperature := temperature
     pressure := if settings.osrPressure ≠ 0 then c.pressure tFine raw.pressure else 0
     humidity := if settings.osrHumidity ≠ 0 then c.humidity tFine raw.humidity else 0
     gasResistance :=
      if settings.heaterProfile ≠ -1 ∧ raw.gasValid ∧ raw.heaterStable then
        c.gas raw.gasResistance raw.gasRange
      else 0 }, tFine)

/-- `bme680_get_results_float`: the values, unless it fails. -/
def getResultsFloat (dev : Dev) (b : Bus) : Except EspErr ValuesFloat × Dev :=
  match getRawData dev b with
  | (.error e, dev) => (.error e, dev)
  | (.ok raw, dev) =>
    let (fixed, tFine) := compensate c settings dev.tFine raw
    (.ok fixed.toFloat, { dev with tFine := tFine })

/-! ### The loop -/

/-- An iteration: what its transactions did, what was measured, if
`bme680_get_results_float` returned `ESP_OK`, and what was enqueued. -/
structure Iteration where
  bus : Bus
  measured : Option ValuesFloat
  enqueued : ValuesFloat
  deriving DecidableEq

structure State where
  dev : Dev
  bme680Data : ValuesFloat
  log : List Iteration
  deriving DecidableEq

/-- What is measured in an iteration, and the driver after it. -/
def measure (dev : Dev) (b : Bus) : Option ValuesFloat × Dev :=
  match forceMeasurement dev b with
  | (.error _, dev) => (none, dev)
  | (.ok (), dev) =>
    match getResultsFloat c settings dev b with
    | (.error _, dev) => (none, dev)
    | (.ok v, dev) => (some v, dev)

/-- An iteration of `bme680_test`, `main/app_main.c`. -/
def step (s : State) (b : Bus) : Option State :=
  let (measured, dev) := measure c settings s.dev b
  let data := measured.getD s.bme680Data
  some { dev := dev, bme680Data := data, log := s.log ++ [⟨b, measured, data⟩] }

/-- After `bme680_init_sensor`; `bme680_data` and `t_fine` are not initialised. -/
def boot (junk : ValuesFloat) (tFine : Int) : State := ⟨⟨false, 0, tFine⟩, junk, []⟩

def system : System State Bus where
  Init s := ∃ junk tFine, s = boot junk tFine
  step := step c settings

end

/-- Every transaction succeeds, and the status shows new data. -/
structure Bus.Clean (b : Bus) : Prop where
  mode : (b.modeTake && b.modeRead && b.modeWrite && b.modeGive) = true
  status : (b.statusTake && b.statusRead && b.statusGive) = true
  new : newData b.status = true
  raw : (b.rawTake && b.rawRead && b.rawGive) = true

/-- **No sample is made up, and no fault is absorbing.** -/
structure Genuine (s : State) : Prop where
  fresh : ∀ i ∈ s.log, i.measured = some i.enqueued
  recovers : ∀ i ∈ s.log, i.bus.Clean → i.measured ≠ none

/-! ### One iteration -/

section

variable {c : Compensation} {settings : Settings}

theorem measure_of_started {dev : Dev} (h : dev.measStarted = true) (b : Bus) :
    measure c settings dev b = (none, dev) := by
  simp only [measure, forceMeasurement, h, if_true]

theorem forceMeasurement_eq_ok {dev dev' : Dev} {b : Bus} :
    forceMeasurement dev b = (.ok (), dev') ↔ dev.measStarted = false ∧
      (b.modeTake && b.modeRead && b.modeWrite && b.modeGive) = true ∧
      dev' = { dev with measStarted := true, measStatus := 0 } := by
  by_cases hstarted : dev.measStarted = true
  · simp [forceMeasurement, hstarted]
  · by_cases hmode : (b.modeTake && b.modeRead && b.modeWrite && b.modeGive) = true
    · simp only [forceMeasurement, hstarted, setMode, hmode]
      simp [eq_comm]
    · simp only [forceMeasurement, hstarted, setMode, hmode]
      simp

theorem readStatus_ok {dev : Dev} {b : Bus}
    (h : (b.statusTake && b.statusRead && b.statusGive) = true) :
    readStatus dev b = (.ok (), { dev with measStatus := b.status }) := by
  simp only [Bool.and_eq_true] at h
  simp [readStatus, h]

theorem readStatus_error (dev : Dev) {b : Bus}
    (h : ¬ (b.statusTake && b.statusRead && b.statusGive) = true) :
    ∃ dev', readStatus dev b = (.error .bus, dev') := by
  by_cases htake : b.statusTake = true
  · rw [htake, Bool.true_and] at h
    exact ⟨{ dev with measStatus := b.status }, by rw [readStatus, if_pos htake, if_neg h]⟩
  · exact ⟨dev, by rw [readStatus, if_neg htake]⟩

theorem readRaw_eq_ok {dev dev' : Dev} {b : Bus} {raw : RawData} :
    readRaw dev b = (.ok raw, dev') ↔ (b.rawTake && b.rawRead && b.rawGive) = true ∧
      raw = unpack b.raw dev.measStatus ∧ dev' = { dev with measStarted := false } := by
  by_cases hraw : (b.rawTake && b.rawRead && b.rawGive) = true
  · simp only [readRaw, hraw]
    simp [eq_comm]
  · simp only [readRaw, hraw]
    simp

/-- With no new data seen before, raw data are fetched only if the status can be
read and shows some. -/
theorem getRawData_eq_ok (dev : Dev) {dev' : Dev} {b : Bus} {raw : RawData}
    (hold : newData dev.measStatus = false) :
    getRawData dev b = (.ok raw, dev') ↔ dev.measStarted = true ∧
      (b.statusTake && b.statusRead && b.statusGive) = true ∧ newData b.status = true ∧
      (b.rawTake && b.rawRead && b.rawGive) = true ∧ raw = unpack b.raw b.status ∧
      dev' = { dev with measStarted := false, measStatus := b.status } := by
  by_cases hstarted : dev.measStarted = true
  · by_cases hstatus : (b.statusTake && b.statusRead && b.statusGive) = true
    · by_cases hnew : newData b.status = true
      · simp only [getRawData, hstarted, hold, readStatus_ok hstatus, hstatus, hnew,
          not_true_eq_false, if_false, Bool.false_eq_true, if_true, readRaw_eq_ok, true_and]
      · simp only [getRawData, hstarted, hold, readStatus_ok hstatus, hnew]
        simp
    · obtain ⟨d, hd⟩ := readStatus_error dev hstatus
      simp only [getRawData, hstarted, hold, hd, hstatus]
      simp
  · simp [getRawData, hstarted]

theorem newData_zero : newData 0 = false := by decide

theorem measure_of_clean (c : Compensation) (settings : Settings) {dev : Dev} {b : Bus}
    (h : dev.measStarted = false) (hb : b.Clean) :
    ∃ v dev', measure c settings dev b = (some v, dev') ∧ dev'.measStarted = false := by
  have hforce := forceMeasurement_eq_ok.mpr ⟨h, hb.mode, rfl⟩
  have hraw := (getRawData_eq_ok { dev with measStarted := true, measStatus := 0 }
    newData_zero).mpr ⟨rfl, hb.status, hb.new, hb.raw, rfl, rfl⟩
  simp only [measure, hforce, getResultsFloat, hraw]
  exact ⟨_, _, rfl, rfl⟩

theorem clean_of_measure {dev dev' : Dev} {b : Bus} {v : ValuesFloat}
    (h : measure c settings dev b = (some v, dev')) : b.Clean := by
  cases hforce : forceMeasurement dev b with
  | mk r d =>
    cases r with
    | error e =>
      simp only [measure, hforce] at h
      exact nomatch h
    | ok u =>
      obtain ⟨-, hmode, rfl⟩ := forceMeasurement_eq_ok.mp hforce
      cases hraw : getRawData { dev with measStarted := true, measStatus := 0 } b with
      | mk r d =>
        cases r with
        | error e =>
          simp only [measure, hforce, getResultsFloat, hraw] at h
          exact nomatch h
        | ok raw =>
          obtain ⟨-, hstatus, hnew, hread, -⟩ := (getRawData_eq_ok _ newData_zero).mp hraw
          exact ⟨hmode, hstatus, hnew, hread⟩

/-! ### A run -/

theorem step_eq (s : State) (b : Bus) : (system c settings).step s b = some {
    dev := (measure c settings s.dev b).2
    bme680Data := (measure c settings s.dev b).1.getD s.bme680Data
    log := s.log ++ [⟨b, (measure c settings s.dev b).1,
      (measure c settings s.dev b).1.getD s.bme680Data⟩] } :=
  rfl

/-- In any run, what was measured was measured without a fault. -/
theorem clean_of_measured {s : State} (h : (system c settings).Reachable s) :
    ∀ i ∈ s.log, i.measured ≠ none → i.bus.Clean := by
  refine h.invariant (P := fun s => ∀ i ∈ s.log, i.measured ≠ none → i.bus.Clean) ?_ ?_
  · rintro _ ⟨junk, tFine, rfl⟩ i hi
    exact absurd hi List.not_mem_nil
  · intro s b s' hp _ hs
    rw [step_eq, Option.some.injEq] at hs
    subst hs
    refine forall_mem_concat hp fun hm => ?_
    obtain ⟨v, hv⟩ := Option.ne_none_iff_exists'.mp hm
    exact clean_of_measure (Prod.ext hv rfl)

/-- As long as there is no fault, the driver stays ready and every iteration
enqueues what it measured. -/
theorem fresh_of_clean {s : State} (h : (system c settings).Reachable s)
    (hclean : ∀ i ∈ s.log, i.bus.Clean) :
    s.dev.measStarted = false ∧ ∀ i ∈ s.log, i.measured = some i.enqueued := by
  refine h.invariant (P := fun s => (∀ i ∈ s.log, i.bus.Clean) →
    s.dev.measStarted = false ∧ ∀ i ∈ s.log, i.measured = some i.enqueued) ?_ ?_ hclean
  · rintro _ ⟨junk, tFine, rfl⟩ -
    exact ⟨rfl, fun i hi => absurd hi List.not_mem_nil⟩
  · intro s b s' hp _ hs hclean
    rw [step_eq, Option.some.injEq] at hs
    subst hs
    obtain ⟨hready, hfresh⟩ := hp fun i hi => hclean i (List.mem_append_left _ hi)
    have hb : b.Clean := hclean _ (List.mem_append_right _ List.mem_cons_self)
    obtain ⟨v, dev', hv, hdev⟩ := measure_of_clean c settings hready hb
    simp only [hv]
    exact ⟨hdev, forall_mem_concat hfresh rfl⟩

/-- **The values enqueued are measured exactly as long as there is no fault.** -/
theorem genuine_iff {s : State} (h : (system c settings).Reachable s) :
    Genuine s ↔ ∀ i ∈ s.log, i.bus.Clean := by
  constructor
  · intro hg i hi
    refine clean_of_measured h i hi ?_
    rw [hg.fresh i hi]
    exact Option.some_ne_none _
  · intro hclean
    obtain ⟨-, hfresh⟩ := fresh_of_clean h hclean
    refine ⟨hfresh, fun i hi _ => ?_⟩
    rw [hfresh i hi]
    exact Option.some_ne_none _

/-- **A fault that leaves the measurement marked as started is absorbing**: from
then on every iteration enqueues the value of the last one. -/
theorem stuck_of_started {s t : State} (hs : s.dev.measStarted = true)
    (ht : ((system c settings).startAt s).Reachable t) :
    t.dev = s.dev ∧ t.bme680Data = s.bme680Data ∧
      ∃ later, t.log = s.log ++ later ∧
        ∀ i ∈ later, i.measured = none ∧ i.enqueued = s.bme680Data := by
  refine ht.invariant (P := fun t => t.dev = s.dev ∧ t.bme680Data = s.bme680Data ∧
    ∃ later, t.log = s.log ++ later ∧
      ∀ i ∈ later, i.measured = none ∧ i.enqueued = s.bme680Data) ?_ ?_
  · rintro _ rfl
    exact ⟨rfl, rfl, [], (List.append_nil _).symm, fun i hi => absurd hi List.not_mem_nil⟩
  · rintro t b t' ⟨hdev, hdata, later, hlog, hlater⟩ - hstep
    have hstep : (system c settings).step t b = some t' := hstep
    rw [step_eq, measure_of_started (hdev ▸ hs), Option.some.injEq] at hstep
    subst hstep
    refine ⟨hdev, hdata, later ++ [⟨b, none, t.bme680Data⟩], ?_,
      forall_mem_concat hlater ⟨rfl, hdata⟩⟩
    rw [← List.append_assoc, ← hlog]
    rfl

end

/-! ### A fault -/

def someCompensation : Compensation where
  temperature raw := (raw, 0)
  pressure _ raw := raw
  humidity _ raw := raw
  gas raw _ := raw

def testSettings : Settings := ⟨3, 3, 2, 0⟩

def cleanBus : Bus :=
  { modeTake := true, modeRead := true, modeWrite := true, modeGive := true
    statusTake := true, statusRead := true, statusGive := true, status := 0x80
    rawTake := true, rawRead := true, rawGive := true, raw := .fill 15 0 }

def faultyBus : Bus := { cleanBus with statusRead := false, status := 0 }

/-- What `bme680_data` happens to be at the start. -/
def junkValues : ValuesFloat := ⟨0, 0, 0, 0⟩

theorem genuine_iff_after_fault :
    ∃ s, (system someCompensation testSettings).Reachable s ∧ s.log.length = 2 ∧
      (Genuine s ↔ ∀ i ∈ s.log, i.bus.Clean) := by
  have hrun : ∃ s, (system someCompensation testSettings).Reachable s ∧ s.log.length = 2 :=
    System.exists_of_execute [cleanBus, faultyBus] ⟨junkValues, 0, rfl⟩ (by decide +kernel)
  obtain ⟨s, hs, hlog⟩ := hrun
  exact ⟨s, hs, hlog, genuine_iff hs⟩

/-- After the fault nothing is measured any more: an iteration without a fault
enqueues what was there before. -/
theorem not_genuine :
    (¬ ∀ s, (system someCompensation testSettings).Reachable s →
      ∀ i ∈ s.log, i.measured = some i.enqueued) ∧
    (¬ ∀ s, (system someCompensation testSettings).Reachable s →
      ∀ i ∈ s.log, i.bus.Clean → i.measured ≠ none) := by
  have hrun : ∃ s, (system someCompensation testSettings).Reachable s ∧
      ⟨cleanBus, none, junkValues⟩ ∈ s.log :=
    System.exists_of_execute [faultyBus, cleanBus] ⟨junkValues, 0, rfl⟩ (by decide +kernel)
  obtain ⟨s, hs, hi⟩ := hrun
  refine ⟨fun h => ?_, fun h => ?_⟩
  · exact Option.some_ne_none _ (h s hs _ hi).symm
  · exact h s hs _ hi ⟨by decide, by decide, by decide, by decide⟩ rfl

end Datk.Sensor
