import Datk.Rtc.Device

/-!
# What the clock is for

A `Clock` is the chip as its users see it: a time of day and a day, neither of which need
be known, whether it runs, whether it may be written, and the RAM.  `Memory.abs` is the
clock that the registers stand for.

`answers_clock` says that the driver on its pins is such a clock, in two simulations, one
down to the register file and one from there.  The calls have to be `Lawful`: a date-time
that is set is one that there is, with a day of the week from 0 on, and the registers are not
accessed one by one.  A Sunday, which is zero, makes the day unknown.

On a chip that is protected nothing can be set.  `abs_of_protected` says so of all the calls,
also of those that are not lawful.
-/

namespace Datk.Rtc

/-! ### The clock -/

structure Day where
  dayWeek : Byte
  dayMonth : Byte
  month : Byte
  year : BitVec 16
  deriving DecidableEq, Repr

def DateTime.timeOfDay (d : DateTime) : TimeOfDay := ⟨d.hour, d.minute, d.second⟩

def DateTime.day (d : DateTime) : Day := ⟨d.dayWeek, d.dayMonth, d.month, d.year⟩

def Day.dateTime (day : Day) (t : TimeOfDay) : DateTime :=
  ⟨t.second, t.minute, t.hour, day.dayWeek, day.dayMonth, day.month, day.year⟩

structure Clock where
  time : Option TimeOfDay
  day : Option Day
  running : Bool
  writable : Bool
  ram : Fin 31 → Byte

/-- The seconds, the minutes and the hours are those of a time of day. -/
structure Registers.TimeInRange (r : Registers) : Prop where
  seconds : digits (r.seconds &&& 0x7f) ≤ 59
  minutes : digits r.minutes ≤ 59
  hours : digits r.hours ≤ 23

/-- The other registers are those of a day. -/
structure Registers.DayInRange (r : Registers) : Prop where
  one_le_dayMonth : 1 ≤ digits r.dayMonth
  dayMonth : digits r.dayMonth ≤ 31
  one_le_month : 1 ≤ digits r.month
  month : digits r.month ≤ 12
  one_le_dayWeek : 1 ≤ digits r.dayWeek
  dayWeek : digits r.dayWeek ≤ 7
  year : digits r.year ≤ 99

instance (r : Registers) : Decidable r.TimeInRange :=
  decidable_of_iff (digits (r.seconds &&& 0x7f) ≤ 59 ∧ digits r.minutes ≤ 59 ∧ digits r.hours ≤ 23)
    ⟨fun ⟨h1, h2, h3⟩ => ⟨h1, h2, h3⟩, fun ⟨h1, h2, h3⟩ => ⟨h1, h2, h3⟩⟩

instance (r : Registers) : Decidable r.DayInRange :=
  decidable_of_iff (1 ≤ digits r.dayMonth ∧ digits r.dayMonth ≤ 31 ∧ 1 ≤ digits r.month ∧
      digits r.month ≤ 12 ∧ 1 ≤ digits r.dayWeek ∧ digits r.dayWeek ≤ 7 ∧ digits r.year ≤ 99)
    ⟨fun ⟨h1, h2, h3, h4, h5, h6, h7⟩ => ⟨h1, h2, h3, h4, h5, h6, h7⟩,
      fun ⟨h1, h2, h3, h4, h5, h6, h7⟩ => ⟨h1, h2, h3, h4, h5, h6, h7⟩⟩

def Registers.timeOfDay (r : Registers) : Option TimeOfDay :=
  if r.TimeInRange then some r.decode.timeOfDay else none

def Registers.day (r : Registers) : Option Day :=
  if r.DayInRange then some r.decode.day else none

/-- The clock that the registers stand for. -/
def Memory.abs (m : Memory) : Clock where
  time := m.clock.timeOfDay
  day := m.clock.day
  running := !isHalted m.clock
  writable := !isWriteProtected m.clock
  ram := m.ram

namespace Clock

def halt (c : Clock) (on : Bool) : Clock := if c.writable then { c with running := !on } else c

/-- On a clock that may not be written, the date-time is lost. -/
def setDateTime (c : Clock) (d : DateTime) : Clock :=
  if c.writable then
    { c with time := some d.timeOfDay, day := if d.dayWeek = 0 then none else some d.day }
  else c

/-- The day is kept if the time was known. -/
def setTime (c : Clock) (t : TimeOfDay) : Clock :=
  if c.writable then { c with time := some t, day := if c.time.isSome then c.day else none } else c

def getTime (c : Clock) : Bool × TimeOfDay :=
  match c.time with
  | some t => (true, t)
  | none => (false, ⟨0, 0, 0⟩)

/-- Both the time and the day have to be known. -/
def getDateTime (c : Clock) : Bool × DateTime :=
  match c.time, c.day with
  | some t, some day => (true, day.dateTime t)
  | _, _ => (false, .zero)

def writeRam (c : Clock) (addr : Fin 31) (v : Byte) : Clock :=
  if c.writable then { c with ram := Function.update c.ram addr v } else c

def writeRamBuffer (c : Clock) (buf : List Byte) : Clock :=
  if c.writable then { c with ram := fun addr => buf.getD addr (c.ram addr) } else c

/-- Time passes while the clock runs. -/
def tick (c : Clock) (next : Registers) : Clock :=
  if c.running then { c with time := next.timeOfDay, day := next.day } else c

/-- What a clock answers. -/
def apply (c : Clock) : Event → Answer × Clock
  | .begin _ => (.bool (c.halt false).running, c.halt false)
  | .writeProtect enable => (.result .unit, { c with writable := !enable })
  | .isWriteProtected => (.bool !c.writable, c)
  | .halt on => (.result .unit, c.halt on)
  | .isHalted => (.bool !c.running, c)
  | .setTime hour minute second => (.result .unit, c.setTime ⟨hour, minute, second⟩)
  | .getTime => (.time c.getTime.1 c.getTime.2, c)
  | .transfer (.setDateTime d) => (.result .unit, c.setDateTime d)
  | .transfer .getDateTime => (.result (.dateTime c.getDateTime.1 c.getDateTime.2), c)
  | .transfer (.writeByteRAM addr v) => (.result .unit, c.writeRam addr v)
  | .transfer (.readByteRAM addr) => (.result (.bytes [c.ram addr]), c)
  | .transfer (.writeBufferRAM buf) => (.result .unit, c.writeRamBuffer buf)
  | .transfer (.readBufferRAM len) => (.result (.bytes ((List.ofFn c.ram).take len)), c)
  | .transfer (.writeClockRegister _ _) => (.result .unit, c)
  | .transfer (.readClockRegister _) => (.result .unit, c)
  | .tick next => (.result .unit, c.tick next)

end Clock

/-! ### Lawful calls -/

structure TimeOfDay.Valid (t : TimeOfDay) : Prop where
  hour_lt : t.hour.toNat < 24
  minute_lt : t.minute.toNat < 60
  second_lt : t.second.toNat < 60

/-- The day of the week may be zero. -/
structure Day.Valid (day : Day) : Prop where
  one_le_dayMonth : 1 ≤ day.dayMonth.toNat
  dayMonth_le : day.dayMonth.toNat ≤ 31
  one_le_month : 1 ≤ day.month.toNat
  month_le : day.month.toNat ≤ 12
  dayWeek_le : day.dayWeek.toNat ≤ 7
  le_year : 2000 ≤ day.year.toNat
  year_lt : day.year.toNat < 2100

/-- The registers are not touched one by one, and what is set is a date-time. -/
def Event.Lawful : Event → Prop
  | .setTime hour minute second => TimeOfDay.Valid ⟨hour, minute, second⟩
  | .transfer (.setDateTime d) => d.timeOfDay.Valid ∧ d.day.Valid
  | .transfer (.writeClockRegister _ _) => False
  | .transfer (.readClockRegister _) => False
  | _ => True

/-! ### What is stored -/

theorem digits_decToBcd {x : Byte} (h : x.toNat < 100) : digits (decToBcd x) = x.toNat := by
  rw [← toNat_bcdToDec_eq_digits, bcdToDec_decToBcd h]

section

variable {r : Registers} {d : DateTime}

theorem setDateTime_protected (hwp : isWriteProtected r = true) (d : DateTime) :
    setDateTime r d = r := if_pos hwp

theorem isWriteProtected_setDateTime (r : Registers) (d : DateTime) :
    isWriteProtected (setDateTime r d) = isWriteProtected r := by
  cases hwp : isWriteProtected r with
  | true => rw [setDateTime_protected hwp, hwp]
  | false =>
    rw [setDateTime, writeClockBurst, if_neg (by simp [hwp]), isWriteProtected]
    exact decide_eq_false (not_not_intro BitVec.zero_and)

theorem seconds_setDateTime (hwp : isWriteProtected r = false) (ht : d.timeOfDay.Valid) :
    (setDateTime r d).seconds = r.ch ||| decToBcd d.second ∧
      (decToBcd d.second).toNat < 128 := by
  have hlt : d.second.toNat < 60 := ht.second_lt
  have hmask : d.second &&& 0x7F = d.second := and_mask 7 (by decide) (by omega)
  refine ⟨?_, ?_⟩
  · rw [setDateTime, writeClockBurst, hwp, hmask]
    rfl
  · rw [toNat_decToBcd (by omega)]
    omega

theorem isHalted_setDateTime (hwp : isWriteProtected r = false) (ht : d.timeOfDay.Valid) :
    isHalted (setDateTime r d) = isHalted r := by
  obtain ⟨hseconds, hlt⟩ := seconds_setDateTime hwp ht
  have hch : (setDateTime r d).ch = r.ch := by
    rw [Registers.ch, hseconds]
    exact or_and_80 _ hlt
  unfold isHalted
  rw [hch]

/-- **The time of day that was set is stored.** -/
theorem timeOfDay_setDateTime (hwp : isWriteProtected r = false) (ht : d.timeOfDay.Valid) :
    (setDateTime r d).timeOfDay = some d.timeOfDay := by
  obtain ⟨hseconds, hlt⟩ := seconds_setDateTime hwp ht
  obtain ⟨hhour, hminute, hsecond⟩ := ht
  simp only [DateTime.timeOfDay] at hhour hminute hsecond
  have hmask : d.hour &&& 0x3F = d.hour := and_mask 6 (by decide) (by omega)
  have hlow : (setDateTime r d).seconds &&& 0x7f = decToBcd d.second := by
    rw [hseconds]
    exact or_and_7f _ hlt
  have hminutes : (setDateTime r d).minutes = decToBcd d.minute := by
    rw [setDateTime, writeClockBurst, hwp]
    rfl
  have hhours : (setDateTime r d).hours = decToBcd d.hour := by
    rw [setDateTime, writeClockBurst, hwp, hmask]
    rfl
  have hrange : (setDateTime r d).TimeInRange := by
    constructor
    · rw [hlow, digits_decToBcd (by omega)]
      omega
    · rw [hminutes, digits_decToBcd (by omega)]
      omega
    · rw [hhours, digits_decToBcd (by omega)]
      omega
  rw [Registers.timeOfDay, if_pos hrange]
  simp only [Registers.decode, DateTime.timeOfDay, hlow, hminutes, hhours,
    bcdToDec_decToBcd (show d.hour.toNat < 100 by omega),
    bcdToDec_decToBcd (show d.minute.toNat < 100 by omega),
    bcdToDec_decToBcd (show d.second.toNat < 100 by omega)]

/-- A year of this century fits its register. -/
theorem year_setDateTime {year : BitVec 16} (hle : 2000 ≤ year.toNat) (hlt : year.toNat < 2100) :
    digits (decToBcd (((year - 2000) &&& 0xFF).setWidth 8)) ≤ 99 ∧
      2000 + (bcdToDec (decToBcd (((year - 2000) &&& 0xFF).setWidth 8))).setWidth 16 = year := by
  have hsub : (year - 2000).toNat = year.toNat - 2000 := by bv_omega
  have hmask : (year - 2000) &&& 0xFF = year - 2000 := and_mask 8 (by decide) (by omega)
  have hwidth : ((year - 2000).setWidth 8).toNat = year.toNat - 2000 := by
    rw [BitVec.toNat_setWidth, hsub]
    omega
  rw [hmask, digits_decToBcd (by omega), bcdToDec_decToBcd (by omega)]
  refine ⟨by omega, ?_⟩
  apply BitVec.eq_of_toNat_eq
  rw [BitVec.toNat_add, BitVec.toNat_setWidth, hwidth]
  simp
  omega

/-- **The day that was set is stored**, unless it is a Sunday. -/
theorem day_setDateTime (hwp : isWriteProtected r = false) (hd : d.day.Valid) :
    (setDateTime r d).day = if d.dayWeek = 0 then none else some d.day := by
  obtain ⟨hone, hmday, hone', hmon, hwday, hle, hlt⟩ := hd
  simp only [DateTime.day] at hone hmday hone' hmon hwday hle hlt
  obtain ⟨hyear, hread⟩ := year_setDateTime hle hlt
  have hdayMonth : (setDateTime r d).dayMonth = decToBcd d.dayMonth := by
    rw [setDateTime, writeClockBurst, hwp, show d.dayMonth &&& 0x3F = d.dayMonth from
      and_mask 6 (by decide) (by omega)]
    rfl
  have hmonth : (setDateTime r d).month = decToBcd d.month := by
    rw [setDateTime, writeClockBurst, hwp, show d.month &&& 0x1F = d.month from
      and_mask 5 (by decide) (by omega)]
    rfl
  have hdayWeek : (setDateTime r d).dayWeek = decToBcd d.dayWeek := by
    rw [setDateTime, writeClockBurst, hwp, show d.dayWeek &&& 0x07 = d.dayWeek from
      and_mask 3 (by decide) (by omega)]
    rfl
  have hyears : (setDateTime r d).year = decToBcd (((d.year - 2000) &&& 0xFF).setWidth 8) := by
    rw [setDateTime, writeClockBurst, hwp]
    rfl
  by_cases hsunday : d.dayWeek = 0
  · have hnot : ¬ (setDateTime r d).DayInRange := by
      intro hrange
      have hone := hrange.one_le_dayWeek
      rw [hdayWeek, hsunday] at hone
      exact absurd hone (by decide)
    rw [Registers.day, if_neg hnot, if_pos hsunday]
  · have hpos : 1 ≤ d.dayWeek.toNat := by
      have hne : d.dayWeek.toNat ≠ 0 := fun h => hsunday (BitVec.eq_of_toNat_eq h)
      omega
    have hrange : (setDateTime r d).DayInRange := by
      constructor
      · rwa [hdayMonth, digits_decToBcd (by omega)]
      · rwa [hdayMonth, digits_decToBcd (by omega)]
      · rwa [hmonth, digits_decToBcd (by omega)]
      · rwa [hmonth, digits_decToBcd (by omega)]
      · rwa [hdayWeek, digits_decToBcd (by omega)]
      · rwa [hdayWeek, digits_decToBcd (by omega)]
      · rwa [hyears]
    rw [Registers.day, if_pos hrange, if_neg hsunday]
    simp only [Registers.decode, DateTime.day, hdayMonth, hmonth, hdayWeek, hyears, hread,
      bcdToDec_decToBcd (show d.dayMonth.toNat < 100 by omega),
      bcdToDec_decToBcd (show d.month.toNat < 100 by omega),
      bcdToDec_decToBcd (show d.dayWeek.toNat < 100 by omega)]

/-! ### What is read -/

theorem inRange_iff : InRange r ↔ r.TimeInRange ∧ r.DayInRange := by
  constructor
  · rintro ⟨h1, h2, h3, h4, h5, h6, h7, h8, h9, h10⟩
    exact ⟨⟨h1, h2, h3⟩, ⟨h4, h5, h6, h7, h8, h9, h10⟩⟩
  · rintro ⟨⟨h1, h2, h3⟩, ⟨h4, h5, h6, h7, h8, h9, h10⟩⟩
    exact ⟨h1, h2, h3, h4, h5, h6, h7, h8, h9, h10⟩

theorem getDateTime_abs (m : Memory) : m.abs.getDateTime = getDateTime m.clock := by
  simp only [Clock.getDateTime, Memory.abs, Registers.timeOfDay, Registers.day]
  by_cases ht : m.clock.TimeInRange
  · by_cases hd : m.clock.DayInRange
    · rw [if_pos ht, if_pos hd, getDateTime_of_inRange (inRange_iff.mpr ⟨ht, hd⟩)]
      rfl
    · rw [if_pos ht, if_neg hd, getDateTime_of_not_inRange fun h => hd (inRange_iff.mp h).2]
  · rw [if_neg ht, getDateTime_of_not_inRange fun h => ht (inRange_iff.mp h).1]

theorem getTime_abs (m : Memory) : m.abs.getTime = getTime m.clock := by
  have hcheck : (bcdToDec (m.clock.seconds &&& 0x7f) > 59 ∨ bcdToDec m.clock.minutes > 59 ∨
      bcdToDec m.clock.hours > 23) ↔ ¬ m.clock.TimeInRange := by
    simp only [gt_iff_lt, BitVec.lt_def, BitVec.reduceToNat, toNat_bcdToDec_eq_digits]
    constructor
    · rintro h ⟨_, _, _⟩
      omega
    · intro h
      by_contra hnot
      exact h ⟨by omega, by omega, by omega⟩
  simp only [Clock.getTime, Memory.abs, Registers.timeOfDay, getTime, timeOf, List.getD_cons_zero,
    List.getD_cons_succ, hcheck]
  by_cases ht : m.clock.TimeInRange
  · rw [if_pos ht, if_neg (not_not_intro ht)]
    rfl
  · rw [if_neg ht, if_pos ht]

/-! ### The calls, one by one -/

theorem abs_eq {m : Memory} {c : Clock} (htime : m.clock.timeOfDay = c.time)
    (hday : m.clock.day = c.day) (hrunning : (!isHalted m.clock) = c.running)
    (hwritable : (!isWriteProtected m.clock) = c.writable) (hram : m.ram = c.ram) : m.abs = c := by
  rw [Memory.abs, htime, hday, hrunning, hwritable, hram]

theorem timeOfDay_congr {r' : Registers} (hs : r'.seconds &&& 0x7f = r.seconds &&& 0x7f)
    (hm : r'.minutes = r.minutes) (hh : r'.hours = r.hours) :
    r'.timeOfDay = r.timeOfDay := by
  have hiff : r'.TimeInRange ↔ r.TimeInRange := by
    constructor
    · rintro ⟨h1, h2, h3⟩
      exact ⟨hs ▸ h1, hm ▸ h2, hh ▸ h3⟩
    · rintro ⟨h1, h2, h3⟩
      exact ⟨hs ▸ h1, hm ▸ h2, hh ▸ h3⟩
  simp only [Registers.timeOfDay, hiff, Registers.decode, DateTime.timeOfDay, hs, hm, hh]

theorem day_congr {r' : Registers} (h : r'.date = r.date) : r'.day = r.day := by
  simp only [Registers.date, List.cons.injEq, and_true] at h
  obtain ⟨hmday, hmon, hwday, hyear⟩ := h
  have hiff : r'.DayInRange ↔ r.DayInRange := by
    constructor
    · rintro ⟨h1, h2, h3, h4, h5, h6, h7⟩
      exact ⟨hmday ▸ h1, hmday ▸ h2, hmon ▸ h3, hmon ▸ h4, hwday ▸ h5, hwday ▸ h6, hyear ▸ h7⟩
    · rintro ⟨h1, h2, h3, h4, h5, h6, h7⟩
      exact ⟨hmday ▸ h1, hmday ▸ h2, hmon ▸ h3, hmon ▸ h4, hwday ▸ h5, hwday ▸ h6, hyear ▸ h7⟩
  simp only [Registers.day, hiff, Registers.decode, DateTime.day, hmday, hmon, hwday, hyear]

theorem writable_abs {m : Memory} (hwp : isWriteProtected m.clock = false) :
    m.abs.writable = true := congrArg (fun b : Bool => !b) hwp

theorem not_writable_abs {m : Memory} (hwp : isWriteProtected m.clock = true) :
    ¬ m.abs.writable = true := by
  rw [show m.abs.writable = false from congrArg (fun b : Bool => !b) hwp]
  decide

/-- The write protect register is no part of the date-time. -/
theorem abs_wp (m : Memory) (v : Byte) :
    ({ m with clock.wp := v } : Memory).abs = { m.abs with writable := !decide (v &&& 0x80 ≠ 0) } :=
  abs_eq (timeOfDay_congr rfl rfl rfl) (day_congr rfl) rfl rfl rfl

/-- The seconds register with and without the clock halt bit. -/
theorem halt_bit (on : Bool) (s : Byte) :
    (if on then s ||| 0x80 else s &&& 0x7f) &&& 0x7f = s &&& 0x7f ∧
      decide ((if on then s ||| 0x80 else s &&& 0x7f) &&& 0x80 ≠ 0) = on := by
  revert on s
  decide +kernel

/-- The register is written whether it changes or not. -/
theorem halt_writable (hwp : isWriteProtected r = false) (on : Bool) :
    halt r on = { r with seconds := if on then r.seconds ||| 0x80 else r.seconds &&& 0x7f } := by
  rw [halt]
  by_cases hsame : r.seconds = if on then r.seconds ||| 0x80 else r.seconds &&& 0x7f
  · rw [if_neg fun h => h.1 hsame, ← hsame]
  · rw [if_pos ⟨hsame, by rw [hwp]; decide⟩]

theorem abs_halt (m : Memory) (on : Bool) :
    ({ m with clock := halt m.clock on } : Memory).abs = m.abs.halt on := by
  cases hwp : isWriteProtected m.clock with
  | true =>
    have hkept : halt m.clock on = m.clock := if_neg fun h => h.2 hwp
    rw [hkept, Clock.halt, if_neg (not_writable_abs hwp)]
  | false =>
    obtain ⟨hlow, hhigh⟩ := halt_bit on m.clock.seconds
    rw [halt_writable hwp, Clock.halt, if_pos (writable_abs hwp)]
    exact abs_eq (timeOfDay_congr hlow rfl rfl) (day_congr rfl)
      (congrArg (fun b : Bool => !b) hhigh) rfl rfl

theorem abs_tick (m : Memory) (next : Registers) :
    ({ m with clock := m.clock.tick next } : Memory).abs = m.abs.tick next := by
  cases hhalted : isHalted m.clock with
  | true =>
    rw [Registers.tick, if_pos hhalted, Clock.tick, if_neg (by simp [Memory.abs, hhalted])]
  | false =>
    obtain ⟨hlow, hhigh⟩ := halt_bit false next.seconds
    rw [Registers.tick, if_neg (by simp [hhalted]), Clock.tick,
      if_pos (by simp [Memory.abs, hhalted])]
    refine abs_eq (timeOfDay_congr hlow rfl rfl) (day_congr rfl) ?_ rfl rfl
    rw [show m.abs.running = true by simp [Memory.abs, hhalted]]
    exact congrArg (fun b : Bool => !b) hhigh

theorem abs_setDateTime (m : Memory) (ht : d.timeOfDay.Valid) (hd : d.day.Valid) :
    ({ m with clock := setDateTime m.clock d } : Memory).abs = m.abs.setDateTime d := by
  cases hwp : isWriteProtected m.clock with
  | true =>
    rw [setDateTime_protected hwp, Clock.setDateTime, if_neg (not_writable_abs hwp)]
  | false =>
    rw [Clock.setDateTime, if_pos (writable_abs hwp)]
    refine abs_eq (timeOfDay_setDateTime hwp ht) (day_setDateTime hwp hd) ?_ ?_ rfl
    · rw [isHalted_setDateTime hwp ht]
      rfl
    · rw [isWriteProtected_setDateTime]
      rfl

/-- What is read is a date-time that can be set. -/
theorem valid_decode (h : InRange r) : r.decode.day.Valid ∧ r.decode.dayWeek ≠ 0 := by
  obtain ⟨-, -, -, hone, hmday, hone', hmon, hone'', hwday, hyear⟩ := h
  have hyears : (2000 + (bcdToDec r.year).setWidth 16).toNat = 2000 + digits r.year := by
    rw [BitVec.toNat_add, BitVec.toNat_setWidth, toNat_bcdToDec_eq_digits]
    simp
    omega
  refine ⟨⟨?_, ?_, ?_, ?_, ?_, ?_, ?_⟩, ?_⟩
  · exact (toNat_bcdToDec_eq_digits r.dayMonth).symm ▸ hone
  · exact (toNat_bcdToDec_eq_digits r.dayMonth).symm ▸ hmday
  · exact (toNat_bcdToDec_eq_digits r.month).symm ▸ hone'
  · exact (toNat_bcdToDec_eq_digits r.month).symm ▸ hmon
  · exact (toNat_bcdToDec_eq_digits r.dayWeek).symm ▸ hwday
  · show 2000 ≤ (2000 + (bcdToDec r.year).setWidth 16).toNat
    omega
  · show (2000 + (bcdToDec r.year).setWidth 16).toNat < 2100
    omega
  · intro hzero
    have hdigits := toNat_bcdToDec_eq_digits r.dayWeek
    rw [show bcdToDec r.dayWeek = 0 from hzero] at hdigits
    have hnat : digits r.dayWeek = 0 := hdigits.symm
    omega

/-- The day is read and written back, or what is written back is no day. -/
theorem day_setTime (hwp : isWriteProtected r = false) (hour minute second : Byte) :
    (setTime r hour minute second).day = if r.TimeInRange then r.day else none := by
  have hset : setTime r hour minute second = setDateTime r
      { (getDateTime r).2 with hour := hour, minute := minute, second := second } := rfl
  by_cases hrange : InRange r
  · obtain ⟨hvalid, hweek⟩ := valid_decode hrange
    obtain ⟨ht, hd⟩ := inRange_iff.mp hrange
    have hday := day_setDateTime hwp
      (d := { r.decode with hour := hour, minute := minute, second := second }) hvalid
    rw [hset, getDateTime_of_inRange hrange, if_pos ht, Registers.day.eq_1 r, if_pos hd]
    exact hday.trans (if_neg hweek)
  · have hnone : (if r.TimeInRange then r.day else none) = none := by
      by_cases ht : r.TimeInRange
      · rw [if_pos ht, Registers.day, if_neg fun hd => hrange (inRange_iff.mpr ⟨ht, hd⟩)]
      · rw [if_neg ht]
    have hdate := (setTime_writable hwp hour minute second).1
    rw [getDateTime_of_not_inRange hrange, date_zero, Registers.date, List.cons.injEq] at hdate
    rw [hnone, Registers.day, if_neg]
    intro hd
    have hone := hd.one_le_dayMonth
    rw [hdate.1] at hone
    exact absurd hone (by decide)

theorem abs_setTime (m : Memory) {hour minute second : Byte}
    (ht : TimeOfDay.Valid ⟨hour, minute, second⟩) :
    ({ m with clock := setTime m.clock hour minute second } : Memory).abs =
      m.abs.setTime ⟨hour, minute, second⟩ := by
  have hset : setTime m.clock hour minute second = setDateTime m.clock
      { (getDateTime m.clock).2 with hour := hour, minute := minute, second := second } := rfl
  cases hwp : isWriteProtected m.clock with
  | true =>
    rw [hset, setDateTime_protected hwp, Clock.setTime, if_neg (not_writable_abs hwp)]
  | false =>
    rw [Clock.setTime, if_pos (writable_abs hwp)]
    refine abs_eq ?_ ?_ ?_ ?_ rfl
    · rw [hset]
      exact timeOfDay_setDateTime hwp ht
    · refine (day_setTime hwp hour minute second).trans ?_
      by_cases hrange : m.clock.TimeInRange
      · have htime : m.abs.time = some _ := if_pos hrange
        rw [if_pos hrange, htime]
        rfl
      · have htime : m.abs.time = none := if_neg hrange
        rw [if_neg hrange, htime]
        rfl
    · exact congrArg (fun b : Bool => !b) (isHalted_setDateTime hwp ht)
    · rw [hset, isWriteProtected_setDateTime]
      rfl

theorem abs_writeProtect (m : Memory) (enable : Bool) :
    (m.writeClock Event.regWp (.ofNat 8 (enable.toNat <<< 7))).abs =
      { m.abs with writable := !enable } := by
  have hput : m.writeClock Event.regWp (.ofNat 8 (enable.toNat <<< 7)) =
      { m with clock.wp := .ofNat 8 (enable.toNat <<< 7) } := if_neg fun h => h.2 rfl
  have hbit : ∀ b : Bool, decide (BitVec.ofNat 8 (b.toNat <<< 7) &&& 0x80 ≠ 0) = b := by decide
  rw [hput, abs_wp, hbit]

theorem abs_writeRam (m : Memory) (addr : Fin 31) (v : Byte) :
    (m.writeRam addr v).abs = m.abs.writeRam addr v := by
  cases hwp : isWriteProtected m.clock with
  | true => rw [Memory.writeRam, if_pos hwp, Clock.writeRam, if_neg (not_writable_abs hwp)]
  | false =>
    rw [Memory.writeRam, if_neg (by simp [hwp]), Clock.writeRam,
      if_pos (writable_abs hwp)]
    rfl

theorem abs_writeRamBuffer (m : Memory) (buf : List Byte) :
    (m.writeRamBuffer buf).abs = m.abs.writeRamBuffer buf := by
  cases hwp : isWriteProtected m.clock with
  | true =>
    rw [Memory.writeRamBuffer, if_pos hwp, Clock.writeRamBuffer,
      if_neg (not_writable_abs hwp)]
  | false =>
    rw [Memory.writeRamBuffer, if_neg (by simp [hwp]), Clock.writeRamBuffer,
      if_pos (writable_abs hwp)]
    rfl

end

/-! ### The register file is a clock -/

/-- **The register file simulates the clock** that it stands for. -/
theorem simulates_apply :
    Lib.Simulates (fun m c => m.abs = c) Event.Lawful Event.apply Clock.apply := by
  rintro m c event rfl hlawful
  cases event with
  | begin level =>
    have hclock := abs_halt m false
    refine ⟨congrArg Answer.bool ?_, hclock⟩
    rw [← hclock]
    rfl
  | writeProtect enable => exact ⟨rfl, abs_writeProtect m enable⟩
  | isWriteProtected => exact ⟨congrArg Answer.bool (Bool.not_not _).symm, rfl⟩
  | halt on => exact ⟨rfl, abs_halt m on⟩
  | isHalted => exact ⟨congrArg Answer.bool (Bool.not_not _).symm, rfl⟩
  | setTime hour minute second => exact ⟨rfl, abs_setTime m hlawful⟩
  | getTime =>
    refine ⟨?_, rfl⟩
    simp only [Event.apply, Clock.apply, getTime_abs]
  | transfer op =>
    cases op with
    | writeClockRegister reg v => exact absurd hlawful id
    | readClockRegister reg => exact absurd hlawful id
    | setDateTime d => exact ⟨rfl, abs_setDateTime m hlawful.1 hlawful.2⟩
    | getDateTime =>
      refine ⟨?_, rfl⟩
      simp only [Event.apply, Clock.apply, Op.apply, getDateTime_abs]
    | writeByteRAM addr v => exact ⟨rfl, abs_writeRam m addr v⟩
    | readByteRAM addr => exact ⟨rfl, rfl⟩
    | writeBufferRAM buf => exact ⟨rfl, abs_writeRamBuffer m buf⟩
    | readBufferRAM len => exact ⟨rfl, rfl⟩
  | tick next => exact ⟨rfl, abs_tick m next⟩

/-- **The driver on its pins is a clock**: over any lawful list of events the clock that
the chip stands for answers the same, and it is what the chip stands for in the end. -/
theorem answers_clock (floating : Bool) (m : Memory) (events : List Event)
    (hlawful : ∀ event ∈ events, event.Lawful) :
    let pins := Lib.answers Event.drive (World.start floating m) events
    let clock := Lib.answers Clock.apply m.abs events
    pins.1 = clock.1 ∧ pins.2.chip.memory.abs = clock.2 := by
  obtain ⟨hanswers, m', hidle, habs⟩ := (World.simulates_drive.trans simulates_apply).answers
    ⟨m, World.idle_start floating m, rfl⟩ fun event hevent => ⟨trivial, hlawful event hevent⟩
  refine ⟨hanswers, ?_⟩
  rw [hidle.chip]
  exact habs

/-- What `DS1302_setClock` sets is a date-time. -/
theorem lawful_dateTime (tm : CalendarTime) :
    (Event.transfer (.setDateTime tm.dateTime)).Lawful := by
  obtain ⟨hsec, hmin, hhour, hmday, hmon, hwday, hyear⟩ := tm.toNat_dateTime
  have h1 := tm.sec_lt
  have h2 := tm.min_lt
  have h3 := tm.hour_lt
  have h4 := tm.one_le_mday
  have h5 := tm.mday_le
  have h6 := tm.mon_lt
  have h7 := tm.le_year
  have h8 := tm.year_lt
  have h9 := tm.wday_lt
  refine ⟨⟨?_, ?_, ?_⟩, ⟨?_, ?_, ?_, ?_, ?_, ?_, ?_⟩⟩ <;>
    simp only [DateTime.timeOfDay, DateTime.day] <;> omega

/-- The time is set after the clock has been set on a Sunday. -/
def sundayEvents : List Event :=
  [.begin (fun _ => false), .transfer (.setDateTime sunday.dateTime), .setTime 12 30 0, .getTime,
    .transfer .getDateTime]

theorem lawful_sundayEvents : ∀ event ∈ sundayEvents, event.Lawful := by
  simp only [sundayEvents, List.forall_mem_cons]
  exact ⟨trivial, lawful_dateTime sunday, ⟨by decide, by decide, by decide⟩, trivial, trivial,
    fun _ h => absurd h List.not_mem_nil⟩

theorem answers_clock_sunday :
    let pins := Lib.answers Event.drive (World.start false World.blank) sundayEvents
    let clock := Lib.answers Clock.apply World.blank.abs sundayEvents
    pins.1 = clock.1 ∧ pins.2.chip.memory.abs = clock.2 :=
  answers_clock false World.blank sundayEvents lawful_sundayEvents

/-- The day is not known, and the time is. -/
example : (Lib.answers Clock.apply World.blank.abs sundayEvents).2.getTime = (true, ⟨12, 30, 0⟩) ∧
    (Lib.answers Clock.apply World.blank.abs sundayEvents).2.day = none := by decide +kernel

/-! ### The write protection -/

/-- The write protection is lifted. -/
def Event.Unprotects : Event → Prop
  | .writeProtect enable => enable = false
  | .transfer (.writeClockRegister reg v) => reg = regWp ∧ v &&& 0x80 = 0
  | _ => False

/-- Nothing but the counting. -/
def Clock.count (c : Clock) : Event → Clock
  | .tick next => c.tick next
  | _ => c

theorem Clock.writable_count (c : Clock) (event : Event) :
    (c.count event).writable = c.writable := by
  cases event with
  | tick next =>
    simp only [Clock.count, Clock.tick]
    split <;> rfl
  | _ => rfl

theorem abs_writeClock_protected {m : Memory} (hwp : isWriteProtected m.clock = true) {reg : Fin 9}
    {v : Byte} (h : ¬ (reg = Event.regWp ∧ v &&& 0x80 = 0)) :
    (m.writeClock reg v).abs = m.abs := by
  rw [Memory.writeClock]
  by_cases hreg : reg = Event.regWp
  · subst hreg
    have hv : decide (v &&& 0x80 ≠ 0) = true := decide_eq_true fun hv => h ⟨rfl, hv⟩
    have hwritable : m.abs.writable = false := congrArg (fun b : Bool => !b) hwp
    rw [if_neg fun h => h.2 rfl]
    show ({ m with clock.wp := v } : Memory).abs = m.abs
    rw [abs_wp, hv, Bool.not_true, ← hwritable]
  · rw [if_pos ⟨hwp, hreg⟩]

theorem abs_apply_protected {m : Memory} (hwp : isWriteProtected m.clock = true) {event : Event}
    (hevent : ¬ event.Unprotects) : (event.apply m).2.abs = m.abs.count event := by
  have hnot := not_writable_abs hwp
  cases event with
  | begin level => exact (abs_halt m false).trans (if_neg hnot)
  | writeProtect enable =>
    refine abs_writeClock_protected hwp ?_
    rintro ⟨-, hv⟩
    have henable : enable = true := by simpa [Event.Unprotects] using hevent
    rw [henable] at hv
    exact absurd hv (by decide)
  | isWriteProtected => rfl
  | halt on => exact (abs_halt m on).trans (if_neg hnot)
  | isHalted => rfl
  | setTime hour minute second =>
    show ({ m with clock := setTime m.clock hour minute second } : Memory).abs = m.abs
    rw [show setTime m.clock hour minute second = m.clock from setDateTime_protected hwp _]
  | getTime => rfl
  | transfer op =>
    cases op with
    | writeClockRegister reg v => exact abs_writeClock_protected hwp hevent
    | setDateTime d =>
      show ({ m with clock := setDateTime m.clock d } : Memory).abs = m.abs
      rw [setDateTime_protected hwp]
    | writeByteRAM addr v => exact (abs_writeRam m addr v).trans (if_neg hnot)
    | writeBufferRAM buf => exact (abs_writeRamBuffer m buf).trans (if_neg hnot)
    | readClockRegister reg => rfl
    | getDateTime => rfl
    | readByteRAM addr => rfl
    | readBufferRAM len => rfl
  | tick next => exact abs_tick m next

theorem abs_answers_protected {m : Memory} (hwp : isWriteProtected m.clock = true)
    {events : List Event} (hevents : ∀ event ∈ events, ¬ event.Unprotects) :
    (Lib.answers Event.apply m events).2.abs = events.foldl Clock.count m.abs := by
  induction events generalizing m with
  | nil => rfl
  | cons event events ih =>
    rw [List.forall_mem_cons] at hevents
    have hevent := abs_apply_protected hwp hevents.1
    have hkept : isWriteProtected (event.apply m).2.clock = true := by
      have hwritable := (congrArg Clock.writable hevent).trans (m.abs.writable_count event)
      have hsame : (!isWriteProtected (event.apply m).2.clock) = !isWriteProtected m.clock :=
        hwritable
      rwa [hwp, Bool.not_eq_eq_eq_not, Bool.not_not] at hsame
    rw [Lib.answers, List.foldl_cons, ← hevent]
    exact ih hkept hevents.2

/-- **A chip that is protected changes by counting only**, until the protection is lifted in
its own register, whatever else is done on the pins: a date-time that is set is lost. -/
theorem abs_of_protected (floating : Bool) {m : Memory} (hwp : isWriteProtected m.clock = true)
    {events : List Event} (hevents : ∀ event ∈ events, ¬ event.Unprotects) :
    (Lib.answers Event.drive (World.start floating m) events).2.chip.memory.abs =
      events.foldl Clock.count m.abs := by
  obtain ⟨-, hidle⟩ := World.simulates_drive.answers (World.idle_start floating m)
    fun (event : Event) (_ : event ∈ events) => trivial
  rw [hidle.chip]
  exact abs_answers_protected hwp hevents

theorem abs_of_protected_set :
    (Lib.answers Event.drive (World.start false { World.blank with clock.wp := 0x80 })
        [.transfer (.setDateTime sunday.dateTime),
          .transfer (.writeByteRAM 0 1)]).2.chip.memory.abs =
      [Event.transfer (.setDateTime sunday.dateTime), .transfer (.writeByteRAM 0 1)].foldl
        Clock.count ({ World.blank with clock.wp := 0x80 } : Memory).abs :=
  abs_of_protected false (by decide) (by simp [Event.Unprotects])

end Datk.Rtc
