import Datk.Lib.Device
import Datk.Rtc.SetTime
import Datk.Rtc.Wire

/-!
# The whole driver, from any state of its pins

`Datk.Rtc.Wire` has the functions that transfer.  Here is the rest of
`common/ds1302/ds1302.c`: `DS1302_begin`, which sets up the pins, and the functions that
are made of transfers.  An `Event` is a call, or the chip counts by itself.

The pins may be found in any state, as the processor may have been restarted at any
point of a transfer, and the chip goes on under its battery.  `answers_begin` says that
`DS1302_begin` ends whatever was under way: from then on every answer is that of the
register file.  The one thing that can be stored late is the byte whose eighth bit was
missing.
-/

namespace Datk.Rtc

/-! ### The time of day -/

structure TimeOfDay where
  hour : Byte
  minute : Byte
  second : Byte
  deriving DecidableEq, Repr

/-- What `DS1302_getTime` returns, and what it leaves in its arguments. -/
def timeOf (buf : List Byte) : Bool × TimeOfDay :=
  let second := bcdToDec (buf.getD 0 0 &&& 0x7f)
  let minute := bcdToDec (buf.getD 1 0)
  let hour := bcdToDec (buf.getD 2 0)
  if second > 59 ∨ minute > 59 ∨ hour > 23 then (false, ⟨0, 0, 0⟩)
    else (true, ⟨hour, minute, second⟩)

def getTime (r : Registers) : Bool × TimeOfDay := timeOf [r.seconds, r.minutes, r.hours]

/-- The chip has counted to `next`, if it was not halted.  Counting leaves the clock halt
and the write protect bit alone. -/
def Registers.tick (r next : Registers) : Registers :=
  if isHalted r then r else { next with seconds := next.seconds &&& 0x7f, wp := r.wp }

/-! ### On the pins -/

namespace World

/-- `gpio_reset_pin`: the pin is an input, at the level that the resistors give it. -/
def gpioResetPin (w : World) (pin : Pin) (level : Bool) : World :=
  match pin with
  | .io => gpioSetDirection { w with floating := level } false
  | .clk => w.gpioSetLevel .clk level
  | .ce => w.gpioSetLevel .ce level

/-- The pins in `DS1302_begin`.  The levels that are set while the pins are inputs appear
when the pins become outputs. -/
def setUp (w : World) (level : Pin → Bool) : World :=
  let w := w.gpioResetPin .clk (level .clk)
  let w := w.gpioResetPin .io (level .io)
  let w := w.gpioResetPin .ce (level .ce)
  let w := w.gpioSetLevel .io false
  ((w.gpioSetLevel .clk false).gpioSetDirection true).gpioSetLevel .ce false

def halt (w : World) (on : Bool) : World :=
  let (regOld, w) := w.readClockRegister 0
  let regNew := if on then regOld ||| 0x80 else regOld &&& ~~~0x80
  if regOld ≠ regNew then w.writeClockRegister 0 regNew else w

/-- The register is read for the log, and for the result. -/
def isHalted (w : World) : Bool × World :=
  let (_, w) := w.readClockRegister 0
  let (v, w) := w.readClockRegister 0
  (v &&& 0x80 ≠ 0, w)

def begin (w : World) (level : Pin → Bool) : Bool × World :=
  let (halted, w) := ((w.setUp level).halt false).isHalted
  (!halted, w)

def writeProtect (w : World) (enable : Bool) : World :=
  w.writeClockRegister 7 (.ofNat 8 (enable.toNat <<< 7))

def isWriteProtected (w : World) : Bool × World :=
  let (v, w) := w.readClockRegister 7
  (v &&& 0x80 ≠ 0, w)

def setTime (w : World) (hour minute second : Byte) : World :=
  let ((_, dt), w) := w.getDateTime
  w.setDateTime { dt with hour := hour, minute := minute, second := second }

def getTime (w : World) : (Bool × TimeOfDay) × World :=
  let (buf, w) := (w.transferBegin.writeAddrCmd cmdReadClockBurst).readBuffer 3
  (timeOf buf, w.transferEnd)

/-- What the chip counts is no matter of the pins. -/
def tick (w : World) (next : Registers) : World :=
  { w with chip.memory.clock := w.chip.memory.clock.tick next }

end World

/-! ### The events -/

inductive Event
  /-- `DS1302_begin`, with the levels of the pins after they were reset. -/
  | begin (level : Pin → Bool)
  | writeProtect (enable : Bool)
  | isWriteProtected
  | halt (on : Bool)
  | isHalted
  | setTime (hour minute second : Byte)
  | getTime
  | transfer (op : Op)
  /-- The chip counts by itself. -/
  | tick (next : Registers)

inductive Answer
  | result (r : Result)
  | bool (b : Bool)
  | time (valid : Bool) (t : TimeOfDay)

namespace Event

/-- The event on the pins. -/
def drive (w : World) : Event → Answer × World
  | .begin level =>
    let (running, w) := w.begin level
    (.bool running, w)
  | .writeProtect enable => (.result .unit, w.writeProtect enable)
  | .isWriteProtected =>
    let (b, w) := w.isWriteProtected
    (.bool b, w)
  | .halt on => (.result .unit, w.halt on)
  | .isHalted =>
    let (b, w) := w.isHalted
    (.bool b, w)
  | .setTime hour minute second => (.result .unit, w.setTime hour minute second)
  | .getTime =>
    let ((valid, t), w) := w.getTime
    (.time valid t, w)
  | .transfer op =>
    let (r, w) := op.drive w
    (.result r, w)
  | .tick next => (.result .unit, w.tick next)

/-- `DS1302_REG_WP`. -/
def regWp : Fin 9 := (Fin.last 7).castSucc

/-- The event on the register file. -/
def apply (m : Memory) : Event → Answer × Memory
  | .begin _ =>
    let clock := Rtc.halt m.clock false
    (.bool !Rtc.isHalted clock, { m with clock := clock })
  | .writeProtect enable => (.result .unit, m.writeClock regWp (.ofNat 8 (enable.toNat <<< 7)))
  | .isWriteProtected => (.bool (Rtc.isWriteProtected m.clock), m)
  | .halt on => (.result .unit, { m with clock := Rtc.halt m.clock on })
  | .isHalted => (.bool (Rtc.isHalted m.clock), m)
  | .setTime hour minute second =>
    (.result .unit, { m with clock := Rtc.setTime m.clock hour minute second })
  | .getTime =>
    let (valid, t) := Rtc.getTime m.clock
    (.time valid t, m)
  | .transfer op =>
    let (r, m) := op.apply m
    (.result r, m)
  | .tick next => (.result .unit, { m with clock := m.clock.tick next })

end Event

/-! ### Functions made of transfers -/

namespace World

variable {m : Memory} {w : World}

theorem Idle.halt (h : Idle m w) (on : Bool) :
    Idle { m with clock := Rtc.halt m.clock on } (w.halt on) := by
  obtain ⟨hv, hidle⟩ := h.readClockRegister 0
  have hold : (w.readClockRegister 0).1 = m.clock.seconds := hv
  simp only [World.halt, hold]
  by_cases hsame : m.clock.seconds =
      if on then m.clock.seconds ||| 0x80 else m.clock.seconds &&& ~~~0x80
  · have hmem : Rtc.halt m.clock on = m.clock := if_neg fun hne => hne.1 hsame
    rw [if_neg (not_not_intro hsame), hmem]
    exact hidle
  · rw [if_pos hsame]
    have hnext := hidle.writeClockRegister 0
      (if on then m.clock.seconds ||| 0x80 else m.clock.seconds &&& ~~~0x80)
    have hmem : m.writeClock 0
        (if on then m.clock.seconds ||| 0x80 else m.clock.seconds &&& ~~~0x80) =
          { m with clock := Rtc.halt m.clock on } := by
      by_cases hwp : Rtc.isWriteProtected m.clock
      · have hkept : Rtc.halt m.clock on = m.clock := if_neg fun hne => hne.2 hwp
        rw [hkept]
        exact if_pos ⟨hwp, by decide⟩
      · have hput : Rtc.halt m.clock on = _ := if_pos ⟨hsame, hwp⟩
        rw [hput]
        exact if_neg fun hne => hwp hne.1
    rw [hmem] at hnext
    exact hnext

theorem Idle.isHalted (h : Idle m w) :
    w.isHalted.1 = Rtc.isHalted m.clock ∧ Idle m w.isHalted.2 := by
  obtain ⟨hv, hidle⟩ := (h.readClockRegister 0).2.readClockRegister 0
  exact ⟨congrArg (fun v : Byte => decide (v &&& 0x80 ≠ 0)) hv, hidle⟩

theorem Idle.isWriteProtected (h : Idle m w) :
    w.isWriteProtected.1 = Rtc.isWriteProtected m.clock ∧ Idle m w.isWriteProtected.2 := by
  obtain ⟨hv, hidle⟩ := h.readClockRegister 7
  exact ⟨congrArg (fun v : Byte => decide (v &&& 0x80 ≠ 0)) hv, hidle⟩

theorem Idle.setTime (h : Idle m w) (hour minute second : Byte) :
    Idle { m with clock := Rtc.setTime m.clock hour minute second }
      (w.setTime hour minute second) := by
  obtain ⟨hd, hidle⟩ := h.getDateTime
  have hset := hidle.setDateTime
    { (Rtc.getDateTime m.clock).2 with hour := hour, minute := minute, second := second }
  rw [← hd] at hset
  simp only [Rtc.setTime, ← hd]
  exact hset

theorem Idle.getTime (h : Idle m w) :
    w.getTime.1 = Rtc.getTime m.clock ∧ Idle m w.getTime.2 := by
  have hr := h.transferBegin.reads_writeAddrCmd ofCommand_readClockBurst
  obtain ⟨hbuf, hr⟩ := hr.readBuffer (k := 0) 3
  refine ⟨?_, hr.transferEnd⟩
  show timeOf ((w.transferBegin.writeAddrCmd cmdReadClockBurst).readBuffer 3).1 = _
  rw [hbuf]
  rfl

theorem Idle.tick (h : Idle m w) (next : Registers) :
    Idle { m with clock := m.clock.tick next } (w.tick next) := by
  obtain ⟨hce, hchip, hconflict⟩ := h
  refine ⟨hce, ?_, hconflict⟩
  simp [World.tick, hchip]

end World

/-! ### The pins in any state -/

deriving instance DecidableEq for Pin

/-- What the processor does to the pins. -/
inductive PinOp
  | level (pin : Pin) (level : Bool)
  | direction (output : Bool)
  deriving DecidableEq

/-- A bit that goes out. -/
def bitPins (b : Bool) : List PinOp := [.level .io b, .level .clk true, .level .clk false]

def PinOp.run (w : World) : PinOp → World
  | .level pin b => w.gpioSetLevel pin b
  | .direction b => w.gpioSetDirection b

namespace World

def pins (w : World) (ops : List PinOp) : World := ops.foldl PinOp.run w

/-- While CE is low there is no transfer. -/
def Deselected (w : World) : Prop :=
  w.ce = false → w.chip.transfer = .closed ∧ w.chip.io = none

/-- The memory that a transfer leaves when it is given up: a byte of which seven bits have
arrived may still be stored. -/
def GivenUp (w : World) (m : Memory) : Prop :=
  m = w.chip.memory ∨ ∃ t bytes bits b, w.chip.transfer = .write t bytes bits ∧
    bits.length = 7 ∧ m = t.store w.chip.memory bytes (Lib.ofBits 8 (bits ++ [b]))

variable {m : Memory} {w : World}

theorem deselected_start (floating : Bool) (m : Memory) : (start floating m).Deselected :=
  fun _ => ⟨rfl, rfl⟩

theorem Deselected.gpioSetLevel (h : w.Deselected) (pin : Pin) (level : Bool) :
    (w.gpioSetLevel pin level).Deselected := by
  intro hce
  cases pin with
  | clk =>
    have hlow : w.ce = false := hce
    simp only [World.gpioSetLevel, settle, hlow, Bool.false_and, Bool.false_eq_true, if_false]
    exact h hlow
  | io => exact h hce
  | ce =>
    have hlevel : level = false := hce
    by_cases hlow : w.ce = false
    · simp only [World.gpioSetLevel, settle, hlow, hlevel, Bool.and_false, Bool.false_and,
        Bool.false_eq_true, if_false]
      exact h hlow
    · simp [World.gpioSetLevel, settle, hlow, hlevel, Chip.ceFall]

theorem Deselected.gpioSetDirection (h : w.Deselected) (output : Bool) :
    (w.gpioSetDirection output).Deselected := h

theorem Deselected.gpioResetPin (h : w.Deselected) (pin : Pin) (level : Bool) :
    (w.gpioResetPin pin level).Deselected := by
  cases pin with
  | clk => exact h.gpioSetLevel .clk level
  | io => exact h
  | ce => exact h.gpioSetLevel .ce level

theorem Deselected.run (h : w.Deselected) (op : PinOp) : (op.run w).Deselected := by
  cases op with
  | level pin level => exact h.gpioSetLevel pin level
  | direction output => exact h.gpioSetDirection output

theorem Deselected.pins (h : w.Deselected) (ops : List PinOp) : (w.pins ops).Deselected := by
  induction ops generalizing w with
  | nil => exact h
  | cons op ops ih => exact ih (h.run op)

/-! ### What a pin does to the memory -/

theorem memory_clkRise (c : Chip) (b : Bool) :
    (c.clkRise b).memory = c.memory ∨ ∃ t bytes bits, c.transfer = .write t bytes bits ∧
      bits.length = 7 ∧
        (c.clkRise b).memory = t.store c.memory bytes (Lib.ofBits 8 (bits ++ [b])) := by
  obtain ⟨memory, transfer, io⟩ := c
  cases transfer with
  | closed => exact .inl rfl
  | command bits =>
    left
    simp only [Chip.clkRise]
    split <;> rfl
  | write t bytes bits =>
    by_cases hlen : bits.length = 7
    · refine .inr ⟨t, bytes, bits, rfl, hlen, ?_⟩
      simp only [Chip.clkRise, if_pos hlen]
    · left
      simp only [Chip.clkRise, if_neg hlen]
  | read t n => exact .inl rfl
  | ignored => exact .inl rfl

theorem memory_clkFall (c : Chip) : c.clkFall.memory = c.memory := by
  unfold Chip.clkFall
  split <;> rfl

/-- Only a rising edge of CLK stores. -/
theorem memory_gpioSetLevel_ce (w : World) (level : Bool) :
    (w.gpioSetLevel .ce level).chip.memory = w.chip.memory := by
  simp only [gpioSetLevel, settle]
  split
  · rfl
  · split <;> rfl

theorem memory_gpioSetLevel_clk_false (w : World) :
    (w.gpioSetLevel .clk false).chip.memory = w.chip.memory := by
  simp only [gpioSetLevel, settle, Bool.and_false, Bool.false_eq_true, if_false]
  split
  · exact memory_clkFall w.chip
  · rfl

theorem givenUp_gpioSetLevel_clk (w : World) (level : Bool) :
    w.GivenUp (w.gpioSetLevel .clk level).chip.memory := by
  cases level with
  | false => exact .inl (memory_gpioSetLevel_clk_false w)
  | true =>
    simp only [gpioSetLevel, settle]
    split
    · rcases memory_clkRise w.chip w.gpioGetLevel with hsame | ⟨t, bytes, bits, ht, hlen, hmem⟩
      · exact .inl hsame
      · exact .inr ⟨t, bytes, bits, _, ht, hlen, hmem⟩
    · split
      · exact .inl (memory_clkFall w.chip)
      · exact .inl rfl

/-! ### The pins are set up -/

theorem memory_setUp (w : World) (level : Pin → Bool) :
    (w.setUp level).chip.memory = (w.gpioSetLevel .clk (level .clk)).chip.memory := by
  rw [setUp, memory_gpioSetLevel_ce]
  show (World.gpioSetLevel _ .clk false).chip.memory = _
  rw [memory_gpioSetLevel_clk_false]
  show (World.gpioSetLevel _ .ce _).chip.memory = _
  rw [memory_gpioSetLevel_ce]
  rfl

/-- **Whatever was under way has ended** when the pins are set up. -/
theorem Deselected.setUp (h : w.Deselected) {level : Pin → Bool}
    (hconflict : (w.setUp level).conflict = false) :
    Idle (w.setUp level).chip.memory (w.setUp level) := by
  have hend : (w.setUp level).Deselected :=
    ((((((h.gpioResetPin .clk _).gpioResetPin .io _).gpioResetPin .ce _).gpioSetLevel .io
      false).gpioSetLevel .clk false).gpioSetDirection true).gpioSetLevel .ce false
  obtain ⟨htransfer, hio⟩ := hend rfl
  refine ⟨rfl, ?_, hconflict⟩
  rw [← htransfer, ← hio]

/-- Between two transfers the pins are set up without harm. -/
theorem Idle.setUp (h : Idle m w) (level : Pin → Bool) : Idle m (w.setUp level) := by
  obtain ⟨hce, hchip, hconflict⟩ := h
  constructor <;> cases hlevel : level .ce <;>
    simp [World.setUp, gpioResetPin, World.gpioSetLevel, World.gpioSetDirection, settle, hce,
      hchip, hconflict, hlevel, Chip.ceRise, Chip.ceFall, Chip.clkFall]

/-- `DS1302_begin` after its pins are set up. -/
theorem begin_of_setUp {level : Pin → Bool} (h : Idle m (w.setUp level)) :
    (w.begin level).1 = !Rtc.isHalted (Rtc.halt m.clock false) ∧
      Idle { m with clock := Rtc.halt m.clock false } (w.begin level).2 := by
  obtain ⟨hhalted, hidle⟩ := (h.halt false).isHalted
  exact ⟨congrArg (fun b : Bool => !b) hhalted, hidle⟩

/-! ### Any list of events -/

/-- **The driver simulates the register file**, event by event. -/
theorem simulates_drive :
    Lib.Simulates (fun w m => Idle m w) (fun _ => True) Event.drive Event.apply := by
  intro w m event h _
  cases event with
  | begin level =>
    obtain ⟨hrunning, hidle⟩ := begin_of_setUp (h.setUp level)
    exact ⟨congrArg Answer.bool hrunning, hidle⟩
  | writeProtect enable => exact ⟨rfl, h.writeClockRegister Event.regWp _⟩
  | isWriteProtected =>
    obtain ⟨hb, hidle⟩ := h.isWriteProtected
    exact ⟨congrArg Answer.bool hb, hidle⟩
  | halt on => exact ⟨rfl, h.halt on⟩
  | isHalted =>
    obtain ⟨hb, hidle⟩ := h.isHalted
    exact ⟨congrArg Answer.bool hb, hidle⟩
  | setTime hour minute second => exact ⟨rfl, h.setTime hour minute second⟩
  | getTime =>
    obtain ⟨ht, hidle⟩ := h.getTime
    exact ⟨congrArg (fun t : Bool × TimeOfDay => Answer.time t.1 t.2) ht, hidle⟩
  | transfer op =>
    obtain ⟨hr, hidle⟩ := h.drive op
    exact ⟨congrArg Answer.result hr, hidle⟩
  | tick next => exact ⟨rfl, h.tick next⟩

theorem Deselected.recovers (h : w.Deselected) {level : Pin → Bool}
    (hconflict : (w.setUp level).conflict = false) (events : List Event) :
    ∃ m', w.GivenUp m' ∧
      let pins := Lib.answers Event.drive w (.begin level :: events)
      let file := Lib.answers Event.apply m' (.begin level :: events)
      pins.1 = file.1 ∧ pins.2.chip.memory = file.2 ∧ pins.2.conflict = false := by
  obtain ⟨hrunning, hidle⟩ := begin_of_setUp (h.setUp hconflict)
  obtain ⟨hanswers, hlast⟩ := simulates_drive.answers hidle
    fun (event : Event) (_ : event ∈ events) => trivial
  refine ⟨(w.setUp level).chip.memory, ?_, ?_, ?_, hlast.conflict⟩
  · rw [memory_setUp]
    exact givenUp_gpioSetLevel_clk _ _
  · exact congrArg₂ List.cons (congrArg Answer.bool hrunning) hanswers
  · exact congrArg Chip.memory hlast.chip

/-- **`DS1302_begin` recovers the driver.**  However the pins were moved before, if the
processor and the chip have not both driven the IO line until they are set up again, what
is answered from then on is what the register file answers, from the contents of the chip
at that time or with the one byte stored that was arriving. -/
theorem answers_begin (floating : Bool) (m : Memory) (ops : List PinOp) (level : Pin → Bool)
    (events : List Event)
    (hconflict : (((start floating m).pins ops).setUp level).conflict = false) :
    ∃ m', ((start floating m).pins ops).GivenUp m' ∧
      let pins := Lib.answers Event.drive ((start floating m).pins ops) (.begin level :: events)
      let file := Lib.answers Event.apply m' (.begin level :: events)
      pins.1 = file.1 ∧ pins.2.chip.memory = file.2 ∧ pins.2.conflict = false :=
  ((deselected_start floating m).pins ops).recovers hconflict events

/-- All zeros, halted. -/
def blank : Memory := ⟨⟨0x80, 0, 0, 0, 0, 0, 0, 0⟩, 0, fun _ => 0⟩

/-- The processor restarts seven bits into a byte for the RAM. -/
def restarted : List PinOp :=
  .level .ce true :: (Lib.bits (cmdWriteRam 3) ++ List.replicate 7 true).flatMap bitPins

theorem answers_begin_restarted :
    ∃ m', ((start false blank).pins restarted).GivenUp m' ∧
      let pins := Lib.answers Event.drive ((start false blank).pins restarted)
        (.begin (fun _ => true) :: [.transfer (.readByteRAM 3), .isHalted])
      let file := Lib.answers Event.apply m'
        (.begin (fun _ => true) :: [.transfer (.readByteRAM 3), .isHalted])
      pins.1 = file.1 ∧ pins.2.chip.memory = file.2 ∧ pins.2.conflict = false :=
  answers_begin false blank restarted (fun _ => true) _ (by decide)

end World

end Datk.Rtc
