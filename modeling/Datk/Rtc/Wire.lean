import Datk.Rtc.Chip
import Mathlib.Logic.Function.Iterate

/-!
# The bit-banged driver

`common/ds1302/ds1302.c` moves the three pins one at a time.  A `World` has the pins as
the processor sets them and the chip behind them, and counts it as a conflict when both
drive the IO line.

The driver is related to the register file function by function.  Between two
operations the world is `Idle`; while bytes go out it `Sends`, with CLK low and the
processor on the line; while bytes come in it `Reads`, with the pin turned around.
`run_drive` is the refinement: over any list of operations the chip ends with what the
register file holds, the same is returned, and there is no conflict.
-/

namespace Datk.Rtc

inductive Pin
  | clk
  | io
  | ce

structure World where
  clk : Bool
  ce : Bool
  /-- The output level of the IO pin. -/
  io : Bool
  /-- The IO pin is in `GPIO_MODE_OUTPUT`. -/
  output : Bool
  /-- What is read off the IO line when nobody drives it. -/
  floating : Bool
  chip : Chip
  /-- The processor and the chip have both driven the IO line. -/
  conflict : Bool

namespace World

/-- `gpio_get_level` of the IO pin. -/
def gpioGetLevel (w : World) : Bool :=
  match w.chip.io with
  | some b => b
  | none => if w.output then w.io else w.floating

def settle (w : World) : World :=
  { w with conflict := w.conflict || (w.output && w.chip.io.isSome) }

def gpioSetLevel (w : World) (pin : Pin) (level : Bool) : World :=
  match pin with
  | .clk =>
    settle { w with
      clk := level
      chip :=
        if w.ce && !w.clk && level then w.chip.clkRise w.gpioGetLevel
        else if w.ce && w.clk && !level then w.chip.clkFall else w.chip }
  | .io => settle { w with io := level }
  | .ce =>
    settle { w with
      ce := level
      chip :=
        if !w.ce && level then w.chip.ceRise
        else if w.ce && !level then w.chip.ceFall else w.chip }

/-- `gpio_set_direction` of the IO pin. -/
def gpioSetDirection (w : World) (output : Bool) : World := settle { w with output := output }

/-! ### The driver -/

def transferBegin (w : World) : World :=
  (((w.gpioSetLevel .clk false).gpioSetLevel .io false).gpioSetDirection true).gpioSetLevel .ce true

def transferEnd (w : World) : World := w.gpioSetLevel .ce false

/-- The `i`-th turn of the loop of `DS1302_writeAddrCmd`. -/
def writeAddrCmdBit (value : Byte) (w : World) (i : Nat) : World :=
  let w := (w.gpioSetLevel .io (value &&& (1 <<< i) ≠ 0)).gpioSetLevel .clk true
  if value &&& (1 <<< 0) ≠ 0 ∧ i = 7 then w.gpioSetDirection false else w.gpioSetLevel .clk false

def writeAddrCmd (w : World) (value : Byte) : World :=
  (List.range 8).foldl (writeAddrCmdBit value) w

/-- A turn of the loop of `DS1302_writeByte`. -/
def writeByteBit (s : Byte × World) : Byte × World :=
  (s.1 >>> 1, ((s.2.gpioSetLevel .io (s.1 &&& 0x01 ≠ 0)).gpioSetLevel .clk true).gpioSetLevel
    .clk false)

def writeByte (w : World) (value : Byte) : World := (writeByteBit^[8] (value, w)).2

/-- A turn of the loop of `DS1302_readByte`. -/
def readByteBit (s : Byte × World) : Byte × World :=
  let w := (s.2.gpioSetLevel .clk true).gpioSetLevel .clk false
  (if w.gpioGetLevel then (s.1 >>> 1) ||| 0x80 else (s.1 >>> 1) &&& ~~~0x80, w)

def readByte (w : World) : Byte × World := readByteBit^[8] (0, w)

def readBuffer (w : World) : Nat → List Byte × World
  | 0 => ([], w)
  | len + 1 =>
    let (v, w) := w.readByte
    let (buf, w) := w.readBuffer len
    (v :: buf, w)

def writeClockRegister (w : World) (reg value : Byte) : World :=
  ((w.transferBegin.writeAddrCmd (cmdWriteClockReg reg)).writeByte value).transferEnd

def readClockRegister (w : World) (reg : Byte) : Byte × World :=
  let (retval, w) := (w.transferBegin.writeAddrCmd (cmdReadClockReg reg)).readByte
  (retval, w.transferEnd)

def writeByteRAM (w : World) (addr value : Byte) : World :=
  ((w.transferBegin.writeAddrCmd (cmdWriteRam addr)).writeByte value).transferEnd

def readByteRAM (w : World) (addr : Byte) : Byte × World :=
  let (value, w) := (w.transferBegin.writeAddrCmd (cmdReadRam addr)).readByte
  (value, w.transferEnd)

/-- At most `NUM_DS1302_RAM_REGS` bytes of the buffer are written. -/
def writeBufferRAM (w : World) (buf : List Byte) : World :=
  ((buf.take 31).foldl writeByte (w.transferBegin.writeAddrCmd cmdWriteRamBurst)).transferEnd

def readBufferRAM (w : World) (len : Nat) : List Byte × World :=
  let (buf, w) := (w.transferBegin.writeAddrCmd cmdReadRamBurst).readBuffer (min len 31)
  (buf, w.transferEnd)

def setDateTime (w : World) (d : DateTime) : World :=
  let (v, w) := w.readClockRegister 0
  let ch := v &&& 0x80
  let w := w.transferBegin.writeAddrCmd cmdWriteClockBurst
  let w := w.writeByte (ch ||| decToBcd (d.second &&& 0x7F))
  let w := w.writeByte (decToBcd d.minute)
  let w := w.writeByte (decToBcd (d.hour &&& 0x3F))
  let w := w.writeByte (decToBcd (d.dayMonth &&& 0x3F))
  let w := w.writeByte (decToBcd (d.month &&& 0x1F))
  let w := w.writeByte (decToBcd (d.dayWeek &&& 0x07))
  let w := w.writeByte (decToBcd (((d.year - 2000) &&& 0xFF).setWidth 8))
  let w := w.writeByte 0
  w.transferEnd

/-- The conversion of the seven bytes of `buf`, and the range check. -/
def dateTimeOf (buf : List Byte) : Bool × DateTime :=
  let d : DateTime := {
    second := bcdToDec (buf.getD 0 0 &&& 0x7f)
    minute := bcdToDec (buf.getD 1 0)
    hour := bcdToDec (buf.getD 2 0)
    dayMonth := bcdToDec (buf.getD 3 0)
    month := bcdToDec (buf.getD 4 0)
    dayWeek := bcdToDec (buf.getD 5 0)
    year := 2000 + (bcdToDec (buf.getD 6 0)).setWidth 16 }
  if d.Rejected then (false, .zero) else (true, d)

def getDateTime (w : World) : (Bool × DateTime) × World :=
  let (buf, w) := (w.transferBegin.writeAddrCmd cmdReadClockBurst).readBuffer 7
  (dateTimeOf buf, w.transferEnd)

end World

/-! ### The operations -/

inductive Op
  | writeClockRegister (reg : Fin 9) (value : Byte)
  | readClockRegister (reg : Fin 9)
  | setDateTime (d : DateTime)
  | getDateTime
  | writeByteRAM (addr : Fin 31) (value : Byte)
  | readByteRAM (addr : Fin 31)
  | writeBufferRAM (buf : List Byte)
  | readBufferRAM (len : Nat)

/-- What an operation returns. -/
inductive Result
  | unit
  | bytes (buf : List Byte)
  | dateTime (valid : Bool) (d : DateTime)

namespace Op

/-- The operation on the pins. -/
def drive (w : World) : Op → Result × World
  | .writeClockRegister reg v => (.unit, w.writeClockRegister (.ofNat 8 reg) v)
  | .readClockRegister reg =>
    let (v, w) := w.readClockRegister (.ofNat 8 reg)
    (.bytes [v], w)
  | .setDateTime d => (.unit, w.setDateTime d)
  | .getDateTime =>
    let ((valid, d), w) := w.getDateTime
    (.dateTime valid d, w)
  | .writeByteRAM addr v => (.unit, w.writeByteRAM (.ofNat 8 addr) v)
  | .readByteRAM addr =>
    let (v, w) := w.readByteRAM (.ofNat 8 addr)
    (.bytes [v], w)
  | .writeBufferRAM buf => (.unit, w.writeBufferRAM buf)
  | .readBufferRAM len =>
    let (buf, w) := w.readBufferRAM len
    (.bytes buf, w)

/-- The operation on the register file. -/
def apply (m : Memory) : Op → Result × Memory
  | .writeClockRegister reg v => (.unit, m.writeClock reg v)
  | .readClockRegister reg => (.bytes [m.readClock reg], m)
  | .setDateTime d => (.unit, { m with clock := Rtc.setDateTime m.clock d })
  | .getDateTime =>
    let (valid, d) := Rtc.getDateTime m.clock
    (.dateTime valid d, m)
  | .writeByteRAM addr v => (.unit, m.writeRam addr v)
  | .readByteRAM addr => (.bytes [m.ram addr], m)
  | .writeBufferRAM buf => (.unit, m.writeRamBuffer buf)
  | .readBufferRAM len => (.bytes (m.readRamBuffer len), m)

/-- A list of operations, on the pins or on the register file. -/
def run {σ : Type} (step : σ → Op → Result × σ) (s : σ) : List Op → List Result × σ
  | [] => ([], s)
  | op :: ops =>
    let (r, s) := step s op
    let (rs, s) := run step s ops
    (r :: rs, s)

end Op

namespace World

/-- After the pins have been set up by `DS1302_begin`. -/
def start (floating : Bool) (m : Memory) : World where
  clk := false
  ce := false
  io := false
  output := true
  floating := floating
  chip := ⟨m, .closed, none⟩
  conflict := false

/-! ### Between and during transfers -/

/-- No transfer is open. -/
structure Idle (m : Memory) (w : World) : Prop where
  ce : w.ce = false
  chip : w.chip = ⟨m, .closed, none⟩
  conflict : w.conflict = false

/-- The processor has the IO line, CLK is low and the chip is `c`. -/
structure Sends (c : Chip) (w : World) : Prop where
  ce : w.ce = true
  clk : w.clk = false
  output : w.output = true
  chip : w.chip = c
  io : c.io = none
  conflict : w.conflict = false

/-- The chip has the IO line, on which it has put `n` bits of `t`. -/
structure Reads (m : Memory) (t : Target) (n : Nat) (w : World) : Prop where
  ce : w.ce = true
  output : w.output = false
  memory : w.chip.memory = m
  transfer : w.chip.transfer = .read t n
  conflict : w.conflict = false

variable {m : Memory} {w : World} {c : Chip} {t : Target}

theorem idle_start (floating : Bool) (m : Memory) : Idle m (start floating m) := ⟨rfl, rfl, rfl⟩

theorem Idle.transferBegin (h : Idle m w) : Sends ⟨m, .command [], none⟩ w.transferBegin := by
  obtain ⟨hce, hchip, hconflict⟩ := h
  constructor <;>
    simp [World.transferBegin, gpioSetLevel, gpioSetDirection, settle, hce, hchip, hconflict,
      Chip.ceRise]

theorem Sends.transferEnd (h : Sends c w) : Idle c.memory w.transferEnd := by
  obtain ⟨hce, hclk, houtput, rfl, hio, hconflict⟩ := h
  constructor <;> simp [World.transferEnd, gpioSetLevel, settle, hce, hconflict, Chip.ceFall]

theorem Reads.transferEnd {n : Nat} (h : Reads m t n w) : Idle m w.transferEnd := by
  obtain ⟨hce, houtput, rfl, htransfer, hconflict⟩ := h
  constructor <;>
    simp [World.transferEnd, gpioSetLevel, settle, hce, hconflict, Chip.ceFall]

/-! ### A byte goes out -/

theorem Sends.rise (h : Sends c w) (b : Bool) :
    (w.gpioSetLevel .io b).gpioSetLevel .clk true =
      { w with clk := true, io := b, chip := c.clkRise b } := by
  obtain ⟨hce, hclk, houtput, rfl, hio, hconflict⟩ := h
  simp [gpioSetLevel, gpioGetLevel, settle, hce, hclk, houtput, hio, hconflict]

/-- A bit, after which CLK is low again. -/
theorem Sends.bit (h : Sends c w) {b : Bool} (hfall : (c.clkRise b).clkFall = c.clkRise b) :
    Sends (c.clkRise b)
      (((w.gpioSetLevel .io b).gpioSetLevel .clk true).gpioSetLevel .clk false) := by
  rw [h.rise b]
  obtain ⟨hce, hclk, houtput, rfl, hio, hconflict⟩ := h
  constructor <;> simp [gpioSetLevel, settle, hce, houtput, hio, hconflict, hfall]

/-- The last bit of a command that reads: CLK stays high, and the pin is turned around. -/
theorem Sends.lastBit (h : Sends c w) {b : Bool} (hread : (c.clkRise b).transfer = .read t 0) :
    Reads (c.clkRise b).memory t 0
      (((w.gpioSetLevel .io b).gpioSetLevel .clk true).gpioSetDirection false) := by
  rw [h.rise b]
  obtain ⟨hce, hclk, houtput, rfl, hio, hconflict⟩ := h
  constructor <;> simp [gpioSetDirection, settle, hce, hconflict, hread]

theorem and_shiftLeft_ne_zero (v : Byte) {i : Nat} (hi : i < 8) :
    decide (v &&& (1 <<< i) ≠ 0) = v.getLsbD i := by
  have hall : ∀ (i : Fin 8) (v : Byte), decide (v &&& (1 <<< i.val) ≠ 0) = v.getLsbD i := by
    decide +kernel
  exact hall ⟨i, hi⟩ v

theorem shiftRight_and_ne_zero (v : Byte) (i : Nat) :
    decide (v >>> i &&& 0x01 ≠ 0) = v.getLsbD i := by
  have hall : ∀ v : Byte, decide (v &&& 0x01 ≠ 0) = v.getLsbD 0 := by decide +kernel
  rw [hall, BitVec.getLsbD_ushiftRight, Nat.add_zero]

/-- The first `n` bits of a command. -/
theorem Sends.bits_writeAddrCmd (h : Sends ⟨m, .command [], none⟩ w) (v : Byte) {n : Nat}
    (hn : n ≤ 7) :
    Sends ⟨m, .command ((Lib.bits v).take n), none⟩
      ((List.range n).foldl (writeAddrCmdBit v) w) := by
  induction n with
  | zero => exact h
  | succ n ih =>
    have hs := ih (by omega)
    have hrise : (Chip.mk m (.command ((Lib.bits v).take n)) none).clkRise (v.getLsbD n) =
        ⟨m, .command ((Lib.bits v).take (n + 1)), none⟩ := by
      rw [← Chip.foldl_clkRise_take m none v (by omega), ← Chip.foldl_clkRise_take m none v hn,
        Lib.take_bits_succ v (by omega), List.foldl_append]
      rfl
    have hbit := hs.bit (b := v.getLsbD n) (by rw [hrise]; rfl)
    rw [hrise] at hbit
    rw [List.range_succ, List.foldl_append, List.foldl_cons, List.foldl_nil, writeAddrCmdBit,
      if_neg (by omega), and_shiftLeft_ne_zero v (by omega)]
    exact hbit

/-- The eighth bit makes the command. -/
theorem clkRise_last (m : Memory) (v : Byte) :
    (Chip.mk m (.command ((Lib.bits v).take 7)) none).clkRise (v.getLsbD 7) =
      ⟨m, .ofCommand v, none⟩ := by
  rw [← Chip.foldl_clkRise_command, ← Chip.foldl_clkRise_take m none v (Nat.le_refl 7)]
  rfl

theorem writeAddrCmd_eq (w : World) (v : Byte) :
    w.writeAddrCmd v = writeAddrCmdBit v ((List.range 7).foldl (writeAddrCmdBit v) w) 7 := rfl

/-- **A command that writes** leaves CLK low. -/
theorem Sends.writeAddrCmd (h : Sends ⟨m, .command [], none⟩ w) {v : Byte}
    (hv : Transfer.ofCommand v = .write t [] []) :
    Sends ⟨m, .write t [] [], none⟩ (w.writeAddrCmd v) := by
  have hs := h.bits_writeAddrCmd v (Nat.le_refl 7)
  have hbit := hs.bit (b := v.getLsbD 7) (by rw [clkRise_last, hv]; rfl)
  rw [clkRise_last, hv] at hbit
  rw [writeAddrCmd_eq, writeAddrCmdBit, if_neg fun hr => hr.1 (ofCommand_write hv),
    and_shiftLeft_ne_zero v (by decide)]
  exact hbit

/-- **A command that reads** leaves CLK high, and the line to the chip. -/
theorem Sends.reads_writeAddrCmd (h : Sends ⟨m, .command [], none⟩ w) {v : Byte}
    (hv : Transfer.ofCommand v = .read t 0) : Reads m t 0 (w.writeAddrCmd v) := by
  have hs := h.bits_writeAddrCmd v (Nat.le_refl 7)
  have hbit := hs.lastBit (b := v.getLsbD 7) (t := t) (by rw [clkRise_last, hv])
  rw [clkRise_last] at hbit
  rw [writeAddrCmd_eq, writeAddrCmdBit, if_pos ⟨ofCommand_read hv, rfl⟩,
    and_shiftLeft_ne_zero v (by decide)]
  exact hbit

/-- The first `n` bits of a byte. -/
theorem Sends.bits_writeByte {bytes : List Byte} (h : Sends ⟨m, .write t bytes [], none⟩ w)
    (v : Byte) {n : Nat} (hn : n ≤ 8) :
    (writeByteBit^[n] (v, w)).1 = v >>> n ∧
      Sends (((Lib.bits v).take n).foldl Chip.clkRise ⟨m, .write t bytes [], none⟩)
        (writeByteBit^[n] (v, w)).2 := by
  induction n with
  | zero => exact ⟨by simp, h⟩
  | succ n ih =>
    obtain ⟨hv, hs⟩ := ih (by omega)
    obtain ⟨bytes', bits', hwrite⟩ := Chip.transfer_foldl_write
      ((Lib.bits v).take n ++ [v.getLsbD n]) (c := ⟨m, .write t bytes [], none⟩) rfl
    rw [List.foldl_append] at hwrite
    have hbit := hs.bit (Chip.clkFall_write hwrite)
    rw [Function.iterate_succ_apply', Lib.take_bits_succ v (by omega), List.foldl_append]
    simp only [writeByteBit, hv, shiftRight_and_ne_zero]
    exact ⟨(BitVec.shiftRight_add v n 1).symm, hbit⟩

/-- **A byte that is written is stored.** -/
theorem Sends.writeByte {bytes : List Byte} (h : Sends ⟨m, .write t bytes [], none⟩ w) (v : Byte) :
    Sends ⟨t.store m bytes v, .write t (bytes ++ [v]) [], none⟩ (w.writeByte v) := by
  have hs := (h.bits_writeByte v (Nat.le_refl 8)).2
  rw [List.take_of_length_le (by simp), Chip.foldl_clkRise_write] at hs
  exact hs

/-! ### A byte comes in -/

/-- A rising edge, or CLK that is high already. -/
theorem Reads.rise {n : Nat} (h : Reads m t n w) :
    w.gpioSetLevel .clk true = { w with clk := true } := by
  obtain ⟨hce, houtput, hmemory, htransfer, hconflict⟩ := h
  simp [gpioSetLevel, settle, Chip.clkRise_read htransfer, houtput, hconflict]

/-- A falling edge puts the next bit on the line. -/
theorem Reads.fall {n : Nat} (h : Reads m t n w) :
    ({ w with clk := true } : World).gpioSetLevel .clk false =
      { w with clk := false
               chip := ⟨m, .read t (n + 1), some ((t.load m (n / 8)).getLsbD (n % 8))⟩ } := by
  obtain ⟨hce, houtput, rfl, htransfer, hconflict⟩ := h
  simp [gpioSetLevel, settle, Chip.clkFall_read htransfer, hce, houtput, hconflict]

theorem shiftIn_eq (v : Byte) (b : Bool) :
    (if b then (v >>> 1) ||| 0x80 else (v >>> 1) &&& ~~~0x80) = Lib.shiftIn v b := by
  revert v b
  decide +kernel

theorem Reads.bit {n : Nat} (h : Reads m t n w) (v : Byte) :
    (readByteBit (v, w)).1 = Lib.shiftIn v ((t.load m (n / 8)).getLsbD (n % 8)) ∧
      Reads m t (n + 1) (readByteBit (v, w)).2 := by
  simp only [readByteBit, h.rise, h.fall]
  refine ⟨?_, h.ce, h.output, rfl, rfl, h.conflict⟩
  exact shiftIn_eq v _

/-- The first `n` bits of the `k`-th byte. -/
theorem Reads.bits_readByte {k : Nat} (h : Reads m t (8 * k) w) {n : Nat} (hn : n ≤ 8) :
    (readByteBit^[n] (0, w)).1 = ((Lib.bits (t.load m k)).take n).foldl Lib.shiftIn 0 ∧
      Reads m t (8 * k + n) (readByteBit^[n] (0, w)).2 := by
  induction n with
  | zero => exact ⟨rfl, h⟩
  | succ n ih =>
    obtain ⟨hv, hr⟩ := ih (by omega)
    have hbit := hr.bit (readByteBit^[n] (0, w)).1
    rw [show (8 * k + n) / 8 = k by omega, show (8 * k + n) % 8 = n by omega] at hbit
    rw [Function.iterate_succ_apply', Lib.take_bits_succ _ (by omega), List.foldl_append, ← hv]
    exact hbit

/-- **A byte that is read is what the chip holds.** -/
theorem Reads.readByte {k : Nat} (h : Reads m t (8 * k) w) :
    w.readByte.1 = t.load m k ∧ Reads m t (8 * (k + 1)) w.readByte.2 := by
  obtain ⟨hv, hr⟩ := h.bits_readByte (Nat.le_refl 8)
  rw [List.take_of_length_le (by simp), Lib.foldl_shiftIn] at hv
  exact ⟨hv, hr⟩

theorem Reads.readBuffer {k : Nat} (h : Reads m t (8 * k) w) (len : Nat) :
    (w.readBuffer len).1 = (List.range' k len).map (t.load m) ∧
      Reads m t (8 * (k + len)) (w.readBuffer len).2 := by
  induction len generalizing k w with
  | zero => exact ⟨rfl, h⟩
  | succ len ih =>
    obtain ⟨hv, hr⟩ := h.readByte
    obtain ⟨hbuf, hrs⟩ := ih hr
    refine ⟨?_, ?_⟩
    · rw [List.range'_succ, List.map_cons, ← hv, ← hbuf]
      rfl
    · rw [show k + (len + 1) = k + 1 + len by omega]
      exact hrs

/-! ### The functions of the driver -/

theorem Idle.writeClockRegister (h : Idle m w) (reg : Fin 9) (v : Byte) :
    Idle (m.writeClock reg v) (w.writeClockRegister (.ofNat 8 reg) v) :=
  ((h.transferBegin.writeAddrCmd (ofCommand_writeClockReg reg)).writeByte v).transferEnd

theorem Idle.writeByteRAM (h : Idle m w) (addr : Fin 31) (v : Byte) :
    Idle (m.writeRam addr v) (w.writeByteRAM (.ofNat 8 addr) v) :=
  ((h.transferBegin.writeAddrCmd (ofCommand_writeRam addr)).writeByte v).transferEnd

theorem Idle.readClockRegister (h : Idle m w) (reg : Fin 9) :
    (w.readClockRegister (.ofNat 8 reg)).1 = m.readClock reg ∧
      Idle m (w.readClockRegister (.ofNat 8 reg)).2 := by
  have hr := h.transferBegin.reads_writeAddrCmd (ofCommand_readClockReg reg)
  obtain ⟨hv, hr⟩ := hr.readByte (k := 0)
  exact ⟨hv, hr.transferEnd⟩

theorem Idle.readByteRAM (h : Idle m w) (addr : Fin 31) :
    (w.readByteRAM (.ofNat 8 addr)).1 = m.ram addr ∧
      Idle m (w.readByteRAM (.ofNat 8 addr)).2 := by
  have hr := h.transferBegin.reads_writeAddrCmd (ofCommand_readRam addr)
  obtain ⟨hv, hr⟩ := hr.readByte (k := 0)
  exact ⟨hv, hr.transferEnd⟩

/-- The eight bytes of the burst are stored together. -/
theorem Idle.setDateTime (h : Idle m w) (d : DateTime) :
    Idle { m with clock := Rtc.setDateTime m.clock d } (w.setDateTime d) := by
  have hv : (w.readClockRegister 0).1 = m.clock.seconds := (h.readClockRegister 0).1
  have hidle : Idle m (w.readClockRegister 0).2 := (h.readClockRegister 0).2
  have h0 := hidle.transferBegin.writeAddrCmd ofCommand_writeClockBurst
  have h1 := h0.writeByte (m.clock.ch ||| decToBcd (d.second &&& 0x7F))
  have h2 := h1.writeByte (decToBcd d.minute)
  have h3 := h2.writeByte (decToBcd (d.hour &&& 0x3F))
  have h4 := h3.writeByte (decToBcd (d.dayMonth &&& 0x3F))
  have h5 := h4.writeByte (decToBcd (d.month &&& 0x1F))
  have h6 := h5.writeByte (decToBcd (d.dayWeek &&& 0x07))
  have h7 := h6.writeByte (decToBcd (((d.year - 2000) &&& 0xFF).setWidth 8))
  have h8 := h7.writeByte 0
  simp only [World.setDateTime, hv]
  exact h8.transferEnd

theorem Idle.getDateTime (h : Idle m w) :
    w.getDateTime.1 = Rtc.getDateTime m.clock ∧ Idle m w.getDateTime.2 := by
  have hr := h.transferBegin.reads_writeAddrCmd ofCommand_readClockBurst
  obtain ⟨hbuf, hr⟩ := hr.readBuffer (k := 0) 7
  refine ⟨?_, hr.transferEnd⟩
  show dateTimeOf ((w.transferBegin.writeAddrCmd cmdReadClockBurst).readBuffer 7).1 = _
  rw [hbuf]
  rfl

/-- A burst fills the RAM from where the last byte was stored. -/
theorem Sends.foldl_writeByte (buf : List Byte) {bytes : List Byte}
    (h : Sends ⟨m.writeRamBuffer bytes, .write .ramBurst bytes [], none⟩ w)
    (hlen : bytes.length + buf.length ≤ 31) :
    Sends ⟨m.writeRamBuffer (bytes ++ buf), .write .ramBurst (bytes ++ buf) [], none⟩
      (buf.foldl World.writeByte w) := by
  induction buf generalizing w bytes with
  | nil =>
    rw [List.append_nil]
    exact h
  | cons v buf ih =>
    rw [List.length_cons] at hlen
    have hs := h.writeByte v
    have hstore : Target.ramBurst.store (m.writeRamBuffer bytes) bytes v =
        m.writeRamBuffer (bytes ++ [v]) := by
      show (if h : bytes.length < 31 then _ else _) = _
      rw [dif_pos (by omega)]
      exact m.writeRam_writeRamBuffer bytes v _
    rw [hstore] at hs
    have hrest := ih hs (by rw [List.length_append, List.length_singleton]; omega)
    rw [List.append_assoc] at hrest
    exact hrest

theorem Idle.writeBufferRAM (h : Idle m w) (buf : List Byte) :
    Idle (m.writeRamBuffer buf) (w.writeBufferRAM buf) := by
  have hs := h.transferBegin.writeAddrCmd ofCommand_writeRamBurst
  rw [← m.writeRamBuffer_nil] at hs
  have hall := (hs.foldl_writeByte (buf.take 31)
    (by rw [List.length_nil, List.length_take]; omega)).transferEnd
  rw [List.nil_append, m.writeRamBuffer_take] at hall
  exact hall

theorem Idle.readBufferRAM (h : Idle m w) (len : Nat) :
    (w.readBufferRAM len).1 = m.readRamBuffer len ∧ Idle m (w.readBufferRAM len).2 := by
  have hr := h.transferBegin.reads_writeAddrCmd ofCommand_readRamBurst
  obtain ⟨hbuf, hr⟩ := hr.readBuffer (k := 0) (min len 31)
  refine ⟨?_, hr.transferEnd⟩
  show ((w.transferBegin.writeAddrCmd cmdReadRamBurst).readBuffer (min len 31)).1 = _
  rw [hbuf]
  exact m.readRamBuffer_eq len

/-! ### Any list of operations -/

/-- **Every operation on the pins does what it does on the register file.** -/
theorem Idle.drive (h : Idle m w) (op : Op) :
    (op.drive w).1 = (op.apply m).1 ∧ Idle (op.apply m).2 (op.drive w).2 := by
  cases op with
  | writeClockRegister reg v => exact ⟨rfl, h.writeClockRegister reg v⟩
  | readClockRegister reg =>
    obtain ⟨hv, hidle⟩ := h.readClockRegister reg
    exact ⟨congrArg (fun v => Result.bytes [v]) hv, hidle⟩
  | setDateTime d => exact ⟨rfl, h.setDateTime d⟩
  | getDateTime =>
    obtain ⟨hd, hidle⟩ := h.getDateTime
    exact ⟨congrArg (fun d : Bool × DateTime => Result.dateTime d.1 d.2) hd, hidle⟩
  | writeByteRAM addr v => exact ⟨rfl, h.writeByteRAM addr v⟩
  | readByteRAM addr =>
    obtain ⟨hv, hidle⟩ := h.readByteRAM addr
    exact ⟨congrArg (fun v => Result.bytes [v]) hv, hidle⟩
  | writeBufferRAM buf => exact ⟨rfl, h.writeBufferRAM buf⟩
  | readBufferRAM len =>
    obtain ⟨hbuf, hidle⟩ := h.readBufferRAM len
    exact ⟨congrArg Result.bytes hbuf, hidle⟩

theorem Idle.run (h : Idle m w) (ops : List Op) :
    (Op.run Op.drive w ops).1 = (Op.run Op.apply m ops).1 ∧
      Idle (Op.run Op.apply m ops).2 (Op.run Op.drive w ops).2 := by
  induction ops generalizing m w with
  | nil => exact ⟨rfl, h⟩
  | cons op ops ih =>
    obtain ⟨hr, hidle⟩ := h.drive op
    obtain ⟨hrs, hidle⟩ := ih hidle
    exact ⟨congrArg₂ List.cons hr hrs, hidle⟩

/-- **The driver refines the register file**: over any list of operations the same is
returned, the chip ends with the same contents, and the processor and the chip never
both drive the IO line. -/
theorem run_drive (floating : Bool) (m : Memory) (ops : List Op) :
    let pins := Op.run Op.drive (start floating m) ops
    let file := Op.run Op.apply m ops
    pins.1 = file.1 ∧ pins.2.chip.memory = file.2 ∧ pins.2.conflict = false := by
  obtain ⟨hresults, hidle⟩ := (idle_start floating m).run ops
  exact ⟨hresults, congrArg Chip.memory hidle.chip, hidle.conflict⟩

end World

end Datk.Rtc
