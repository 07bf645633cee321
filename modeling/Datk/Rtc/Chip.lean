import Datk.Lib.Bits
import Datk.Rtc.Registers

/-!
# The DS1302 behind its three wires

The chip takes part in a transfer while CE is high.  It takes a bit off the IO line at
every rising edge of CLK, the least significant of a byte first, and the first byte is
the command.  For a command that reads, it puts the bits of what it holds on the line,
one at every falling edge that follows.  A burst steps through the clock registers 0 to
7, all of which are stored when the last has arrived, or through the RAM.

`Memory` is what the chip holds, with the operations that a register file has.  The
write protect bit keeps a byte from everything but its own register, and a burst from that
as well.
-/

namespace Datk.Rtc

/-- The clock registers 0 to 7, the trickle charger register 8, and the RAM. -/
structure Memory where
  clock : Registers
  tc : Byte
  ram : Fin 31 → Byte

/-! ### The register file -/

namespace Memory

def readClock (m : Memory) : Fin 9 → Byte
  | 0 => m.clock.seconds
  | 1 => m.clock.minutes
  | 2 => m.clock.hours
  | 3 => m.clock.dayMonth
  | 4 => m.clock.month
  | 5 => m.clock.dayWeek
  | 6 => m.clock.year
  | 7 => m.clock.wp
  | 8 => m.tc

def setClock (m : Memory) (v : Byte) : Fin 9 → Memory
  | 0 => { m with clock.seconds := v }
  | 1 => { m with clock.minutes := v }
  | 2 => { m with clock.hours := v }
  | 3 => { m with clock.dayMonth := v }
  | 4 => { m with clock.month := v }
  | 5 => { m with clock.dayWeek := v }
  | 6 => { m with clock.year := v }
  | 7 => { m with clock.wp := v }
  | 8 => { m with tc := v }

/-- The write protect register can always be written. -/
def writeClock (m : Memory) (reg : Fin 9) (v : Byte) : Memory :=
  if isWriteProtected m.clock ∧ reg ≠ 7 then m else m.setClock v reg

def writeRam (m : Memory) (addr : Fin 31) (v : Byte) : Memory :=
  if isWriteProtected m.clock then m else { m with ram := Function.update m.ram addr v }

/-- The first bytes of the RAM are overwritten by those of `buf`. -/
def writeRamBuffer (m : Memory) (buf : List Byte) : Memory :=
  if isWriteProtected m.clock then m
    else { m with ram := fun addr => buf.getD addr (m.ram addr) }

def readRamBuffer (m : Memory) (len : Nat) : List Byte := (List.ofFn m.ram).take len

theorem isWriteProtected_writeRamBuffer (m : Memory) (buf : List Byte) :
    isWriteProtected (m.writeRamBuffer buf).clock = isWriteProtected m.clock := by
  unfold writeRamBuffer
  split <;> rfl

theorem writeRamBuffer_nil (m : Memory) : m.writeRamBuffer [] = m := by
  unfold writeRamBuffer
  split <;> rfl

/-- Only as much is written as there is RAM. -/
theorem writeRamBuffer_take (m : Memory) (buf : List Byte) :
    m.writeRamBuffer (buf.take 31) = m.writeRamBuffer buf := by
  have hget : ∀ addr : Fin 31,
      (buf.take 31).getD addr (m.ram addr) = buf.getD addr (m.ram addr) := by
    intro addr
    simp [List.getD_eq_getElem?_getD]
  simp only [writeRamBuffer, hget]

/-- A buffer is written byte by byte. -/
theorem writeRam_writeRamBuffer (m : Memory) (buf : List Byte) (v : Byte) (h : buf.length < 31) :
    (m.writeRamBuffer buf).writeRam ⟨buf.length, h⟩ v = m.writeRamBuffer (buf ++ [v]) := by
  rw [writeRam, isWriteProtected_writeRamBuffer]
  by_cases hwp : isWriteProtected m.clock
  · simp only [writeRamBuffer, if_pos hwp]
  · simp only [writeRamBuffer, if_neg hwp, Memory.mk.injEq, true_and]
    funext addr
    by_cases haddr : addr = ⟨buf.length, h⟩
    · rw [haddr, Function.update_self]
      simp
    · have hne : addr.val ≠ buf.length := fun he => haddr (Fin.ext he)
      rw [Function.update_of_ne haddr]
      by_cases hlt : addr.val < buf.length
      · simp [List.getElem?_append_left hlt]
      · have hlen : (buf ++ [v]).length ≤ addr.val := by
          rw [List.length_append, List.length_singleton]
          omega
        simp [List.getElem?_eq_none hlen, Nat.le_of_not_lt hlt]

theorem readRamBuffer_eq (m : Memory) (len : Nat) :
    (List.range' 0 (min len 31)).map (fun k => m.ram (Fin.ofNat 31 k)) = m.readRamBuffer len := by
  apply List.ext_getElem
  · simp [readRamBuffer]
  · intro i hi hi'
    rw [List.length_map, List.length_range'] at hi
    have hlt : i < 31 := by omega
    simp only [readRamBuffer, List.getElem_map, List.getElem_range', List.getElem_take,
      List.getElem_ofFn, Fin.ofNat, Nat.zero_add, Nat.one_mul, Nat.mod_eq_of_lt hlt]

end Memory

/-! ### The command byte -/

/-- What a command reads or writes. -/
inductive Target
  | clock (reg : Fin 9)
  | clockBurst
  | ram (addr : Fin 31)
  | ramBurst
  deriving DecidableEq

namespace Target

/-- Bit 7 has to be set, bit 6 chooses the RAM, and the address 31 stands for a burst. -/
def ofCommand (b : Byte) : Option Target :=
  let addr := ((b >>> 1) &&& 0x1f).toNat
  if b &&& 0x80 = 0 then none
  else if b &&& 0x40 = 0 then
    if h : addr < 9 then some (.clock ⟨addr, h⟩)
    else if addr = 31 then some .clockBurst else none
  else if h : addr < 31 then some (.ram ⟨addr, h⟩) else some .ramBurst

/-- The `k`-th byte that is read. -/
def load (t : Target) (m : Memory) (k : Nat) : Byte :=
  match t with
  | .clock reg => m.readClock reg
  | .clockBurst => m.readClock (Fin.ofNat 9 (k % 8))
  | .ram addr => m.ram addr
  | .ramBurst => m.ram (Fin.ofNat 31 k)

/-- The byte `b` arrives after the bytes `done`. -/
def store (t : Target) (m : Memory) (done : List Byte) (b : Byte) : Memory :=
  match t, done with
  | .clock reg, [] => m.writeClock reg b
  | .clockBurst, [b0, b1, b2, b3, b4, b5, b6] =>
    { m with clock := writeClockBurst m.clock ⟨b0, b1, b2, b3, b4, b5, b6, b⟩ }
  | .ram addr, [] => m.writeRam addr b
  | .ramBurst, done => if h : done.length < 31 then m.writeRam ⟨done.length, h⟩ b else m
  | _, _ => m

end Target

/-! ### The chip -/

inductive Transfer
  /-- CE is low. -/
  | closed
  | command (bits : List Bool)
  | write (t : Target) (bytes : List Byte) (bits : List Bool)
  /-- So many bits have been put on the line. -/
  | read (t : Target) (bits : Nat)
  /-- The command byte was no command. -/
  | ignored
  deriving DecidableEq

/-- The first bit of a command says whether it reads. -/
def Transfer.ofCommand (b : Byte) : Transfer :=
  match Target.ofCommand b with
  | none => .ignored
  | some t => if b &&& 0x01 = 0 then .write t [] [] else .read t 0

structure Chip where
  memory : Memory
  transfer : Transfer
  /-- What the chip puts on the IO line. -/
  io : Option Bool

namespace Chip

def ceRise (c : Chip) : Chip := { c with transfer := .command [] }

def ceFall (c : Chip) : Chip := { c with transfer := .closed, io := none }

/-- A rising edge of CLK, with `b` on the IO line. -/
def clkRise (c : Chip) (b : Bool) : Chip :=
  match c.transfer with
  | .command bits =>
    if bits.length = 7 then
      { c with transfer := .ofCommand (Lib.ofBits 8 (bits ++ [b])) }
    else { c with transfer := .command (bits ++ [b]) }
  | .write t bytes bits =>
    if bits.length = 7 then
      let byte := Lib.ofBits 8 (bits ++ [b])
      { c with memory := t.store c.memory bytes byte, transfer := .write t (bytes ++ [byte]) [] }
    else { c with transfer := .write t bytes (bits ++ [b]) }
  | _ => c

def clkFall (c : Chip) : Chip :=
  match c.transfer with
  | .read t n =>
    { c with transfer := .read t (n + 1)
             io := some ((t.load c.memory (n / 8)).getLsbD (n % 8)) }
  | _ => c

end Chip

/-! ### What the driver sends -/

/-- `DS1302_CMD_READ_CLOCK_REG`. -/
def cmdReadClockReg (reg : Byte) : Byte := 0x80 ||| 0x00 ||| ((reg &&& 0x1F) <<< 1) ||| 0x01

/-- `DS1302_CMD_WRITE_CLOCK_REG`. -/
def cmdWriteClockReg (reg : Byte) : Byte := 0x80 ||| 0x00 ||| ((reg &&& 0x1F) <<< 1) ||| 0x00

/-- `DS1302_CMD_READ_CLOCK_BURST`. -/
def cmdReadClockBurst : Byte := 0x80 ||| 0x00 ||| 0x3E ||| 0x01

/-- `DS1302_CMD_WRITE_CLOCK_BURST`. -/
def cmdWriteClockBurst : Byte := 0x80 ||| 0x00 ||| 0x3E ||| 0x00

/-- `DS1302_CMD_READ_RAM`. -/
def cmdReadRam (addr : Byte) : Byte := 0x80 ||| 0x40 ||| ((addr &&& 0x1F) <<< 1) ||| 0x01

/-- `DS1302_CMD_WRITE_RAM`. -/
def cmdWriteRam (addr : Byte) : Byte := 0x80 ||| 0x40 ||| ((addr &&& 0x1F) <<< 1) ||| 0x00

/-- `DS1302_CMD_READ_RAM_BURST`. -/
def cmdReadRamBurst : Byte := 0x80 ||| 0x40 ||| 0x3E ||| 0x01

/-- `DS1302_CMD_WRITE_RAM_BURST`. -/
def cmdWriteRamBurst : Byte := 0x80 ||| 0x40 ||| 0x3E ||| 0x00

theorem ofCommand_readClockReg (reg : Fin 9) :
    Transfer.ofCommand (cmdReadClockReg (.ofNat 8 reg)) = .read (.clock reg) 0 := by
  revert reg
  decide

theorem ofCommand_writeClockReg (reg : Fin 9) :
    Transfer.ofCommand (cmdWriteClockReg (.ofNat 8 reg)) = .write (.clock reg) [] [] := by
  revert reg
  decide

theorem ofCommand_readRam (addr : Fin 31) :
    Transfer.ofCommand (cmdReadRam (.ofNat 8 addr)) = .read (.ram addr) 0 := by
  revert addr
  decide

theorem ofCommand_writeRam (addr : Fin 31) :
    Transfer.ofCommand (cmdWriteRam (.ofNat 8 addr)) = .write (.ram addr) [] [] := by
  revert addr
  decide

theorem ofCommand_readClockBurst :
    Transfer.ofCommand cmdReadClockBurst = .read .clockBurst 0 := by decide

theorem ofCommand_writeClockBurst :
    Transfer.ofCommand cmdWriteClockBurst = .write .clockBurst [] [] := by decide

theorem ofCommand_readRamBurst : Transfer.ofCommand cmdReadRamBurst = .read .ramBurst 0 := by
  decide

theorem ofCommand_writeRamBurst :
    Transfer.ofCommand cmdWriteRamBurst = .write .ramBurst [] [] := by decide

theorem ofCommand_write {v : Byte} {t : Target} (h : Transfer.ofCommand v = .write t [] []) :
    v &&& 0x01 = 0 := by
  unfold Transfer.ofCommand at h
  split at h
  · cases h
  · by_cases hv : v &&& 0x01 = 0
    · exact hv
    · rw [if_neg hv] at h
      cases h

theorem ofCommand_read {v : Byte} {t : Target} (h : Transfer.ofCommand v = .read t 0) :
    v &&& 0x01 ≠ 0 := by
  intro hv
  unfold Transfer.ofCommand at h
  split at h
  · cases h
  · rw [if_pos hv] at h
    cases h

/-! ### Eight edges -/

namespace Chip

theorem bits_eq (v : Byte) :
    ∃ b0 b1 b2 b3 b4 b5 b6 b7, Lib.bits v = [b0, b1, b2, b3, b4, b5, b6, b7] :=
  ⟨_, _, _, _, _, _, _, _, rfl⟩

variable (m : Memory) (io : Option Bool)

theorem foldl_clkRise_command (v : Byte) :
    (Lib.bits v).foldl clkRise ⟨m, .command [], io⟩ = ⟨m, .ofCommand v, io⟩ := by
  have hword := Lib.ofBits_bits v
  obtain ⟨b0, b1, b2, b3, b4, b5, b6, b7, hbits⟩ := bits_eq v
  rw [hbits] at hword ⊢
  simp [clkRise, hword]

/-- A byte that arrives is stored. -/
theorem foldl_clkRise_write (t : Target) (bytes : List Byte) (v : Byte) :
    (Lib.bits v).foldl clkRise ⟨m, .write t bytes [], io⟩ =
      ⟨t.store m bytes v, .write t (bytes ++ [v]) [], io⟩ := by
  have hword := Lib.ofBits_bits v
  obtain ⟨b0, b1, b2, b3, b4, b5, b6, b7, hbits⟩ := bits_eq v
  rw [hbits] at hword ⊢
  simp [clkRise, hword]

/-- The bits of a command are collected until there are eight. -/
theorem foldl_clkRise_take (v : Byte) {n : Nat} (hn : n ≤ 7) :
    ((Lib.bits v).take n).foldl clkRise ⟨m, .command [], io⟩ =
      ⟨m, .command ((Lib.bits v).take n), io⟩ := by
  induction n with
  | zero => rfl
  | succ n ih =>
    have hlen : ((Lib.bits v).take n).length ≠ 7 := by
      simp only [List.length_take, Lib.length_bits]
      omega
    rw [Lib.take_bits_succ v (by omega), List.foldl_append, ih (by omega)]
    simp only [List.foldl_cons, List.foldl_nil, clkRise, if_neg hlen]

/-- Only a falling edge moves the line. -/
@[simp] theorem io_clkRise (c : Chip) (b : Bool) : (c.clkRise b).io = c.io := by
  unfold clkRise
  split
  · split <;> rfl
  · split <;> rfl
  · rfl

theorem clkRise_read {c : Chip} {t : Target} {n : Nat} (h : c.transfer = .read t n) (b : Bool) :
    c.clkRise b = c := by simp [clkRise, h]

theorem clkFall_read {c : Chip} {t : Target} {n : Nat} (h : c.transfer = .read t n) :
    c.clkFall = ⟨c.memory, .read t (n + 1), some ((t.load c.memory (n / 8)).getLsbD (n % 8))⟩ := by
  simp [clkFall, h]

theorem clkFall_write {c : Chip} {t : Target} {bytes : List Byte} {bits : List Bool}
    (h : c.transfer = .write t bytes bits) : c.clkFall = c := by simp [clkFall, h]

/-- A command that writes is carried out until the transfer ends. -/
theorem transfer_clkRise_write {c : Chip} {t : Target} {bytes : List Byte} {bits : List Bool}
    (h : c.transfer = .write t bytes bits) (b : Bool) :
    ∃ bytes bits, (c.clkRise b).transfer = .write t bytes bits := by
  simp only [clkRise, h]
  by_cases hlen : bits.length = 7
  · rw [if_pos hlen]
    exact ⟨_, _, rfl⟩
  · rw [if_neg hlen]
    exact ⟨_, _, rfl⟩

theorem transfer_foldl_write (bs : List Bool) {c : Chip} {t : Target} {bytes : List Byte}
    {bits : List Bool} (h : c.transfer = .write t bytes bits) :
    ∃ bytes bits, (bs.foldl clkRise c).transfer = .write t bytes bits := by
  induction bs generalizing c bytes bits with
  | nil => exact ⟨_, _, h⟩
  | cons b bs ih =>
    obtain ⟨bytes, bits, hrise⟩ := transfer_clkRise_write h b
    exact ih hrise

end Chip

end Datk.Rtc
