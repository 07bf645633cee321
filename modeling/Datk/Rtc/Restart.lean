import Datk.Rtc.Clock

/-!
# A restart while the clock is being set

`DS1302_setDateTime` moves the pins more than two hundred times, with delays between.
`setDateTimePins` is the list of these moves.  If the processor restarts after any number
of them and calls `DS1302_begin`, the date-time read is the one from before or the one
that was being set, never a mixture (`dateTime_restarted`), as the chip stores the
registers of a burst together.
-/

namespace Datk.Rtc

namespace World

/-! ### The pins, move by move -/

def transferBeginPins : List PinOp :=
  [.level .clk false, .level .io false, .direction true, .level .ce true]

def transferEndPins : List PinOp := [.level .ce false]

def writeAddrCmdPins (value : Byte) : List PinOp :=
  (List.range 8).flatMap fun i =>
    [.level .io (value &&& (1 <<< i) ≠ 0), .level .clk true,
      if value &&& (1 <<< 0) ≠ 0 ∧ i = 7 then .direction false else .level .clk false]

def writeBytePins (value : Byte) : List PinOp := (Lib.bits value).flatMap bitPins

def readBytePins : List PinOp := (List.replicate 8 [.level .clk true, .level .clk false]).flatten

def readClockRegisterPins (reg : Byte) : List PinOp :=
  transferBeginPins ++ (writeAddrCmdPins (cmdReadClockReg reg) ++ (readBytePins ++ transferEndPins))

/-- The bytes of the burst, where `ch` is the clock halt bit. -/
def dateTimeBytes (ch : Byte) (d : DateTime) : List Byte :=
  [ch ||| decToBcd (d.second &&& 0x7F), decToBcd d.minute, decToBcd (d.hour &&& 0x3F),
    decToBcd (d.dayMonth &&& 0x3F), decToBcd (d.month &&& 0x1F), decToBcd (d.dayWeek &&& 0x07),
    decToBcd (((d.year - 2000) &&& 0xFF).setWidth 8), 0]

def setDateTimePins (ch : Byte) (d : DateTime) : List PinOp :=
  readClockRegisterPins 0 ++ (transferBeginPins ++ (writeAddrCmdPins cmdWriteClockBurst ++
    ((dateTimeBytes ch d).flatMap writeBytePins ++ transferEndPins)))

variable {m : Memory} {w : World} {c : Chip} {t : Target}

theorem pins_append (w : World) (as bs : List PinOp) : w.pins (as ++ bs) = (w.pins as).pins bs :=
  List.foldl_append

theorem pins_writeAddrCmd (w : World) (value : Byte) :
    w.pins (writeAddrCmdPins value) = w.writeAddrCmd value := by
  rw [pins, writeAddrCmdPins, List.foldl_flatMap, writeAddrCmd]
  congr 1
  funext w i
  rw [writeAddrCmdBit]
  by_cases hlast : value &&& (1 <<< 0) ≠ 0 ∧ i = 7
  · rw [if_pos hlast, if_pos hlast]
    rfl
  · rw [if_neg hlast, if_neg hlast]
    rfl

theorem pins_writeByte (w : World) (value : Byte) :
    w.pins (writeBytePins value) = w.writeByte value := by
  have hbits : ∀ n, writeByteBit^[n] (value, w) = (value >>> n,
      ((List.range n).map value.getLsbD).foldl (fun w b => w.pins (bitPins b)) w) := by
    intro n
    induction n with
    | zero => simp
    | succ n ih =>
      rw [Function.iterate_succ_apply', ih, List.range_succ, List.map_append, List.foldl_append]
      simp only [writeByteBit, shiftRight_and_ne_zero, List.map_cons, List.map_nil,
        List.foldl_cons, List.foldl_nil]
      rw [BitVec.shiftRight_add]
      rfl
  rw [writeByte, hbits, pins, writeBytePins, List.foldl_flatMap]
  rfl

theorem pins_readByte (w : World) : w.pins readBytePins = w.readByte.2 := by
  have hbits : ∀ n, (readByteBit^[n] (0, w)).2 =
      w.pins (List.replicate n [.level .clk true, .level .clk false]).flatten := by
    intro n
    induction n with
    | zero => rfl
    | succ n ih =>
      rw [Function.iterate_succ_apply', List.replicate_succ', List.flatten_append, pins_append,
        ← ih]
      rfl
  exact (hbits 8).symm

theorem pins_readClockRegister (w : World) (reg : Byte) :
    w.pins (readClockRegisterPins reg) = (w.readClockRegister reg).2 := by
  rw [readClockRegisterPins, pins_append, pins_append, pins_append, pins_writeAddrCmd,
    pins_readByte]
  rfl

theorem pins_bytes (w : World) (bytes : List Byte) :
    w.pins (bytes.flatMap writeBytePins) = bytes.foldl writeByte w := by
  rw [pins, List.foldl_flatMap]
  congr 1
  funext w v
  exact pins_writeByte w v

/-- **The list of moves is what `DS1302_setDateTime` does.** -/
theorem Idle.pins_setDateTime (h : Idle m w) (d : DateTime) :
    w.pins (setDateTimePins m.clock.ch d) = w.setDateTime d := by
  have hv : (w.readClockRegister 0).1 = m.clock.seconds := (h.readClockRegister 0).1
  rw [setDateTimePins, pins_append, pins_append, pins_append, pins_append, pins_readClockRegister,
    pins_writeAddrCmd, pins_bytes]
  simp only [World.setDateTime, hv]
  rfl

/-! ### What a restart leaves -/

/-- The RAM is as it was, and the date-time is the old one or the one being set. -/
def OldOrNew (m : Memory) (d : DateTime) (m' : Memory) : Prop :=
  m'.ram = m.ram ∧ (Rtc.getDateTime m'.clock = Rtc.getDateTime m.clock ∨
    Rtc.getDateTime m'.clock = Rtc.getDateTime (Rtc.setDateTime m.clock d))

/-- The byte that is arriving may be stored or not. -/
structure Safe (m : Memory) (d : DateTime) (c : Chip) : Prop where
  memory : OldOrNew m d c.memory
  store : ∀ {t bytes bits}, c.transfer = .write t bytes bits → bits.length = 7 → ∀ b,
    OldOrNew m d (t.store c.memory bytes (Lib.ofBits 8 (bits ++ [b])))

variable {d : DateTime} {m' : Memory}

theorem OldOrNew.refl (m : Memory) (d : DateTime) : OldOrNew m d m := ⟨rfl, .inl rfl⟩

theorem Safe.givenUp (h : Safe m d w.chip) (hm : w.GivenUp m') : OldOrNew m d m' := by
  rcases hm with rfl | ⟨t, bytes, bits, b, ht, hlen, rfl⟩
  · exact h.memory
  · exact h.store ht hlen b

/-- Nothing is being written. -/
theorem safe_of_quiet (hm : c.memory = m)
    (ht : ∀ t bytes bits, c.transfer ≠ .write t bytes bits) : Safe m d c where
  memory := by
    rw [hm]
    exact .refl m d
  store := fun h => absurd h (ht _ _ _)

theorem Idle.safe (h : Idle m' w) (hm : OldOrNew m d m') : Safe m d w.chip := by
  rw [h.chip]
  exact ⟨hm, fun ht => nomatch ht⟩

theorem Sends.safe (h : Sends c w) (hc : Safe m d c) : Safe m d w.chip := by
  rw [h.chip]
  exact hc

theorem Reads.safe {n : Nat} (h : Reads m t n w) : Safe m d w.chip :=
  safe_of_quiet h.memory fun t bytes bits ht => by
    rw [h.transfer] at ht
    cases ht

/-! ### The bytes of the burst -/

theorem store_of_length_lt {done : List Byte} (h : done.length < 7) (v : Byte) :
    Target.clockBurst.store m done v = m := by
  match done with
  | [] | [_] | [_, _] | [_, _, _] | [_, _, _, _] | [_, _, _, _, _] | [_, _, _, _, _, _] => rfl
  | _ :: _ :: _ :: _ :: _ :: _ :: _ :: rest =>
    simp only [List.length_cons] at h
    omega

/-- The write protect byte, which comes last, is no part of the date-time. -/
theorem oldOrNew_store (m : Memory) (d : DateTime) (v : Byte) :
    OldOrNew m d (Target.clockBurst.store m ((dateTimeBytes m.clock.ch d).take 7) v) := by
  refine ⟨rfl, ?_⟩
  show Rtc.getDateTime (writeClockBurst m.clock _) = _ ∨
    Rtc.getDateTime (writeClockBurst m.clock _) = Rtc.getDateTime (writeClockBurst m.clock _)
  by_cases hwp : Rtc.isWriteProtected m.clock
  · left
    rw [writeClockBurst, if_pos hwp]
  · right
    rw [writeClockBurst, if_neg hwp, writeClockBurst, if_neg hwp]
    rfl

theorem store_dateTimeBytes (m : Memory) (d : DateTime) :
    Target.clockBurst.store m ((dateTimeBytes m.clock.ch d).take 7) 0 =
      { m with clock := Rtc.setDateTime m.clock d } := rfl

theorem foldl_clkRise_write_take (t : Target) (bytes : List Byte) (v : Byte) {n : Nat}
    (hn : n ≤ 7) (io : Option Bool) :
    ((Lib.bits v).take n).foldl Chip.clkRise ⟨m, .write t bytes [], io⟩ =
      ⟨m, .write t bytes ((Lib.bits v).take n), io⟩ := by
  induction n with
  | zero => rfl
  | succ n ih =>
    have hlen : ((Lib.bits v).take n).length ≠ 7 := by
      simp only [List.length_take, Lib.length_bits]
      omega
    rw [Lib.take_bits_succ v (by omega), List.foldl_append, ih (by omega)]
    simp only [List.foldl_cons, List.foldl_nil, Chip.clkRise, if_neg hlen]

/-- **At no bit of the burst is the date-time a mixture.** -/
theorem safe_bits {bytes done : List Byte} (hall : done ++ bytes = dateTimeBytes m.clock.ch d)
    (hm : m' = if bytes = [] then { m with clock := Rtc.setDateTime m.clock d } else m) {n : Nat}
    (hn : n ≤ 8 * bytes.length) :
    Safe m d (((bytes.flatMap Lib.bits).take n).foldl Chip.clkRise
      ⟨m', .write .clockBurst done [], none⟩) := by
  induction bytes generalizing done m' n with
  | nil =>
    rw [if_pos rfl] at hm
    rw [hm, List.flatMap_nil, List.take_nil]
    refine ⟨⟨rfl, .inr rfl⟩, ?_⟩
    intro t bytes bits ht hlen
    cases ht
    cases hlen
  | cons v bytes ih =>
    rw [if_neg (List.cons_ne_nil v bytes)] at hm
    subst hm
    have hlen : done.length + (bytes.length + 1) = 8 := by
      rw [← List.length_cons, ← List.length_append, hall]
      rfl
    have hlast : bytes = [] → done = (dateTimeBytes m'.clock.ch d).take 7 ∧ v = 0 := by
      rintro rfl
      have hseven : done.length = 7 := by simpa using hlen
      rw [← hall, ← hseven, List.take_left]
      have hget := congrArg (fun l : List Byte => l[7]?) hall
      simp only [← hseven, List.getElem?_concat_length] at hget
      refine ⟨rfl, ?_⟩
      rw [hseven] at hget
      exact Option.some.inj hget
    by_cases hbyte : n ≤ 7
    · rw [List.flatMap_cons, List.take_append_of_le_length (by rw [Lib.length_bits]; omega),
        foldl_clkRise_write_take _ _ _ hbyte]
      refine ⟨.refl m' d, ?_⟩
      intro t bytes' bits ht _ b
      cases ht
      by_cases hmore : bytes = []
      · rw [(hlast hmore).1]
        exact oldOrNew_store m' d _
      · have hpos : 0 < bytes.length := List.length_pos_iff.mpr hmore
        rw [store_of_length_lt (by omega)]
        exact .refl m' d
    · have htake : (v :: bytes).flatMap Lib.bits = Lib.bits v ++ bytes.flatMap Lib.bits := rfl
      rw [htake, List.take_append, Lib.length_bits,
        List.take_of_length_le (by rw [Lib.length_bits]; omega), List.foldl_append,
        Chip.foldl_clkRise_write]
      rw [List.length_cons] at hn
      refine ih (by rw [List.append_assoc]; exact hall) ?_ (by omega)
      by_cases hmore : bytes = []
      · rw [if_pos hmore, (hlast hmore).1, (hlast hmore).2, store_dateTimeBytes]
      · have hpos : 0 < bytes.length := List.length_pos_iff.mpr hmore
        rw [if_neg hmore, store_of_length_lt (by omega)]

/-! ### Move by move -/

/-- Wherever the moves are cut off, a restart is safe. -/
def Guarded (m : Memory) (d : DateTime) (w : World) (ops : List PinOp) : Prop :=
  Lib.Throughout PinOp.run (fun w => Safe m d w.chip) w ops

theorem Guarded.append {as bs : List PinOp} (has : Guarded m d w as)
    (hbs : Guarded m d (w.pins as) bs) : Guarded m d w (as ++ bs) :=
  Lib.Throughout.append has hbs

theorem Guarded.last {ops : List PinOp} (h : Guarded m d w ops) : Safe m d (w.pins ops).chip :=
  Lib.Throughout.last (p := fun w : World => Safe m d w.chip) h

theorem Guarded.take {ops : List PinOp} (h : Guarded m d w ops) (n : Nat) :
    Safe m d (w.pins (ops.take n)).chip :=
  Lib.Throughout.take (p := fun w : World => Safe m d w.chip) h n

theorem Idle.guarded_transferBegin (h : Idle m' w) (hm : OldOrNew m d m') :
    Guarded m d w transferBeginPins := by
  have hsafe := h.safe hm
  have hend : Safe m d w.transferBegin.chip := by
    rw [h.transferBegin.chip]
    exact ⟨hm, fun ht => nomatch ht⟩
  have hlow : Safe m d (w.gpioSetLevel .clk false).chip := by
    have hclk : (w.gpioSetLevel .clk false).chip = w.chip := by
      simp [gpioSetLevel, settle, h.ce]
    rw [hclk]
    exact hsafe
  exact ⟨hsafe, hlow, hlow, hlow, hend⟩

theorem guarded_transferEnd (h : Safe m d w.chip) (hidle : Idle m' w.transferEnd)
    (hm : OldOrNew m d m') : Guarded m d w transferEndPins :=
  ⟨h, hidle.safe hm⟩

/-- Bits go out, while the chip does not read. -/
theorem Sends.throughout_bits (bs : List Bool) (h : Sends c w)
    (hfall : ∀ k ≤ bs.length,
      ((bs.take k).foldl Chip.clkRise c).clkFall = (bs.take k).foldl Chip.clkRise c) :
    Lib.Throughout PinOp.run (fun w => ∃ k ≤ bs.length, w.chip = (bs.take k).foldl Chip.clkRise c)
        w (bs.flatMap bitPins) ∧
      Sends (bs.foldl Chip.clkRise c) (w.pins (bs.flatMap bitPins)) := by
  induction bs generalizing c w with
  | nil => exact ⟨⟨0, Nat.le_refl 0, h.chip⟩, h⟩
  | cons b bs ih =>
    have hbit := h.bit (b := b) (hfall 1 (by simp))
    obtain ⟨hrest, hsends⟩ := ih hbit fun k hk => hfall (k + 1) (Nat.succ_le_succ hk)
    refine ⟨⟨?_, ?_, ?_, hrest.imp ?_⟩, hsends⟩
    · exact ⟨0, Nat.zero_le _, h.chip⟩
    · exact ⟨0, Nat.zero_le _, h.chip⟩
    · refine ⟨1, by simp, ?_⟩
      show ((w.gpioSetLevel .io b).gpioSetLevel .clk true).chip = _
      rw [h.rise b]
      rfl
    · rintro w' ⟨k, hk, hchip⟩
      exact ⟨k + 1, Nat.succ_le_succ hk, hchip⟩

/-- The eighth bit of a command stands apart, as CLK stays high after one that reads. -/
theorem writeAddrCmdPins_eq (v : Byte) :
    writeAddrCmdPins v = ((Lib.bits v).take 7).flatMap bitPins ++
      [.level .io (v.getLsbD 7), .level .clk true,
        if v &&& 0x01 ≠ 0 then .direction false else .level .clk false] := by
  revert v
  decide +kernel

/-- The first seven bits of a command. -/
theorem Sends.guarded_seven (h : Sends ⟨m, .command [], none⟩ w) (v : Byte) :
    Guarded m d w (((Lib.bits v).take 7).flatMap bitPins) ∧
      Sends ⟨m, .command ((Lib.bits v).take 7), none⟩
        (w.pins (((Lib.bits v).take 7).flatMap bitPins)) := by
  have htake : ∀ k ≤ 7, (((Lib.bits v).take 7).take k).foldl Chip.clkRise
      ⟨m, .command [], none⟩ = ⟨m, .command ((Lib.bits v).take k), none⟩ := by
    intro k hk
    rw [List.take_take, Nat.min_eq_left hk, Chip.foldl_clkRise_take m none v hk]
  have hseven : ((Lib.bits v).take 7).length = 7 := by simp
  have hbits := h.throughout_bits ((Lib.bits v).take 7) fun k hk => by
    rw [htake k (hseven ▸ hk)]
    rfl
  rw [Chip.foldl_clkRise_take m none v (Nat.le_refl 7)] at hbits
  refine ⟨hbits.1.imp ?_, hbits.2⟩
  rintro w' ⟨k, hk, hchip⟩
  rw [hchip, htake k (hseven ▸ hk)]
  exact ⟨.refl m d, fun ht => nomatch ht⟩

/-- **A command** stores nothing. -/
theorem Sends.guarded_writeAddrCmd (h : Sends ⟨m, .command [], none⟩ w) (v : Byte)
    (hv : Transfer.ofCommand v = .read t 0 ∨ Transfer.ofCommand v = .write t [] []) :
    Guarded m d w (writeAddrCmdPins v) := by
  obtain ⟨hseven, hlast⟩ := h.guarded_seven (d := d) v
  have hsafe : Safe m d ⟨m, .ofCommand v, none⟩ := by
    rcases hv with hv | hv
    · rw [hv]
      exact ⟨.refl m d, fun ht => nomatch ht⟩
    · rw [hv]
      refine ⟨.refl m d, ?_⟩
      intro t bytes bits ht hlen
      cases ht
      cases hlen
  have hbefore := hlast.safe (safe_of_quiet (m := m) (d := d) rfl fun _ _ _ ht => nomatch ht)
  have hrise : Safe m d (((w.pins (((Lib.bits v).take 7).flatMap bitPins)).gpioSetLevel .io
      (v.getLsbD 7)).gpioSetLevel .clk true).chip := by
    rw [hlast.rise, clkRise_last]
    exact hsafe
  rw [writeAddrCmdPins_eq]
  refine hseven.append ⟨hbefore, hbefore, hrise, ?_⟩
  rcases hv with hv | hv
  · rw [if_pos (ofCommand_read hv)]
    exact hrise
  · rw [if_neg (not_not_intro (ofCommand_write hv))]
    have hbit := hlast.bit (b := v.getLsbD 7) (by rw [clkRise_last, hv]; rfl)
    rw [clkRise_last] at hbit
    exact hbit.safe hsafe

/-- Bits come in. -/
theorem Reads.guarded_bits {n : Nat} (h : Reads m t n w) (count : Nat) :
    Guarded m d w (List.replicate count [PinOp.level .clk true, .level .clk false]).flatten := by
  induction count generalizing n w with
  | zero => exact h.safe
  | succ count ih =>
    have hnext : Reads m t (n + 1) ((w.gpioSetLevel .clk true).gpioSetLevel .clk false) :=
      (h.bit 0).2
    have hhigh : Safe m d (w.gpioSetLevel .clk true).chip := by
      rw [h.rise]
      exact h.safe
    exact ⟨h.safe, hhigh, ih hnext⟩

/-- The clock halt bit is read. -/
theorem Idle.guarded_readClockRegister (h : Idle m w) (reg : Fin 9) :
    Guarded m d w (readClockRegisterPins (.ofNat 8 reg)) := by
  have hcommand := ofCommand_readClockReg reg
  have hreads := h.transferBegin.reads_writeAddrCmd hcommand
  have hbyte := (hreads.readByte (k := 0)).2
  rw [readClockRegisterPins]
  refine (h.guarded_transferBegin (.refl m d)).append
    ((h.transferBegin.guarded_writeAddrCmd _ (.inl hcommand)).append ?_)
  rw [pins_writeAddrCmd]
  refine (hreads.guarded_bits 8).append ?_
  show Guarded m d (World.pins _ readBytePins) transferEndPins
  rw [pins_readByte]
  exact guarded_transferEnd hbyte.safe hbyte.transferEnd (.refl m d)

/-- The bytes of the burst go out. -/
theorem Sends.guarded_bytes (h : Sends ⟨m, .write .clockBurst [] [], none⟩ w) :
    Guarded m d w ((dateTimeBytes m.clock.ch d).flatMap writeBytePins) := by
  have hlen : ((dateTimeBytes m.clock.ch d).flatMap Lib.bits).length =
      8 * (dateTimeBytes m.clock.ch d).length := by
    simp [dateTimeBytes]
  have hpins : (dateTimeBytes m.clock.ch d).flatMap writeBytePins =
      ((dateTimeBytes m.clock.ch d).flatMap Lib.bits).flatMap bitPins := by
    rw [List.flatMap_assoc]
    rfl
  rw [hpins]
  refine (h.throughout_bits _ fun k hk => ?_).1.imp ?_
  · obtain ⟨bytes, bits, ht⟩ := Chip.transfer_foldl_write
      (((dateTimeBytes m.clock.ch d).flatMap Lib.bits).take k)
      (c := ⟨m, .write .clockBurst [] [], none⟩) rfl
    exact Chip.clkFall_write ht
  · rintro w' ⟨k, hk, hchip⟩
    rw [hchip]
    rw [hlen] at hk
    exact safe_bits (List.nil_append _) rfl hk

/-- **At no move of `DS1302_setDateTime` is the date-time a mixture.** -/
theorem Idle.guarded_setDateTime (h : Idle m w) (d : DateTime) :
    Guarded m d w (setDateTimePins m.clock.ch d) := by
  have hidle : Idle m (w.pins (readClockRegisterPins 0)) := by
    rw [pins_readClockRegister]
    exact (h.readClockRegister 0).2
  have hlast := h.setDateTime d
  rw [← h.pins_setDateTime d, setDateTimePins, pins_append, pins_append, pins_append,
    pins_append] at hlast
  have hbytes := (hidle.transferBegin.writeAddrCmd ofCommand_writeClockBurst).guarded_bytes (d := d)
  rw [← pins_writeAddrCmd] at hbytes
  rw [setDateTimePins]
  refine (h.guarded_readClockRegister 0).append
    ((hidle.guarded_transferBegin (.refl m d)).append
      ((hidle.transferBegin.guarded_writeAddrCmd _ (.inr ofCommand_writeClockBurst)).append
        (hbytes.append ?_)))
  exact guarded_transferEnd hbytes.last hlast ⟨rfl, .inr rfl⟩

/-! ### After the restart -/

/-- The clock halt bit is no part of the date-time. -/
theorem getDateTime_halt (r : Registers) (on : Bool) :
    Rtc.getDateTime (Rtc.halt r on) = Rtc.getDateTime r := by
  cases hwp : Rtc.isWriteProtected r with
  | true =>
    have hkept : Rtc.halt r on = r := if_neg fun h => h.2 hwp
    rw [hkept]
  | false =>
    have hdecode : (Rtc.halt r on).decode = r.decode := by
      rw [halt_writable hwp]
      simp only [Registers.decode, (halt_bit on r.seconds).1]
    rw [Rtc.getDateTime, hdecode, Rtc.getDateTime]

/-- **A date-time is set as a whole or not at all.**  If the processor restarts anywhere in
`DS1302_setDateTime`, the date-time that is read after `DS1302_begin` is the one from
before or the one that was being set, and the RAM is as it was. -/
theorem dateTime_restarted (floating : Bool) (m : Memory) (d : DateTime) (n : Nat)
    (level : Pin → Bool)
    (hconflict : (((start floating m).pins
      ((setDateTimePins m.clock.ch d).take n)).setUp level).conflict = false) :
    ∃ running valid dt,
      (Lib.answers Event.drive ((start floating m).pins ((setDateTimePins m.clock.ch d).take n))
          [.begin level, .transfer .getDateTime, .transfer (.readBufferRAM 31)]).1 =
        [.bool running, .result (.dateTime valid dt), .result (.bytes (List.ofFn m.ram))] ∧
      ((valid, dt) = Rtc.getDateTime m.clock ∨
        (valid, dt) = Rtc.getDateTime (Rtc.setDateTime m.clock d)) := by
  have hcut := ((deselected_start floating m).pins ((setDateTimePins m.clock.ch d).take n))
  obtain ⟨m', hgiven, hanswers, -, -⟩ :=
    hcut.recovers hconflict [.transfer .getDateTime, .transfer (.readBufferRAM 31)]
  have hsafe := ((idle_start floating m).guarded_setDateTime d).take n
  obtain ⟨hram, hdate⟩ := hsafe.givenUp hgiven
  have hall : m'.readRamBuffer 31 = List.ofFn m.ram := by
    rw [Memory.readRamBuffer, hram, List.take_of_length_le (by simp)]
  refine ⟨!Rtc.isHalted (Rtc.halt m'.clock false), (Rtc.getDateTime m'.clock).1,
    (Rtc.getDateTime m'.clock).2, hanswers.trans ?_, hdate⟩
  rw [← getDateTime_halt m'.clock false, ← hall]
  rfl

/-- The last bit of the burst is missing. -/
theorem dateTime_restarted_blank :
    ∃ running valid dt,
      (Lib.answers Event.drive ((start false blank).pins
          ((setDateTimePins blank.clock.ch tuesday.dateTime).take 263))
          [.begin (fun _ => true), .transfer .getDateTime, .transfer (.readBufferRAM 31)]).1 =
        [.bool running, .result (.dateTime valid dt), .result (.bytes (List.ofFn blank.ram))] ∧
      ((valid, dt) = Rtc.getDateTime blank.clock ∨
        (valid, dt) = Rtc.getDateTime (Rtc.setDateTime blank.clock tuesday.dateTime)) :=
  dateTime_restarted false blank tuesday.dateTime 263 (fun _ => true) (by decide +kernel)

end World

end Datk.Rtc
