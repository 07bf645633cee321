import Datk.Rtc.Encoding

/-!
# Setting the time of day

`DS1302_setTime` of `common/ds1302/ds1302.c` reads the date-time, puts the hour, the minute
and the second into it, and writes all of it back.  It does not look at what
`DS1302_getDateTime` returns, so that the zeros of a rejected date-time are written back
as well: the day and the month become zero, and the year, `0 - 2000` in one byte, 48.

`keepsDate_iff` says which contents of the registers keep their date.
-/

namespace Datk.Rtc

/-- `DS1302_setTime`. -/
def setTime (r : Registers) (hour minute second : Byte) : Registers :=
  let (_, dt) := getDateTime r
  setDateTime r { dt with hour := hour, minute := minute, second := second }

/-- The registers of the date. -/
def Registers.date (r : Registers) : List Byte := [r.dayMonth, r.month, r.dayWeek, r.year]

/-- Only the registers of the time change. -/
structure KeepsDate (r r' : Registers) : Prop where
  date : r'.date = r.date
  ch : r'.ch = r.ch
  writable : isWriteProtected r' = isWriteProtected r

/-- What is written back for the date of a date-time. -/
def DateTime.date (d : DateTime) : List Byte :=
  [decToBcd (d.dayMonth &&& 0x3F), decToBcd (d.month &&& 0x1F), decToBcd (d.dayWeek &&& 0x07),
    decToBcd (((d.year - 2000) &&& 0xFF).setWidth 8)]

/-! ### One register -/

/-- A decimal number has decimal digits. -/
theorem decToBcd_bcdToDec_iff {b : Byte} (h : digits b ≤ 99) :
    decToBcd (bcdToDec b) = b ↔ b.toNat % 16 ≤ 9 := by
  constructor
  · intro hb
    rw [← hb, toNat_decToBcd (by rw [toNat_bcdToDec_eq_digits]; omega)]
    omega
  · intro hunits
    exact decToBcd_bcdToDec (packedBcd_of_units h hunits)

theorem decToBcd_field_iff {k : Nat} (hk : k ≤ 8) {b : Byte} (hlt : digits b < 2 ^ k)
    (h : digits b ≤ 99) :
    decToBcd (bcdToDec b &&& BitVec.ofNat 8 (2 ^ k - 1)) = b ↔ b.toNat % 16 ≤ 9 := by
  rw [and_mask k hk (by rw [toNat_bcdToDec_eq_digits]; exact hlt), decToBcd_bcdToDec_iff h]

/-! ### The date -/

section

variable {r : Registers}

/-- The date of an accepted date-time is written back as it was exactly if its digits are
decimal. -/
theorem InRange.date_decode_iff (h : InRange r) :
    r.decode.date = r.date ↔ ∀ b ∈ r.date, b.toNat % 16 ≤ 9 := by
  obtain ⟨-, -, -, -, hmday, -, hmon, -, hwday, hyear⟩ := h
  have hdayMonth : decToBcd (bcdToDec r.dayMonth &&& 0x3F) = r.dayMonth ↔ _ :=
    decToBcd_field_iff (k := 6) (by decide) (by omega) (by omega)
  have hmonth : decToBcd (bcdToDec r.month &&& 0x1F) = r.month ↔ _ :=
    decToBcd_field_iff (k := 5) (by decide) (by omega) (by omega)
  have hdayWeek : decToBcd (bcdToDec r.dayWeek &&& 0x07) = r.dayWeek ↔ _ :=
    decToBcd_field_iff (k := 3) (by decide) (by omega) (by omega)
  simp only [DateTime.date, Registers.decode, Registers.date, List.cons.injEq, hdayMonth, hmonth,
    hdayWeek, year_sub, decToBcd_bcdToDec_iff hyear, List.forall_mem_cons, List.not_mem_nil]
  simp

/-- What a rejected date-time is written back as. -/
theorem date_zero : DateTime.zero.date = [0x00, 0x00, 0x00, 0x48] := by decide

theorem not_inRange_of_date (h : r.date = DateTime.zero.date) : ¬ InRange r := by
  intro hrange
  have hle := hrange.one_le_dayMonth
  rw [date_zero, Registers.date, List.cons.injEq] at h
  rw [h.1] at hle
  exact absurd hle (by decide)

/-! ### The time -/

/-- What `DS1302_setTime` writes, if it may. -/
theorem setTime_writable (hwp : isWriteProtected r = false) (hour minute second : Byte) :
    (setTime r hour minute second).date = (getDateTime r).2.date ∧
      (setTime r hour minute second).seconds = r.ch ||| decToBcd (second &&& 0x7F) ∧
      isWriteProtected (setTime r hour minute second) = false := by
  have hset : setTime r hour minute second = setDateTime r
      { (getDateTime r).2 with hour := hour, minute := minute, second := second } := rfl
  rw [hset, setDateTime, writeClockBurst, hwp]
  refine ⟨rfl, rfl, ?_⟩
  simp [isWriteProtected]

theorem ch_setTime (hwp : isWriteProtected r = false) (hour minute : Byte) {second : Byte}
    (hsecond : second.toNat < 60) : (setTime r hour minute second).ch = r.ch := by
  obtain ⟨-, hseconds, -⟩ := setTime_writable hwp hour minute second
  have hmask : second &&& 0x7F = second := and_mask 7 (by decide) (by omega)
  have hlt : (decToBcd second).toNat < 128 := by
    rw [toNat_decToBcd (by omega)]
    omega
  rw [Registers.ch, hseconds, hmask]
  exact or_and_80 _ hlt

/-- **Setting the time leaves the date alone** exactly if the date-time is accepted and the
digits of its date are decimal, or the date already is what zeros are written as. -/
theorem keepsDate_iff (hwp : isWriteProtected r = false) (hour minute : Byte) {second : Byte}
    (hsecond : second.toNat < 60) :
    KeepsDate r (setTime r hour minute second) ↔
      (InRange r ∧ ∀ b ∈ r.date, b.toNat % 16 ≤ 9) ∨ r.date = [0x00, 0x00, 0x00, 0x48] := by
  obtain ⟨hdate, -, hwritable⟩ := setTime_writable hwp hour minute second
  have hkeeps : KeepsDate r (setTime r hour minute second) ↔ (getDateTime r).2.date = r.date := by
    rw [← hdate]
    constructor
    · exact KeepsDate.date
    · intro h
      exact ⟨h, ch_setTime hwp hour minute hsecond, hwritable.trans hwp.symm⟩
  rw [hkeeps, ← date_zero]
  by_cases hrange : InRange r
  · rw [getDateTime_of_inRange hrange, hrange.date_decode_iff]
    constructor
    · intro hunits
      exact .inl ⟨hrange, hunits⟩
    · rintro (⟨-, hunits⟩ | hzero)
      · exact hunits
      · exact absurd hrange (not_inRange_of_date hzero)
  · rw [getDateTime_of_not_inRange hrange]
    constructor
    · intro h
      exact .inr h.symm
    · rintro (⟨h, -⟩ | hzero)
      · exact absurd h hrange
      · exact hzero.symm

end

/-- Tuesday, 31 December 2024, 23:59:59. -/
def newYearsEve : Registers := ⟨0x59, 0x59, 0x23, 0x31, 0x12, 0x02, 0x24, 0⟩

/-- The Sunday before, with the day of the week that `DS1302_setClock` stores. -/
def lastSunday : Registers := { newYearsEve with dayMonth := 0x29, dayWeek := 0x00 }

theorem keepsDate_newYearsEve :
    KeepsDate newYearsEve (setTime newYearsEve 12 30 0) ↔
      (InRange newYearsEve ∧ ∀ b ∈ newYearsEve.date, b.toNat % 16 ≤ 9) ∨
        newYearsEve.date = [0x00, 0x00, 0x00, 0x48] :=
  keepsDate_iff rfl 12 30 (by decide)

/-- On a Sunday the date is lost. -/
theorem not_keepsDate_lastSunday :
    ¬ ∀ (r : Registers) (hour minute second : Byte), isWriteProtected r = false →
      hour.toNat < 24 → minute.toNat < 60 → second.toNat < 60 →
        KeepsDate r (setTime r hour minute second) := by
  intro h
  have hdate := (h lastSunday 12 30 0 rfl (by decide) (by decide) (by decide)).date
  exact absurd hdate (by decide)

end Datk.Rtc
