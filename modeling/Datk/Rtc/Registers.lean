import Datk.Basic

/-!
# The clock registers of the DS1302

`common/ds1302/ds1302.c` packs a date-time into the seven clock registers, two
decimal digits a byte, and unpacks them.  The model has the registers as the
burst commands see them.

`DS1302_setClock` fills the date-time from a `struct tm`, whose Sunday is zero,
as the comment at `dayWeek` has it.  `DS1302_getDateTime` takes a day of the week
from 1 to 7.  `getDateTime_setDateTime_iff` says that this is the only
disagreement between the two: what was set is read back on every day but Sunday.
-/

namespace Datk.Rtc

/-- The clock registers `DS1302_REG_SECONDS` to `DS1302_REG_WP`. -/
structure Registers where
  seconds : Byte
  minutes : Byte
  hours : Byte
  dayMonth : Byte
  month : Byte
  dayWeek : Byte
  year : Byte
  wp : Byte
  deriving DecidableEq, Repr

structure DateTime where
  second : Byte
  minute : Byte
  hour : Byte
  dayWeek : Byte
  dayMonth : Byte
  month : Byte
  year : BitVec 16
  deriving DecidableEq, Repr

/-- `memset(dateTime, 0x00, sizeof(DS1302_DateTime))`. -/
def DateTime.zero : DateTime := ⟨0, 0, 0, 0, 0, 0, 0⟩

/-! ### The driver -/

def bcdToDec (bcd : Byte) : Byte := (bcd >>> 4) * 10 + (bcd &&& 0x0f)

def decToBcd (dec : Byte) : Byte := ((dec / 10) <<< 4) + dec % 10

/-- The clock halt bit of the seconds register. -/
def Registers.ch (r : Registers) : Byte := r.seconds &&& 0x80

def isWriteProtected (r : Registers) : Bool := r.wp &&& 0x80 ≠ 0

/-- `DS1302_CMD_WRITE_CLOCK_BURST`: the chip stores the eight bytes.  If it is write
protected, it stores none of them, not even that for the write protect register. -/
def writeClockBurst (r new : Registers) : Registers := if isWriteProtected r then r else new

def isHalted (r : Registers) : Bool := r.ch ≠ 0

/-- `DS1302_halt`: a write to the seconds register, unless it changes nothing. -/
def halt (r : Registers) (on : Bool) : Registers :=
  let regNew := if on then r.seconds ||| 0x80 else r.seconds &&& 0x7f
  if r.seconds ≠ regNew ∧ ¬ isWriteProtected r then { r with seconds := regNew } else r

def setDateTime (r : Registers) (d : DateTime) : Registers :=
  writeClockBurst r {
    seconds := r.ch ||| decToBcd (d.second &&& 0x7F)
    minutes := decToBcd d.minute
    hours := decToBcd (d.hour &&& 0x3F)
    dayMonth := decToBcd (d.dayMonth &&& 0x3F)
    month := decToBcd (d.month &&& 0x1F)
    dayWeek := decToBcd (d.dayWeek &&& 0x07)
    year := decToBcd (((d.year - 2000) &&& 0xFF).setWidth 8)
    wp := 0 }

/-- The range check at the end of `DS1302_getDateTime`. -/
def DateTime.Rejected (d : DateTime) : Prop :=
  d.second > 59 ∨ d.minute > 59 ∨ d.hour > 23 ∨ d.dayMonth < 1 ∨ d.dayMonth > 31 ∨
    d.month < 1 ∨ d.month > 12 ∨ d.dayWeek < 1 ∨ d.dayWeek > 7 ∨ d.year > 2099

instance (d : DateTime) : Decidable d.Rejected := inferInstanceAs (Decidable (_ ∨ _))

/-- The seven bytes read, each converted to decimal. -/
def Registers.decode (r : Registers) : DateTime where
  second := bcdToDec (r.seconds &&& 0x7f)
  minute := bcdToDec r.minutes
  hour := bcdToDec r.hours
  dayMonth := bcdToDec r.dayMonth
  month := bcdToDec r.month
  dayWeek := bcdToDec r.dayWeek
  year := 2000 + (bcdToDec r.year).setWidth 16

/-- `DS1302_getDateTime`: what it returns, and what it leaves in `*dateTime`. -/
def getDateTime (r : Registers) : Bool × DateTime :=
  if r.decode.Rejected then (false, .zero) else (true, r.decode)

/-! ### The calendar time -/

/-- A `struct tm` of the years 2000 to 2099. -/
structure CalendarTime where
  tmSec : Nat
  tmMin : Nat
  tmHour : Nat
  tmMday : Nat
  tmMon : Nat
  tmYear : Nat
  tmWday : Nat
  sec_lt : tmSec < 60
  min_lt : tmMin < 60
  hour_lt : tmHour < 24
  one_le_mday : 1 ≤ tmMday
  mday_le : tmMday ≤ 31
  mon_lt : tmMon < 12
  le_year : 100 ≤ tmYear
  year_lt : tmYear < 200
  wday_lt : tmWday < 7

/-- The date-time that `DS1302_setClock` fills from `timeinfo`. -/
def CalendarTime.dateTime (tm : CalendarTime) : DateTime where
  second := .ofNat 8 tm.tmSec
  minute := .ofNat 8 tm.tmMin
  hour := .ofNat 8 tm.tmHour
  dayWeek := .ofNat 8 tm.tmWday
  dayMonth := .ofNat 8 tm.tmMday
  month := .ofNat 8 (tm.tmMon + 1)
  year := .ofNat 16 (tm.tmYear + 1900)

/-! ### Two digits a byte -/

theorem toNat_bcdToDec (b : Byte) :
    (bcdToDec b).toNat = (b.toNat / 16 * 10 + b.toNat % 16) % 256 := by
  have hmask : b.toNat &&& 15 = b.toNat % 16 := Nat.and_two_pow_sub_one_eq_mod b.toNat 4
  simp [bcdToDec, hmask, Nat.shiftRight_eq_div_pow]

theorem toNat_decToBcd {x : Byte} (h : x.toNat < 100) :
    (decToBcd x).toNat = x.toNat / 10 * 16 + x.toNat % 10 := by
  have hmod : (decToBcd x).toNat = (x.toNat / 10 * 16 + x.toNat % 10) % 256 := by
    simp [decToBcd, Nat.shiftLeft_eq]
  rw [hmod]
  omega

theorem bcdToDec_decToBcd {x : Byte} (h : x.toNat < 100) : bcdToDec (decToBcd x) = x := by
  apply BitVec.eq_of_toNat_eq
  rw [toNat_bcdToDec, toNat_decToBcd h]
  have htens : (x.toNat / 10 * 16 + x.toNat % 10) / 16 = x.toNat / 10 := by omega
  have hones : (x.toNat / 10 * 16 + x.toNat % 10) % 16 = x.toNat % 10 := by omega
  rw [htens, hones]
  omega

/-- A mask of `k` low ones keeps what fits under it. -/
theorem and_mask {w : Nat} (k : Nat) (hk : k ≤ w) {x : BitVec w} (h : x.toNat < 2 ^ k) :
    x &&& BitVec.ofNat w (2 ^ k - 1) = x := by
  apply BitVec.eq_of_toNat_eq
  have hle : 2 ^ k ≤ 2 ^ w := Nat.pow_le_pow_right (by decide) hk
  rw [BitVec.toNat_and, BitVec.toNat_ofNat, Nat.mod_eq_of_lt (by omega),
    Nat.and_two_pow_sub_one_eq_mod, Nat.mod_eq_of_lt h]

/-- Below 80 the seconds leave the clock halt bit alone. -/
theorem or_and_7f (s : Byte) {b : Byte} (h : b.toNat < 128) :
    ((s &&& 0x80) ||| b) &&& 0x7f = b := by
  have hb : b &&& 0x7f = b := and_mask 7 (by decide) h
  rw [BitVec.and_or_distrib_right, BitVec.and_assoc, hb]
  simp

theorem or_and_80 (s : Byte) {b : Byte} (h : b.toNat < 128) :
    ((s &&& 0x80) ||| b) &&& 0x80 = s &&& 0x80 := by
  have hb : ∀ b : Byte, b.toNat < 128 → b &&& 0x80 = 0 := by decide
  rw [BitVec.and_or_distrib_right, BitVec.and_assoc, hb b h]
  simp

/-- A masked field goes through the register unchanged. -/
theorem bcdToDec_field {k : Nat} (hk : k ≤ 8) {x : Byte} (h : x.toNat < 2 ^ k)
    (h100 : x.toNat < 100) : bcdToDec (decToBcd (x &&& BitVec.ofNat 8 (2 ^ k - 1))) = x := by
  rw [and_mask k hk h, bcdToDec_decToBcd h100]

/-! ### What was set is read back -/

theorem CalendarTime.toNat_dateTime (tm : CalendarTime) :
    tm.dateTime.second.toNat = tm.tmSec ∧ tm.dateTime.minute.toNat = tm.tmMin ∧
      tm.dateTime.hour.toNat = tm.tmHour ∧ tm.dateTime.dayMonth.toNat = tm.tmMday ∧
      tm.dateTime.month.toNat = tm.tmMon + 1 ∧ tm.dateTime.dayWeek.toNat = tm.tmWday ∧
      tm.dateTime.year.toNat = tm.tmYear + 1900 := by
  obtain ⟨sec, min, hour, mday, mon, year, wday, hsec, hmin, hhour, -, hmday, hmon, -, hyear,
    hwday⟩ := tm
  simp only [CalendarTime.dateTime, BitVec.toNat_ofNat]
  omega

section

variable (tm : CalendarTime) {r : Registers}

theorem toNat_second_lt : (decToBcd (tm.dateTime.second &&& 0x7F)).toNat < 128 := by
  have hlt := tm.sec_lt
  have hs := tm.toNat_dateTime.1
  have hmask : tm.dateTime.second &&& 0x7F = tm.dateTime.second :=
    and_mask 7 (by decide) (by omega)
  rw [hmask, toNat_decToBcd (by omega)]
  omega

theorem year_field : 2000 + (bcdToDec (decToBcd
    (((tm.dateTime.year - 2000) &&& 0xFF).setWidth 8))).setWidth 16 = tm.dateTime.year := by
  have hy := tm.toNat_dateTime.2.2.2.2.2.2
  have hle := tm.le_year
  have hlt := tm.year_lt
  have hsub : (tm.dateTime.year - 2000).toNat = tm.tmYear - 100 := by bv_omega
  have hmask : (tm.dateTime.year - 2000) &&& 0xFF = tm.dateTime.year - 2000 :=
    and_mask 8 (by decide) (by omega)
  rw [hmask, bcdToDec_decToBcd (by rw [BitVec.toNat_setWidth]; omega)]
  apply BitVec.eq_of_toNat_eq
  rw [BitVec.toNat_add, BitVec.toNat_setWidth, BitVec.toNat_setWidth, hsub, hy]
  simp
  omega

theorem ch_setDateTime (hwp : isWriteProtected r = false) :
    (setDateTime r tm.dateTime).ch = r.ch := by
  rw [setDateTime, writeClockBurst, hwp]
  exact or_and_80 _ (toNat_second_lt tm)

theorem decode_setDateTime (hwp : isWriteProtected r = false) :
    (setDateTime r tm.dateTime).decode = tm.dateTime := by
  obtain ⟨hsec, hmin, hhour, hmday, hmon, hwday, -⟩ := tm.toNat_dateTime
  have h1 := tm.sec_lt
  have h2 := tm.min_lt
  have h3 := tm.hour_lt
  have h4 := tm.mday_le
  have h5 := tm.mon_lt
  have h6 := tm.wday_lt
  have hsecond : bcdToDec ((r.ch ||| decToBcd (tm.dateTime.second &&& 0x7F)) &&& 0x7f) =
      tm.dateTime.second := by
    rw [Registers.ch, or_and_7f _ (toNat_second_lt tm)]
    exact bcdToDec_field (k := 7) (by decide) (by omega) (by omega)
  rw [setDateTime, writeClockBurst, hwp]
  simp only [Bool.false_eq_true, if_false, Registers.decode, hsecond, year_field tm,
    bcdToDec_decToBcd (show tm.dateTime.minute.toNat < 100 by omega)]
  rw [show bcdToDec (decToBcd (tm.dateTime.hour &&& 0x3F)) = _ from
      bcdToDec_field (k := 6) (by decide) (by omega) (by omega),
    show bcdToDec (decToBcd (tm.dateTime.dayMonth &&& 0x3F)) = _ from
      bcdToDec_field (k := 6) (by decide) (by omega) (by omega),
    show bcdToDec (decToBcd (tm.dateTime.month &&& 0x1F)) = _ from
      bcdToDec_field (k := 5) (by decide) (by omega) (by omega),
    show bcdToDec (decToBcd (tm.dateTime.dayWeek &&& 0x07)) = _ from
      bcdToDec_field (k := 3) (by decide) (by omega) (by omega)]

/-- The range check rejects Sundays, and nothing else that can be set. -/
theorem rejected_iff : tm.dateTime.Rejected ↔ tm.tmWday = 0 := by
  obtain ⟨hsec, hmin, hhour, hmday, hmon, hwday, hyear⟩ := tm.toNat_dateTime
  have h1 := tm.sec_lt
  have h2 := tm.min_lt
  have h3 := tm.hour_lt
  have h4 := tm.one_le_mday
  have h5 := tm.mday_le
  have h6 := tm.mon_lt
  have h7 := tm.year_lt
  have h8 := tm.wday_lt
  simp only [DateTime.Rejected, gt_iff_lt, BitVec.lt_def, BitVec.reduceToNat, hsec, hmin, hhour,
    hmday, hmon, hwday, hyear]
  omega

/-- **What was set is read back, on every day but Sunday**; the clock halt bit is
kept on all of them. -/
theorem getDateTime_setDateTime_iff (hwp : isWriteProtected r = false) :
    getDateTime (setDateTime r tm.dateTime) = (true, tm.dateTime) ∧
      (setDateTime r tm.dateTime).ch = r.ch ↔ tm.tmWday ≠ 0 := by
  rw [getDateTime, decode_setDateTime tm hwp, ch_setDateTime tm hwp]
  by_cases hsunday : tm.tmWday = 0
  · rw [if_pos ((rejected_iff tm).mpr hsunday)]
    simp [hsunday]
  · rw [if_neg (mt (rejected_iff tm).mp hsunday)]
    simp [hsunday]

end

def tuesday : CalendarTime :=
  { tmSec := 59, tmMin := 59, tmHour := 23, tmMday := 31, tmMon := 11, tmYear := 124, tmWday := 2
    sec_lt := by decide, min_lt := by decide, hour_lt := by decide, one_le_mday := by decide
    mday_le := by decide, mon_lt := by decide, le_year := by decide, year_lt := by decide
    wday_lt := by decide }

def sunday : CalendarTime :=
  { tuesday with tmMday := 29, tmWday := 0, one_le_mday := by decide, mday_le := by decide,
                 wday_lt := by decide }

def halted : Registers := ⟨0x80, 0x12, 0x34, 0x56, 0x78, 0x9a, 0xbc, 0⟩

theorem getDateTime_tuesday :
    getDateTime (setDateTime halted tuesday.dateTime) = (true, tuesday.dateTime) ∧
      (setDateTime halted tuesday.dateTime).ch = halted.ch ↔ tuesday.tmWday ≠ 0 :=
  getDateTime_setDateTime_iff tuesday rfl

/-- On a Sunday the date-time read is rejected and zeroed. -/
theorem not_getDateTime_sunday :
    ¬ ∀ (tm : CalendarTime) (r : Registers), isWriteProtected r = false →
      getDateTime (setDateTime r tm.dateTime) = (true, tm.dateTime) ∧
        (setDateTime r tm.dateTime).ch = r.ch := by
  intro h
  exact absurd (h sunday halted rfl).1 (by decide)

end Datk.Rtc
