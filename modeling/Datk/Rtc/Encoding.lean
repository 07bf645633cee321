import Datk.Rtc.Registers

/-!
# Which clock registers are accepted

`DS1302_getDateTime` looks at the decimals that the registers decode to, not at their
digits.  A byte `0x1A` decodes to 20, as `0x20` does, so that it passes as 20, and is not
what `DS1302_setDateTime` would store.

A tens digit above nine never passes, as the number is then too large for every field.
`readsEncodings_iff` says that the units digits are all that goes wrong.
-/

namespace Datk.Rtc

/-- Two decimal digits. -/
def PackedBcd (b : Byte) : Prop := b.toNat / 16 ≤ 9 ∧ b.toNat % 16 ≤ 9

/-- The number that the two digits stand for, decimal or not. -/
def digits (b : Byte) : Nat := b.toNat / 16 * 10 + b.toNat % 16

/-- The seven clock registers, without the clock halt bit. -/
def Registers.clock (r : Registers) : List Byte :=
  [r.seconds &&& 0x7f, r.minutes, r.hours, r.dayMonth, r.month, r.dayWeek, r.year]

/-- What `DS1302_getDateTime` accepts is what `DS1302_setDateTime` stores for the date-time
it returns, and if it accepts nothing, it returns zeros. -/
structure ReadsEncodings (r : Registers) : Prop where
  packed : (getDateTime r).1 = true → ∀ b ∈ r.clock, PackedBcd b
  encoded : (getDateTime r).1 = true → ∀ chip : Registers, isWriteProtected chip = false →
    (setDateTime chip (getDateTime r).2).clock = r.clock
  zero : (getDateTime r).1 = false → (getDateTime r).2 = .zero

/-- Every register stands for a number of its field. -/
structure InRange (r : Registers) : Prop where
  seconds : digits (r.seconds &&& 0x7f) ≤ 59
  minutes : digits r.minutes ≤ 59
  hours : digits r.hours ≤ 23
  one_le_dayMonth : 1 ≤ digits r.dayMonth
  dayMonth : digits r.dayMonth ≤ 31
  one_le_month : 1 ≤ digits r.month
  month : digits r.month ≤ 12
  one_le_dayWeek : 1 ≤ digits r.dayWeek
  dayWeek : digits r.dayWeek ≤ 7
  year : digits r.year ≤ 99

/-! ### One register -/

theorem toNat_bcdToDec_eq_digits (b : Byte) : (bcdToDec b).toNat = digits b := by
  have hb := b.isLt
  rw [toNat_bcdToDec, digits]
  omega

theorem packedBcd_of_units {b : Byte} (h : digits b ≤ 99) (hunits : b.toNat % 16 ≤ 9) :
    PackedBcd b := by
  rw [digits] at h
  exact ⟨by omega, hunits⟩

theorem decToBcd_bcdToDec {b : Byte} (h : PackedBcd b) : decToBcd (bcdToDec b) = b := by
  obtain ⟨htens, hunits⟩ := h
  have hdigits : (bcdToDec b).toNat = b.toNat / 16 * 10 + b.toNat % 16 :=
    toNat_bcdToDec_eq_digits b
  apply BitVec.eq_of_toNat_eq
  rw [toNat_decToBcd (by omega), hdigits]
  omega

/-- The mask that `DS1302_setDateTime` puts on a field changes nothing. -/
theorem decToBcd_field {k : Nat} (hk : k ≤ 8) {b : Byte} (hlt : digits b < 2 ^ k)
    (h : PackedBcd b) : decToBcd (bcdToDec b &&& BitVec.ofNat 8 (2 ^ k - 1)) = b := by
  rw [and_mask k hk (by rw [toNat_bcdToDec_eq_digits]; exact hlt), decToBcd_bcdToDec h]

/-- The year goes through the date-time and back in one byte. -/
theorem year_sub (b : Byte) : ((2000 + b.setWidth 16 - 2000) &&& 0xFF).setWidth 8 = b := by
  have hsub : 2000 + b.setWidth 16 - 2000 = b.setWidth 16 := by
    rw [BitVec.add_comm, BitVec.add_sub_cancel]
  have hlt := b.isLt
  have hmask : b.setWidth 16 &&& 0xFF = b.setWidth 16 :=
    and_mask 8 (by decide) (by rw [BitVec.toNat_setWidth]; omega)
  rw [hsub, hmask, BitVec.setWidth_setWidth_of_le _ (by decide), BitVec.setWidth_eq]

theorem decToBcd_year {b : Byte} (h : PackedBcd b) :
    decToBcd (((2000 + (bcdToDec b).setWidth 16 - 2000) &&& 0xFF).setWidth 8) = b := by
  rw [year_sub, decToBcd_bcdToDec h]

/-! ### All seven -/

section

variable {r : Registers}

theorem rejected_decode_iff : r.decode.Rejected ↔ ¬ InRange r := by
  have hyear : (2000 + (bcdToDec r.year).setWidth 16).toNat = 2000 + digits r.year := by
    have hlt := (bcdToDec r.year).isLt
    rw [BitVec.toNat_add, BitVec.toNat_setWidth, ← toNat_bcdToDec_eq_digits]
    simp
    omega
  simp only [DateTime.Rejected, Registers.decode, gt_iff_lt, BitVec.lt_def, BitVec.reduceToNat,
    toNat_bcdToDec_eq_digits, hyear]
  constructor
  · rintro h ⟨_, _, _, _, _, _, _, _, _, _⟩
    omega
  · intro h
    by_contra hnot
    exact h ⟨by omega, by omega, by omega, by omega, by omega, by omega, by omega, by omega,
      by omega, by omega⟩

theorem getDateTime_of_inRange (h : InRange r) : getDateTime r = (true, r.decode) :=
  if_neg fun hrejected => rejected_decode_iff.mp hrejected h

theorem getDateTime_of_not_inRange (h : ¬ InRange r) : getDateTime r = (false, .zero) :=
  if_pos (rejected_decode_iff.mpr h)

theorem InRange.packedBcd (h : InRange r) (hunits : ∀ b ∈ r.clock, b.toNat % 16 ≤ 9) :
    ∀ b ∈ r.clock, PackedBcd b := by
  obtain ⟨hsec, hmin, hhour, -, hmday, -, hmon, -, hwday, hyear⟩ := h
  intro b hb
  refine packedBcd_of_units ?_ (hunits b hb)
  simp only [Registers.clock, List.mem_cons, List.not_mem_nil, or_false] at hb
  rcases hb with rfl | rfl | rfl | rfl | rfl | rfl | rfl <;> omega

/-- Decimal digits are stored again as they were read. -/
theorem InRange.clock_setDateTime (h : InRange r) (hpacked : ∀ b ∈ r.clock, PackedBcd b)
    {chip : Registers} (hchip : isWriteProtected chip = false) :
    (setDateTime chip r.decode).clock = r.clock := by
  obtain ⟨hsec, hmin, hhour, -, hmday, -, hmon, -, hwday, hyear⟩ := h
  simp only [Registers.clock, List.forall_mem_cons] at hpacked
  obtain ⟨bsec, bmin, bhour, bmday, bmon, bwday, byear, -⟩ := hpacked
  have hseconds : decToBcd (bcdToDec (r.seconds &&& 0x7f) &&& 0x7F) = r.seconds &&& 0x7f :=
    decToBcd_field (k := 7) (by decide) (by omega) bsec
  have hlow : (r.seconds &&& 0x7f).toNat < 128 := by
    rw [BitVec.toNat_and]
    exact Nat.lt_of_le_of_lt Nat.and_le_right (by decide)
  rw [setDateTime, writeClockBurst, hchip]
  simp only [Bool.false_eq_true, if_false, Registers.clock, Registers.decode, Registers.ch,
    hseconds, or_and_7f _ hlow, decToBcd_bcdToDec bmin, decToBcd_year byear]
  rw [show decToBcd (bcdToDec r.hours &&& 0x3F) = _ from
      decToBcd_field (k := 6) (by decide) (by omega) bhour,
    show decToBcd (bcdToDec r.dayMonth &&& 0x3F) = _ from
      decToBcd_field (k := 6) (by decide) (by omega) bmday,
    show decToBcd (bcdToDec r.month &&& 0x1F) = _ from
      decToBcd_field (k := 5) (by decide) (by omega) bmon,
    show decToBcd (bcdToDec r.dayWeek &&& 0x07) = _ from
      decToBcd_field (k := 3) (by decide) (by omega) bwday]

/-- **The reader accepts only encodings** exactly if no units digit is above nine, or a
number is out of range anyway. -/
theorem readsEncodings_iff (r : Registers) :
    ReadsEncodings r ↔ (InRange r → ∀ b ∈ r.clock, b.toNat % 16 ≤ 9) := by
  constructor
  · intro h hrange b hb
    exact (h.packed (by rw [getDateTime_of_inRange hrange]) b hb).2
  · intro hunits
    by_cases hrange : InRange r
    · have hpacked := hrange.packedBcd (hunits hrange)
      refine ⟨fun _ => hpacked, ?_, ?_⟩
      · intro _ chip hchip
        rw [getDateTime_of_inRange hrange]
        exact hrange.clock_setDateTime hpacked hchip
      · rw [getDateTime_of_inRange hrange]
        intro h
        cases h
    · refine ⟨?_, ?_, fun _ => ?_⟩
      · rw [getDateTime_of_not_inRange hrange]
        intro h
        cases h
      · rw [getDateTime_of_not_inRange hrange]
        intro h
        cases h
      · rw [getDateTime_of_not_inRange hrange]

end

/-- The minutes `0x1A` are read as 20. -/
def noisy : Registers := ⟨0x00, 0x1A, 0x12, 0x15, 0x06, 0x03, 0x24, 0⟩

theorem not_readsEncodings_noisy : ¬ ∀ r : Registers, ReadsEncodings r := by
  intro h
  have hmem : (0x1A : Byte) ∈ noisy.clock := by simp [noisy, Registers.clock]
  have hunits := ((h noisy).packed rfl 0x1A hmem).2
  exact absurd hunits (by decide)

end Datk.Rtc
