import Mathlib.Algebra.Order.BigOperators.Group.List
import Mathlib.Data.Set.Basic
import Datk.Sensor.Values

/-!
# The average of the UV sensor

`ml8511_read_task` adds up 64 readings of the ADC, divides by 64, and makes a voltage and an
index of the result.  `adc_reading` is zero before the first iteration only, so that the
result of each is added to the readings of the next.

`memoryless_iff` says when this makes no difference: what is carried over must not fill up
the remainder of the next sum.  What is converted is never less than the average, and at
most 65 more, `converted_bias`; it is at most 4159, `adcReading_le`, where 4095 is the
largest reading.
-/

namespace Datk.Sensor

/-- `NO_OF_SAMPLES`. -/
def noOfSamples : Nat := 64

/-- What `adc1_get_raw` returns, with `ADC_WIDTH_BIT_12`. -/
abbrev Raw := BitVec 12

/-- The inner loop of iteration `k`. -/
def sample (raw : Nat → Raw) (k : Nat) (adcReading : BitVec 32) : BitVec 32 :=
  (List.range noOfSamples).foldl
    (fun adcReading i => adcReading + (raw (noOfSamples * k + i)).setWidth 32) adcReading

/-- What iteration `k` makes of `adc_reading`. -/
def iteration (raw : Nat → Raw) (k : Nat) (adcReading : BitVec 32) : BitVec 32 :=
  sample raw k adcReading / .ofNat 32 noOfSamples

/-- `adc_reading` before iteration `k`. -/
def adcReading (raw : Nat → Raw) : Nat → BitVec 32
  | 0 => 0
  | k + 1 => iteration raw k (adcReading raw k)

/-- The `adc_reading` that iteration `k` converts to a voltage. -/
def converted (raw : Nat → Raw) (k : Nat) : BitVec 32 := iteration raw k (adcReading raw k)

/-- What iteration `k` sends to `uv_queue`. -/
def uvIndex (rawToVoltage : BitVec 32 → BitVec 32) (raw : Nat → Raw) (k : Nat) : ℚ :=
  ml851UvIntensity (rawToVoltage (converted raw k)).toNat

/-- The sum of the readings of iteration `k`. -/
def sum (raw : Nat → Raw) (k : Nat) : Nat :=
  ((List.range noOfSamples).map fun i => (raw (noOfSamples * k + i)).toNat).sum

/-- The readings of iteration `k` are the same. -/
def Agree (raw raw' : Nat → Raw) (k : Nat) : Prop :=
  ∀ i < noOfSamples, raw (noOfSamples * k + i) = raw' (noOfSamples * k + i)

/-- **The average is memoryless**, in all of these runs. -/
structure Memoryless (runs : Set (Nat → Raw)) : Prop where
  average : ∀ raw ∈ runs, ∀ k, (converted raw k).toNat = sum raw k / noOfSamples
  same : ∀ raw ∈ runs, ∀ raw' ∈ runs, ∀ k, Agree raw raw' k → converted raw k = converted raw' k
  le : ∀ raw ∈ runs, ∀ k, (converted raw k).toNat ≤ 4095

/-- What is carried over does not fill up the remainder. -/
def Absorbed (raw : Nat → Raw) : Prop :=
  ∀ k, sum raw k / noOfSamples + sum raw (k + 1) % noOfSamples < noOfSamples

/-! ### One iteration -/

theorem sum_le (raw : Nat → Raw) (k : Nat) : sum raw k ≤ noOfSamples * 4095 := by
  have hle : ∀ n ∈ (List.range noOfSamples).map fun i => (raw (noOfSamples * k + i)).toNat,
      n ≤ 4095 := by
    intro n hn
    obtain ⟨i, -, rfl⟩ := List.mem_map.mp hn
    exact Nat.le_of_lt_succ (raw (noOfSamples * k + i)).isLt
  have hsum := List.sum_le_card_nsmul _ 4095 hle
  rw [List.length_map, List.length_range] at hsum
  exact hsum

/-- The sum does not overflow. -/
theorem toNat_sample (raw : Nat → Raw) (k : Nat) {r : BitVec 32} (hr : r.toNat ≤ 4159) :
    (sample raw k r).toNat = r.toNat + sum raw k := by
  have hfold : ∀ (l : List Nat) (r : BitVec 32),
      r.toNat + (l.map fun i => (raw (noOfSamples * k + i)).toNat).sum < 2 ^ 32 →
      (l.foldl (fun r i => r + (raw (noOfSamples * k + i)).setWidth 32) r).toNat =
        r.toNat + (l.map fun i => (raw (noOfSamples * k + i)).toNat).sum := by
    intro l
    induction l with
    | nil => exact fun r _ => rfl
    | cons i l ih =>
      intro r hlt
      rw [List.map_cons, List.sum_cons] at hlt ⊢
      have hraw : ((raw (noOfSamples * k + i)).setWidth 32).toNat =
          (raw (noOfSamples * k + i)).toNat := BitVec.toNat_setWidth_of_le (by decide)
      have hadd : (r + (raw (noOfSamples * k + i)).setWidth 32).toNat =
          r.toNat + (raw (noOfSamples * k + i)).toNat := by
        rw [BitVec.toNat_add, hraw]
        exact Nat.mod_eq_of_lt (by omega)
      rw [List.foldl_cons, ih _ (by rw [hadd]; omega), hadd]
      omega
  have hsum := sum_le raw k
  apply hfold
  show r.toNat + sum raw k < 2 ^ 32
  rw [noOfSamples] at hsum
  omega

theorem toNat_iteration (raw : Nat → Raw) (k : Nat) {r : BitVec 32} (hr : r.toNat ≤ 4159) :
    (iteration raw k r).toNat = (r.toNat + sum raw k) / noOfSamples := by
  rw [iteration, BitVec.toNat_udiv, toNat_sample raw k hr]
  rfl

/-! ### All iterations -/

/-- **A bound that all iterations keep.** -/
theorem adcReading_le (raw : Nat → Raw) (k : Nat) : (adcReading raw k).toNat ≤ 4159 := by
  induction k with
  | zero => exact Nat.zero_le _
  | succ k ih =>
    have hsum := sum_le raw k
    rw [adcReading, toNat_iteration raw k ih]
    rw [noOfSamples] at hsum ⊢
    omega

theorem toNat_converted (raw : Nat → Raw) (k : Nat) :
    (converted raw k).toNat = ((adcReading raw k).toNat + sum raw k) / noOfSamples :=
  toNat_iteration raw k (adcReading_le raw k)

/-- **How far the result is off.** -/
theorem converted_bias (raw : Nat → Raw) (k : Nat) :
    sum raw k / noOfSamples ≤ (converted raw k).toNat ∧
      (converted raw k).toNat ≤ sum raw k / noOfSamples + 65 := by
  have hle := adcReading_le raw k
  rw [toNat_converted, noOfSamples]
  omega

/-- What an iteration converts is the average exactly if nothing is filled up. -/
theorem average_iff (raw : Nat → Raw) :
    (∀ k, (converted raw k).toNat = sum raw k / noOfSamples) ↔ Absorbed raw := by
  have hstep : ∀ k, (converted raw (k + 1)).toNat =
      ((converted raw k).toNat + sum raw (k + 1)) / noOfSamples := fun k =>
    toNat_converted raw (k + 1)
  constructor
  · intro h k
    have hnext := hstep k
    rw [h, h, noOfSamples] at hnext
    rw [noOfSamples]
    omega
  · intro h k
    induction k with
    | zero =>
      rw [toNat_converted, adcReading]
      exact congrArg (· / noOfSamples) (Nat.zero_add _)
    | succ k ih =>
      have hk := h k
      rw [hstep, ih]
      rw [noOfSamples] at hk ⊢
      omega

theorem Agree.sum_eq {raw raw' : Nat → Raw} {k : Nat} (h : Agree raw raw' k) :
    sum raw k = sum raw' k := by
  rw [sum, sum]
  refine congrArg List.sum (List.map_congr_left fun i hi => ?_)
  rw [h i (List.mem_range.mp hi)]

/-- **When the average is memoryless.** -/
theorem memoryless_iff (runs : Set (Nat → Raw)) :
    Memoryless runs ↔ ∀ raw ∈ runs, Absorbed raw := by
  constructor
  · intro h raw hraw
    exact (average_iff raw).mp (h.average raw hraw)
  · intro h
    have haverage : ∀ raw ∈ runs, ∀ k, (converted raw k).toNat = sum raw k / noOfSamples :=
      fun raw hraw => (average_iff raw).mpr (h raw hraw)
    refine ⟨haverage, ?_, ?_⟩
    · intro raw hraw raw' hraw' k hagree
      apply BitVec.eq_of_toNat_eq
      rw [haverage raw hraw, haverage raw' hraw', hagree.sum_eq]
    · intro raw hraw k
      rw [haverage raw hraw]
      exact Nat.div_le_of_le_mul (sum_le raw k)

/-- What is sent is then the same, too. -/
theorem Memoryless.uvIndex_eq {runs : Set (Nat → Raw)} (h : Memoryless runs)
    {raw raw' : Nat → Raw} (hraw : raw ∈ runs) (hraw' : raw' ∈ runs) {k : Nat}
    (hagree : Agree raw raw' k) (rawToVoltage : BitVec 32 → BitVec 32) :
    uvIndex rawToVoltage raw k = uvIndex rawToVoltage raw' k := by
  rw [uvIndex, uvIndex, h.same raw hraw raw' hraw' k hagree]

/-- In full sunlight the second result is larger than any reading. -/
theorem not_memoryless : ¬ Memoryless Set.univ := by
  intro h
  exact absurd (h.le (fun _ => 4095) (Set.mem_univ _) 1) (by decide +kernel)

end Datk.Sensor
