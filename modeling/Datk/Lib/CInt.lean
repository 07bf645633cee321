import Mathlib.Algebra.Order.Ring.Abs
import Mathlib.Algebra.Order.Ring.Int
import Mathlib.Data.Nat.Find
import Mathlib.Tactic.Common

/-!
# The integers of C

A value of an integer type is an `Int`.  A conversion to an unsigned type takes the
remainder, one to a signed type wraps around.  An operation on `int32_t` is exact: where
its result is no `int32_t`, or a divisor is zero, there is none, but a `Fault`.

A right shift is a division that rounds down, and a left shift a multiplication.

`limit` turns the question whether a product is an `int32_t` into a bound on a factor.
-/

namespace Lib.CInt

def toUnsigned (w : Nat) (z : Int) : Int := z % 2 ^ w

def toSigned (w : Nat) (z : Int) : Int := z.bmod (2 ^ w)

/-- `z >> k`: the sign is kept. -/
def shr (z : Int) (k : Nat) : Int := z >>> k

/-- `z << k`. -/
def shl (z : Int) (k : Nat) : Int := z <<< k

/-- What C leaves undefined. -/
inductive Fault
  | overflow
  | divideByZero
  deriving DecidableEq, Repr

/-- The values of an `int32_t`. -/
def Fits (z : Int) : Prop := -2 ^ 31 ≤ z ∧ z < 2 ^ 31

instance (z : Int) : Decidable (Fits z) := inferInstanceAs (Decidable (_ ∧ _))

/-- An operation on `int32_t`, from its exact result. -/
def int32 (z : Int) : Except Fault Int := if Fits z then .ok z else .error .overflow

/-- A division of `int32_t`, which rounds towards zero. -/
def div (a b : Int) : Except Fault Int :=
  if b = 0 then .error .divideByZero else int32 (a.tdiv b)

/-! ### Shifts -/

theorem shr_eq (z : Int) (k : Nat) : shr z k = z / 2 ^ k := by
  rw [shr, Int.shiftRight_eq_div_pow, Int.natCast_pow, Nat.cast_ofNat]

theorem shl_eq (z : Int) (k : Nat) : shl z k = z * 2 ^ k := by
  rw [shl, Int.shiftLeft_eq]

/-! ### Conversions -/

theorem toSigned_of_fits {w : Nat} {z : Int} (hlow : -2 ^ w ≤ z) (hhigh : z < 2 ^ w) :
    toSigned (w + 1) z = z := by
  have hpow : (2 : Int) ^ (w + 1) = 2 * 2 ^ w := by rw [Int.pow_succ, Int.mul_comm]
  refine Int.bmod_eq_of_le ?_ ?_
  · push_cast
    omega
  · push_cast
    omega

theorem toUnsigned_of_lt {w : Nat} {z : Int} (hlow : 0 ≤ z) (hhigh : z < 2 ^ w) :
    toUnsigned w z = z :=
  Int.emod_eq_of_lt hlow hhigh

theorem toUnsigned_bounds (w : Nat) (z : Int) : 0 ≤ toUnsigned w z ∧ toUnsigned w z < 2 ^ w :=
  ⟨Int.emod_nonneg _ (Int.pow_ne_zero (by decide)), Int.emod_lt_of_pos _ (Int.pow_pos (by decide))⟩

/-- A number that is too large by less than the range wraps around once. -/
theorem toSigned_of_ge {w : Nat} {z : Int} (hlow : 2 ^ w ≤ z) (hhigh : z < 2 ^ (w + 1) + 2 ^ w) :
    toSigned (w + 1) z = z - 2 ^ (w + 1) := by
  have hpow : (2 : Int) ^ (w + 1) = 2 * 2 ^ w := by rw [Int.pow_succ, Int.mul_comm]
  have hwrap : toSigned (w + 1) z = toSigned (w + 1) (z - 2 ^ (w + 1)) := by
    have h := Int.sub_bmod_right z (2 ^ (w + 1))
    push_cast at h
    exact h.symm
  rw [hwrap]
  exact toSigned_of_fits (by omega) (by omega)

/-- A negative number becomes a large one, and so does what is left of it after a shift. -/
theorem shr_toUnsigned {w k : Nat} (hk : k ≤ w) {z : Int} (hlow : -2 ^ w ≤ z)
    (hhigh : z < 2 ^ w) :
    shr (toUnsigned w z) k = shr z k + if 0 ≤ z then 0 else 2 ^ (w - k) := by
  by_cases hz : 0 ≤ z
  · rw [toUnsigned_of_lt hz hhigh, if_pos hz, Int.add_zero]
  · have hpow : (2 : Int) ^ w = 2 ^ (w - k) * 2 ^ k := by
      rw [← Int.pow_add, Nat.sub_add_cancel hk]
    have hmod : toUnsigned w z = z + 2 ^ w := by
      rw [toUnsigned, ← Int.add_emod_right, Int.emod_eq_of_lt (by omega) (by omega)]
    have hne : (2 : Int) ^ k ≠ 0 := Int.pow_ne_zero (by decide)
    rw [hmod, if_neg hz, shr_eq, shr_eq, hpow]
    exact Int.add_mul_ediv_right _ _ hne

/-- An intermediate conversion changes nothing. -/
theorem toUnsigned_mul (w : Nat) (a b : Int) :
    toUnsigned w (toUnsigned w a * b) = toUnsigned w (a * b) := by
  simp only [toUnsigned]
  rw [Int.mul_emod, Int.emod_emod_of_dvd _ (dvd_refl _), ← Int.mul_emod]

theorem toUnsigned_mul_self (w : Nat) (a : Int) :
    toUnsigned w (toUnsigned w a * toUnsigned w a) = toUnsigned w (a * a) := by
  rw [toUnsigned_mul, Int.mul_comm, toUnsigned_mul]

theorem toSigned_toUnsigned (w : Nat) (z : Int) : toSigned w (toUnsigned w z) = toSigned w z := by
  have h := Int.emod_bmod z (2 ^ w)
  push_cast at h
  exact h

theorem fits_toSigned (z : Int) : Fits (toSigned 32 z) := by
  have hlow := Int.le_bmod (x := z) (m := 2 ^ 32) (by decide)
  have hhigh := Int.bmod_lt (x := z) (m := 2 ^ 32) (by decide)
  rw [toSigned]
  exact ⟨by omega, by omega⟩

/-! ### Operations -/

section

variable {α : Type}

theorem int32_eq_ok {z r : Int} : int32 z = .ok r ↔ Fits z ∧ r = z := by
  by_cases hz : Fits z
  · rw [int32, if_pos hz, Except.ok.injEq]
    exact ⟨fun h => ⟨hz, h.symm⟩, fun h => h.2.symm⟩
  · rw [int32, if_neg hz]
    constructor
    · intro h
      cases h
    · rintro ⟨h, -⟩
      exact absurd h hz

theorem div_of_ne_zero (a : Int) {b : Int} (hb : b ≠ 0) : div a b = int32 (a.tdiv b) := if_neg hb

theorem div_zero (a : Int) : div a 0 = .error .divideByZero := if_pos rfl

theorem bind_eq_ok {β : Type} {x : Except Fault β} {f : β → Except Fault α} {r : α} :
    (x >>= f) = .ok r ↔ ∃ b, x = .ok b ∧ f b = .ok r := by
  cases x with
  | error e =>
    constructor
    · intro h
      cases h
    · rintro ⟨b, h, -⟩
      cases h
  | ok b =>
    constructor
    · intro h
      exact ⟨b, rfl, h⟩
    · rintro ⟨_, ⟨⟩, h⟩
      exact h

theorem ok_bind {β : Type} (b : β) (f : β → Except Fault α) : (Except.ok b >>= f) = f b := rfl

/-- A function that computes `v` if a condition holds, and faults otherwise. -/
theorem bind_of_iff {β : Type} {x : Except Fault β} {C : Prop} {v : β}
    (hx : ∀ b, x = .ok b ↔ C ∧ b = v) {f : β → Except Fault α} {r : α} :
    (x >>= f) = .ok r ↔ C ∧ f v = .ok r := by
  rw [bind_eq_ok]
  constructor
  · rintro ⟨b, hb, hr⟩
    obtain ⟨hC, rfl⟩ := (hx b).mp hb
    exact ⟨hC, hr⟩
  · rintro ⟨hC, hr⟩
    exact ⟨v, (hx v).mpr ⟨hC, rfl⟩, hr⟩

theorem int32_bind {z : Int} {f : Int → Except Fault α} {r : α} :
    (int32 z >>= f) = .ok r ↔ Fits z ∧ f z = .ok r :=
  bind_of_iff fun _ => int32_eq_ok

end

/-! ### How large a result can be -/

theorem abs_toInt_le (w : Nat) (x : BitVec (w + 1)) : |x.toInt| ≤ 2 ^ w := by
  have hlow := BitVec.le_toInt x
  have hhigh := BitVec.toInt_lt (x := x)
  rw [Nat.add_sub_cancel] at hlow hhigh
  exact abs_le.mpr ⟨hlow, hhigh.le⟩

theorem mul_bounds {a b m n : Int} (ha : |a| ≤ m) (hb : |b| ≤ n) :
    -(m * n) ≤ a * b ∧ a * b ≤ m * n := by
  have hle : |a * b| ≤ m * n := by
    rw [abs_mul]
    exact mul_le_mul ha hb (abs_nonneg b) ((abs_nonneg a).trans ha)
  exact abs_le.mp hle

theorem tdiv_bounds {a b n : Int} (hb : 0 < b) (ha : |a| ≤ b * n) :
    -n ≤ a.tdiv b ∧ a.tdiv b ≤ n := by
  obtain ⟨hlow, hhigh⟩ := abs_le.mp ha
  constructor
  · have hneg : (-a).tdiv b ≤ (b * n).tdiv b := Int.tdiv_le_tdiv hb (by omega)
    rw [Int.neg_tdiv, Int.mul_tdiv_cancel_left n hb.ne'] at hneg
    omega
  · have hpos : a.tdiv b ≤ (b * n).tdiv b := Int.tdiv_le_tdiv hb hhigh
    rwa [Int.mul_tdiv_cancel_left n hb.ne'] at hpos

/-- A quotient is at most a number from zero on, -/
theorem tdiv_le_iff {a v n : Int} (hv : 0 < v) (hn : 0 ≤ n) : a.tdiv v ≤ n ↔ a < (n + 1) * v := by
  rcases le_or_gt 0 a with ha | ha
  · rw [Int.tdiv_eq_ediv_of_nonneg ha, ← Int.lt_add_one_iff, Int.ediv_lt_iff_lt_mul hv]
  · have hquotient := Int.tdiv_nonneg (a := -a) (by omega) hv.le
    rw [Int.neg_tdiv] at hquotient
    have hproduct : 0 < (n + 1) * v := mul_pos (by omega) hv
    exact ⟨fun _ => by omega, fun _ => by omega⟩

/-- and at least one down from zero. -/
theorem le_tdiv_iff {a v n : Int} (hv : 0 < v) (hn : n ≤ 0) : n ≤ a.tdiv v ↔ (n - 1) * v < a := by
  have h := tdiv_le_iff (a := -a) (n := -n) hv (by omega)
  rw [Int.neg_tdiv, show -n + 1 = -(n - 1) by omega, Int.neg_mul] at h
  omega

/-- A quotient is no larger than what is divided. -/
theorem fits_tdiv {a b : Int} (ha : Fits a) (hb : 0 < b) : Fits (a.tdiv b) := by
  obtain ⟨hlow, hhigh⟩ := ha
  have hle : a ≤ b * (2 ^ 31 - 1) := by
    have := mul_le_mul_of_nonneg_right (show 1 ≤ b from hb) (show (0 : Int) ≤ 2 ^ 31 - 1 by decide)
    omega
  constructor
  · by_cases hpos : 0 ≤ a
    · have := Int.tdiv_nonneg hpos hb.le
      omega
    · have hself := Int.tdiv_le_self b (show 0 ≤ -a by omega)
      rw [Int.neg_tdiv] at hself
      omega
  · have hpos : a.tdiv b ≤ (b * (2 ^ 31 - 1)).tdiv b := Int.tdiv_le_tdiv hb hle
    rw [Int.mul_tdiv_cancel_left _ hb.ne'] at hpos
    omega

/-- `46340` is the largest number whose square is an `int32_t`. -/
theorem fits_square_iff (a : Int) : Fits (a * a) ↔ |a| ≤ 46340 := by
  have hsquare : 0 ≤ a * a := mul_self_nonneg a
  rw [show (46340 : Int) = |46340| from rfl, abs_le_iff_mul_self_le, Fits]
  constructor
  · rintro ⟨-, h⟩
    by_contra hlt
    have hlarge : |(46341 : Int)| ≤ |a| := by
      have habs : |(46340 : Int)| < |a| := abs_lt_iff_mul_self_lt.mpr (lt_of_not_ge hlt)
      exact habs
    have := abs_le_iff_mul_self_le.mp hlarge
    omega
  · intro h
    omega

/-- `1290` is the largest number whose cube is one. -/
theorem fits_cube_iff (a : Int) : Fits (a * a) ∧ Fits (a * a * a) ↔ |a| ≤ 1290 := by
  constructor
  · rintro ⟨-, h⟩
    by_contra hlt
    have hlarge : 1291 ≤ |a| := lt_of_not_ge hlt
    have hcube : 1291 * 1291 * 1291 ≤ |a * a * a| := by
      rw [abs_mul, abs_mul]
      exact mul_le_mul (mul_le_mul hlarge hlarge (by decide) (abs_nonneg a)) hlarge (by decide)
        (mul_nonneg (abs_nonneg a) (abs_nonneg a))
    rcases le_abs.mp hcube with h' | h'
    · rw [Fits] at h
      omega
    · rw [Fits] at h
      omega
  · intro h
    have hsquare := mul_bounds h h
    have hcube := mul_bounds (abs_le.mpr hsquare) h
    rw [Fits, Fits]
    omega

/-! ### Bounds on a factor -/

/-- The largest number up to `n` for which `f` is an `int32_t`. -/
def limit (n : Nat) (f : Nat → Int) : Nat := Nat.findGreatest (fun k => Fits (f k)) n

theorem limit_le (n : Nat) (f : Nat → Int) : limit n f ≤ n := Nat.findGreatest_le n

theorem le_limit_iff {n : Nat} {f : Nat → Int} (h0 : Fits (f 0))
    (hmono : ∀ j k, j ≤ k → Fits (f k) → Fits (f j)) {k : Nat} (hk : k ≤ n) :
    k ≤ limit n f ↔ Fits (f k) := by
  constructor
  · intro h
    have hfits : Fits (f (limit n f)) :=
      Nat.findGreatest_spec (P := fun k => Fits (f k)) (Nat.zero_le n) h0
    exact hmono _ _ h hfits
  · intro h
    exact Nat.le_findGreatest hk h

/-- A smaller factor. -/
theorem Fits.mul_of_le {a x y : Int} (h : Fits (a * y)) (hx : 0 ≤ x) (hxy : x ≤ y) :
    Fits (a * x) := by
  obtain ⟨hlow, hhigh⟩ := h
  rcases le_total 0 a with ha | ha
  · have hle := mul_le_mul_of_nonneg_left hxy ha
    have hnonneg := mul_nonneg ha hx
    exact ⟨by omega, by omega⟩
  · have hle := mul_le_mul_of_nonpos_left hxy ha
    have hnonpos := mul_nonpos_of_nonpos_of_nonneg ha hx
    exact ⟨by omega, by omega⟩

/-- The limit of a factor that grows from zero. -/
theorem le_limit_mul_iff {n : Nat} {a : Int} {g : Nat → Int} (h0 : g 0 = 0)
    (hmono : ∀ j k, j ≤ k → g j ≤ g k) {k : Nat} (hk : k ≤ n) :
    k ≤ limit n (fun k => a * g k) ↔ Fits (a * g k) := by
  refine le_limit_iff ?_ (fun j k hjk h => ?_) hk
  · rw [h0, Int.mul_zero]
    exact ⟨by decide, by decide⟩
  · refine h.mul_of_le ?_ (hmono j k hjk)
    rw [← h0]
    exact hmono 0 j (Nat.zero_le j)

end Lib.CInt
