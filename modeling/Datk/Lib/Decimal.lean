import Mathlib.Data.Nat.Log
import Datk.Lib.Rounding

/-!
# Decimal output

`decimal` is what `printf` prints for `%d` of a natural number, `fixed2` what it
prints for `%.2f`: the sign, the integer part and two decimals of the nearest
hundredth.  `length_fixed2` computes the width of the latter from the number
alone.
-/

namespace Lib

/-- `%d` of a natural number. -/
def decimal (n : ℕ) : List Char := Nat.toDigits 10 n

/-- The nearest hundredth of `|q|`, in hundredths. -/
def hundredths (q : ℚ) : ℕ := (roundEven (100 * |q|)).toNat

/-- `%.2f`. -/
def fixed2 (q : ℚ) : List Char :=
  (if q < 0 then ['-'] else []) ++ decimal (hundredths q / 100) ++
    ['.', Nat.digitChar (hundredths q / 10 % 10), Nat.digitChar (hundredths q % 10)]

theorem length_decimal (n : ℕ) : (decimal n).length = Nat.log 10 n + 1 := by
  have hle : ∀ k, 0 < k → ((decimal n).length ≤ k ↔ n < 10 ^ k) := fun k hk =>
    Nat.length_toDigits_le_iff (by decide) hk
  apply Nat.le_antisymm
  · exact (hle _ (Nat.succ_pos _)).mpr (Nat.lt_pow_succ_log_self (by decide) n)
  · by_contra hlt
    have hlog : 0 < Nat.log 10 n := by
      have hpos : 0 < (decimal n).length := Nat.length_toDigits_pos
      omega
    have hn : n ≠ 0 := by
      rintro rfl
      simp at hlog
    have hpow := (hle _ hlog).mp (by omega)
    exact absurd (Nat.pow_log_le_self 10 hn) (Nat.not_le_of_lt hpow)

/-- The integer part that is printed is that of half a hundredth more. -/
theorem hundredths_div (q : ℚ) : hundredths q / 100 = ⌊|q| + 1 / 200⌋₊ := by
  have habs := abs_nonneg q
  refine eq_of_forall_le_iff fun k => ?_
  have hnonneg : 0 ≤ roundEven (100 * |q|) :=
    (le_roundEven_iff (by decide) _).mpr (by push_cast; linarith)
  have hround : (100 * k : ℕ) ≤ hundredths q ↔ ((100 * k : ℕ) : ℤ) ≤ roundEven (100 * |q|) := by
    rw [hundredths]
    omega
  rw [Nat.le_div_iff_mul_le (by decide), Nat.mul_comm, hround,
    le_roundEven_iff (by omega), Nat.le_floor_iff (by linarith)]
  push_cast
  constructor <;> intro h <;> linarith

/-- **The width of `%.2f`**, from the number. -/
theorem length_fixed2 (q : ℚ) :
    (fixed2 q).length = (if q < 0 then 1 else 0) + (Nat.log 10 ⌊|q| + 1 / 200⌋₊ + 1) + 3 := by
  rw [fixed2, List.length_append, List.length_append, length_decimal, hundredths_div]
  split <;> rfl

theorem mem_decimal {n : ℕ} {c : Char} (h : c ∈ decimal n) : c.isDigit = true :=
  Nat.isDigit_of_mem_toDigits (by decide) (by decide) h

theorem isDigit_digitChar {d : ℕ} (h : d < 10) : (Nat.digitChar d).isDigit = true := by
  revert d
  decide

theorem mem_fixed2 {q : ℚ} {c : Char} (h : c ∈ fixed2 q) :
    c.isDigit = true ∨ c = '-' ∨ c = '.' := by
  rcases List.mem_append.mp h with h | h
  · rcases List.mem_append.mp h with h | h
    · right; left
      split at h
      · exact List.mem_singleton.mp h
      · exact absurd h List.not_mem_nil
    · exact Or.inl (mem_decimal h)
  · rcases List.mem_cons.mp h with h | h
    · exact Or.inr (Or.inr h)
    · left
      rcases List.mem_cons.mp h with rfl | h
      · exact isDigit_digitChar (Nat.mod_lt _ (by decide))
      · rw [List.mem_singleton] at h
        rw [h]
        exact isDigit_digitChar (Nat.mod_lt _ (by decide))

end Lib
