import Mathlib.Algebra.Ring.Nat
import Mathlib.Tactic.Common

/-!
# Words on a serial line

A word of `w` bits goes over a line bit by bit, the least significant first.  `bits` is
what is sent.  A receiver that collects the bits has the word back with `ofBits`; one
that shifts them in from the left has it back whatever was in its register before
(`foldl_shiftIn`).
-/

namespace Lib

variable {w : Nat}

/-- The bits of a word, the least significant first. -/
def bits (v : BitVec w) : List Bool := (List.range w).map v.getLsbD

/-- The word whose least significant bit is the first of `bs`. -/
def ofBits (w : Nat) : List Bool → BitVec w
  | [] => 0
  | b :: bs => (ofBits w bs <<< 1) ||| (BitVec.ofBool b).setWidth w

/-- A shift register takes a bit in from the left. -/
def shiftIn (v : BitVec w) (b : Bool) : BitVec w :=
  (v >>> 1) ||| ((BitVec.ofBool b).setWidth w <<< (w - 1))

@[simp] theorem length_bits (v : BitVec w) : (bits v).length = w := by simp [bits]

theorem getD_bits (v : BitVec w) {i : Nat} (hi : i < w) :
    (bits v).getD i false = v.getLsbD i := by simp [bits, hi]

theorem take_bits_succ (v : BitVec w) {n : Nat} (hn : n < w) :
    (bits v).take (n + 1) = (bits v).take n ++ [v.getLsbD n] := by
  rw [List.take_add_one, List.getElem?_eq_getElem (by simpa using hn)]
  simp [bits]

/-! ### Collected bits -/

theorem getLsbD_ofBits (bs : List Bool) {i : Nat} (hi : i < w) :
    (ofBits w bs).getLsbD i = bs.getD i false := by
  induction bs generalizing i with
  | nil => simp [ofBits]
  | cons b bs ih =>
    cases i with
    | zero => simp [ofBits, hi]
    | succ i =>
      have hlt : i < w := by omega
      have htail := ih hlt
      rw [BitVec.getLsbD_eq_getElem hlt] at htail
      simp [ofBits, hi, htail]

/-- **A word is its bits collected.** -/
theorem ofBits_bits (v : BitVec w) : ofBits w (bits v) = v := by
  apply BitVec.eq_of_getLsbD_eq
  intro i hi
  rw [getLsbD_ofBits _ hi, getD_bits v hi]

/-! ### Bits shifted in -/

theorem getLsbD_shiftIn (v : BitVec w) (b : Bool) {i : Nat} (hi : i < w) :
    (shiftIn v b).getLsbD i = if i + 1 = w then b else v.getLsbD (i + 1) := by
  by_cases hlast : i + 1 = w
  · have hsub : i - (w - 1) = 0 := by omega
    have hlt : ¬ i < w - 1 := by omega
    have hout : v.getLsbD (1 + i) = false := BitVec.getLsbD_of_ge v _ (by omega)
    simp [shiftIn, hlast, hi, hsub, hlt, hout]
  · have hlt : i < w - 1 := by omega
    simp [shiftIn, hlast, hlt, Nat.add_comm 1 i]

theorem getLsbD_foldl_shiftIn (bs : List Bool) (v : BitVec w) (hbs : bs.length ≤ w) {i : Nat}
    (hi : i < w) : (bs.foldl shiftIn v).getLsbD i =
      if i + bs.length < w then v.getLsbD (i + bs.length)
        else bs.getD (i + bs.length - w) false := by
  induction bs generalizing v with
  | nil => simp [hi]
  | cons b bs ih =>
    rw [List.length_cons] at hbs ⊢
    rw [List.foldl_cons, ih (shiftIn v b) (by omega)]
    by_cases hin : i + bs.length < w
    · rw [if_pos hin, getLsbD_shiftIn v b hin]
      by_cases hlast : i + bs.length + 1 = w
      · rw [if_pos hlast, if_neg (by omega), show i + (bs.length + 1) - w = 0 by omega]
        rfl
      · rw [if_neg hlast, if_pos (by omega)]
        rfl
    · rw [if_neg hin, if_neg (by omega),
        show i + (bs.length + 1) - w = i + bs.length - w + 1 by omega]
      rfl

/-- **A full round of shifts leaves the word**, and nothing of what was there before. -/
theorem foldl_shiftIn (v u : BitVec w) : (bits v).foldl shiftIn u = v := by
  apply BitVec.eq_of_getLsbD_eq
  intro i hi
  have hlen := length_bits v
  rw [getLsbD_foldl_shiftIn _ u (Nat.le_of_eq hlen) hi, hlen, if_neg (by omega),
    Nat.add_sub_cancel, getD_bits v hi]

end Lib
