import Mathlib.Algebra.Ring.Nat
import Mathlib.Tactic.Common

/-!
# Bytes and characters

A `Byte` is a `uint8_t`, or a `char` where the program looks at its value.  Where
it only copies characters, a string is a `Text`.
-/

namespace Datk

abbrev Byte := BitVec 8

/-- The contents of a C string. -/
abbrev Text := List Char

def bytes (s : String) : List Byte := s.toList.map fun c => .ofNat 8 c.toNat

end Datk
