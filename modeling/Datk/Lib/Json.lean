import Mathlib.Tactic.Common

/-!
# JSON objects of strings

The objects whose members are strings, written without white space and without
escapes.  `object` reads one and returns its members in order; it is `none` on
every other text, so what it accepts is a JSON object.  `print` writes one, and
`object_print` says that it is read back.
-/

namespace Lib.Json

/-- The characters that stand for themselves between quotation marks. -/
def plain (c : Char) : Bool := c ≠ '\x22' && c ≠ '\x5c' && 0x20 ≤ c.toNat

/-- Reads a string, and returns what comes after it. -/
def readString : List Char → Option (List Char × List Char)
  | '\x22' :: s =>
    match s.dropWhile plain with
    | '\x22' :: rest => some (s.takeWhile plain, rest)
    | _ => none
  | _ => none

def readMember (s : List Char) : Option ((List Char × List Char) × List Char) :=
  match readString s with
  | some (name, ':' :: s) => (readString s).map fun (value, rest) => ((name, value), rest)
  | _ => none

/-- Reads at most `fuel` members and the closing brace, where the text ends. -/
def readMembers : Nat → List Char → Option (List (List Char × List Char))
  | 0, _ => none
  | fuel + 1, s =>
    match readMember s with
    | some (m, ',' :: s) => (readMembers fuel s).map (m :: ·)
    | some (m, ['\x7d']) => some [m]
    | _ => none

def object : List Char → Option (List (List Char × List Char))
  | ['\x7b', '\x7d'] => some []
  | '\x7b' :: s => readMembers s.length s
  | _ => none

/-! ### Printing -/

def printString (s : List Char) : List Char := '\x22' :: s ++ ['\x22']

def printMember (m : List Char × List Char) : List Char :=
  printString m.1 ++ ':' :: printString m.2

def printMembers : List (List Char × List Char) → List Char
  | [] => ['\x7d']
  | [m] => printMember m ++ ['\x7d']
  | m :: ms => printMember m ++ ',' :: printMembers ms

def print (ms : List (List Char × List Char)) : List Char := '\x7b' :: printMembers ms

/-! ### What is printed is read back -/

theorem readString_printString {s : List Char} (hs : ∀ c ∈ s, plain c = true)
    (rest : List Char) : readString (printString s ++ rest) = some (s, rest) := by
  have hquote : plain '\x22' = false := rfl
  have htake : (s ++ '\x22' :: rest).takeWhile plain = s := by
    rw [List.takeWhile_append_of_pos hs, List.takeWhile_cons, hquote]
    exact List.append_nil s
  have hdrop : (s ++ '\x22' :: rest).dropWhile plain = '\x22' :: rest := by
    rw [List.dropWhile_append_of_pos hs, List.dropWhile_cons, hquote]
    rfl
  rw [printString, List.append_assoc, List.cons_append, List.singleton_append, readString, hdrop]
  simp only [htake]

/-- A member whose name and value need no escapes. -/
def Plain (m : List Char × List Char) : Prop :=
  (∀ c ∈ m.1, plain c = true) ∧ ∀ c ∈ m.2, plain c = true

theorem readMember_printMember {m : List Char × List Char} (h : Plain m) (rest : List Char) :
    readMember (printMember m ++ rest) = some (m, rest) := by
  rw [readMember, printMember, List.append_assoc, readString_printString h.1, List.cons_append]
  simp only [readString_printString h.2, Option.map_some]

theorem readMembers_printMembers {ms : List (List Char × List Char)} (hne : ms ≠ [])
    (h : ∀ m ∈ ms, Plain m) {fuel : Nat} (hfuel : ms.length ≤ fuel) :
    readMembers fuel (printMembers ms) = some ms := by
  induction ms generalizing fuel with
  | nil => exact absurd rfl hne
  | cons m ms ih =>
    obtain ⟨fuel, rfl⟩ := Nat.exists_eq_add_of_lt (Nat.lt_of_lt_of_le (Nat.succ_pos _) hfuel)
    rw [Nat.zero_add] at hfuel ⊢
    have hm := h m List.mem_cons_self
    cases ms with
    | nil =>
      rw [printMembers, readMembers, readMember_printMember hm]
      rfl
    | cons m' ms =>
      have hrest := ih (List.cons_ne_nil _ _) (fun x hx => h x (List.mem_cons_of_mem _ hx))
        (Nat.le_of_succ_le_succ hfuel)
      rw [printMembers, readMembers, readMember_printMember hm]
      · simp only [hrest, Option.map_some]
      · exact List.cons_ne_nil _ _

theorem length_le_printMembers (ms : List (List Char × List Char)) :
    ms.length ≤ (printMembers ms).length := by
  induction ms with
  | nil => exact Nat.zero_le _
  | cons m ms ih =>
    cases ms with
    | nil => exact Nat.succ_le_of_lt (by simp [printMembers])
    | cons m' ms =>
      rw [printMembers]
      · simp only [List.length_append, List.length_cons] at ih ⊢
        omega
      · exact List.cons_ne_nil _ _

/-- **Reading an object that was printed** returns its members. -/
theorem object_print {ms : List (List Char × List Char)} (h : ∀ m ∈ ms, Plain m) :
    object (print ms) = some ms := by
  cases ms with
  | nil => rfl
  | cons m ms =>
    have hread := readMembers_printMembers (List.cons_ne_nil m ms) h (length_le_printMembers _)
    have hshape : ∃ s, printMembers (m :: ms) = '\x22' :: s := by
      cases ms <;> exact ⟨_, rfl⟩
    obtain ⟨s, hs⟩ := hshape
    rw [print, hs, object]
    · rw [← hs, hread]
    · exact fun hend => by cases hend

end Lib.Json
