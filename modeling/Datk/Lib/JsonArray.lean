import Datk.Lib.JsonBytes

/-!
# JSON arrays in bytes

A reader for arrays of the objects of `Lib.JsonBytes`, with white space wherever an
array may have it: around the brackets, the commas and the objects.

`array_printArray` says that what a printer wrote is read back, whatever white space it
puts behind its commas and at the end.
-/

namespace Lib.JsonBytes

def skipSpace (s : List (BitVec 8)) : List (BitVec 8) := s.dropWhile isSpace

/-- Reads at most `fuel` objects and the closing bracket. -/
def readElements : Nat → List (BitVec 8) → Option (List (List Member) × List (BitVec 8))
  | 0, _ => none
  | fuel + 1, s =>
    match readObject (skipSpace s) with
    | none => none
    | some (ms, s) =>
      match skipSpace s with
      | [] => none
      | c :: s =>
        if c = 0x2c then (readElements fuel s).map fun r => (ms :: r.1, r.2)
        else if c = 0x5d then some ([ms], s)
        else none

def readArray : List (BitVec 8) → Option (List (List Member) × List (BitVec 8))
  | [] => none
  | c :: s =>
    if c = 0x5b then
      match skipSpace s with
      | [] => none
      | d :: t => if d = 0x5d then some ([], t) else readElements s.length s
    else none

def array (s : List (BitVec 8)) : Option (List (List Member)) :=
  match readArray (skipSpace s) with
  | some (mss, rest) => if rest.all isSpace then some mss else none
  | none => none

/-- The elements and the closing bracket, with `ws` behind each comma. -/
def printElements (ws : List (BitVec 8)) : List (List (BitVec 8)) → List (BitVec 8)
  | [] => [0x5d]
  | [t] => t ++ [0x5d]
  | t :: ts => t ++ 0x2c :: (ws ++ printElements ws ts)

def printArray (ws : List (BitVec 8)) (ts : List (List (BitVec 8))) : List (BitVec 8) :=
  0x5b :: printElements ws ts

theorem skipSpace_append {ws : List (BitVec 8)} (h : ws.all isSpace = true)
    (s : List (BitVec 8)) : skipSpace (ws ++ s) = skipSpace s :=
  List.dropWhile_append_of_pos (by simpa using h)

theorem skipSpace_cons {c : BitVec 8} (h : isSpace c = false) (s : List (BitVec 8)) :
    skipSpace (c :: s) = c :: s := by
  rw [skipSpace, List.dropWhile_cons, h]
  rfl

/-- An object that is read back, to whatever comes after it. -/
def ReadsObject (t : List (BitVec 8)) (ms : List Member) : Prop :=
  ∃ u, t = 0x7b :: u ∧ ∀ rest, readObject (t ++ rest) = some (ms, rest)

theorem readsObject_printObject {ts : List (List (BitVec 8))} {ms : List Member}
    (h : List.Forall₂ Reads ts ms) : ReadsObject (printObject ts) ms :=
  ⟨printMembers ts, rfl, readObject_printObject h⟩

theorem ReadsObject.skipSpace {t : List (BitVec 8)} {ms : List Member} (h : ReadsObject t ms)
    (rest : List (BitVec 8)) : skipSpace (t ++ rest) = t ++ rest := by
  obtain ⟨u, rfl, -⟩ := h
  exact skipSpace_cons (by decide) (u ++ rest)

theorem readElements_append {ws : List (BitVec 8)} (h : ws.all isSpace = true) (fuel : Nat)
    (s : List (BitVec 8)) : readElements fuel (ws ++ s) = readElements fuel s := by
  cases fuel with
  | zero => rfl
  | succ fuel => rw [readElements, readElements, skipSpace_append h]

/-- **Elements are read back.** -/
theorem readElements_printElements {ws : List (BitVec 8)} (hws : ws.all isSpace = true)
    {ts : List (List (BitVec 8))} {mss : List (List Member)}
    (h : List.Forall₂ ReadsObject ts mss) (hne : ts ≠ []) {fuel : Nat} (hfuel : ts.length ≤ fuel)
    (rest : List (BitVec 8)) :
    readElements fuel (printElements ws ts ++ rest) = some (mss, rest) := by
  have hcomma : isSpace 0x2c = false := by decide
  have hbracket : isSpace 0x5d = false := by decide
  induction h generalizing fuel with
  | nil => exact absurd rfl hne
  | @cons t ms ts mss hread htail ih =>
    obtain ⟨fuel, rfl⟩ := Nat.exists_eq_add_of_lt (Nat.lt_of_lt_of_le (Nat.succ_pos _) hfuel)
    rw [Nat.zero_add] at hfuel ⊢
    obtain ⟨-, -, hobject⟩ := id hread
    cases htail with
    | nil =>
      rw [printElements, List.append_assoc, List.singleton_append, readElements,
        hread.skipSpace, hobject]
      simp only [skipSpace_cons hbracket]
      rfl
    | @cons u ns ts mss hu htail =>
      have hrest := ih (List.cons_ne_nil _ _) (Nat.le_of_succ_le_succ hfuel)
      rw [printElements, List.append_assoc, List.cons_append, List.append_assoc, readElements,
        hread.skipSpace, hobject]
      · simp only [skipSpace_cons hcomma, if_true, readElements_append hws, hrest,
          Option.map_some]
      · exact List.cons_ne_nil _ _

theorem length_le_printElements (ws : List (BitVec 8)) (ts : List (List (BitVec 8))) :
    ts.length ≤ (printElements ws ts).length := by
  induction ts with
  | nil => exact Nat.zero_le _
  | cons t ts ih =>
    cases ts with
    | nil => simp [printElements]
    | cons u ts =>
      rw [printElements]
      · simp only [List.length_append, List.length_cons] at ih ⊢
        omega
      · exact List.cons_ne_nil _ _

/-- **An array is read back** from objects that are. -/
theorem array_printArray {ws : List (BitVec 8)} (hws : ws.all isSpace = true)
    {ts : List (List (BitVec 8))} {mss : List (List Member)}
    (h : List.Forall₂ ReadsObject ts mss) {rest : List (BitVec 8)}
    (hrest : rest.all isSpace = true) : array (printArray ws ts ++ rest) = some mss := by
  have hopen : isSpace 0x5b = false := by decide
  have hbracket : isSpace 0x5d = false := by decide
  have hread : readArray (printArray ws ts ++ rest) = some (mss, rest) := by
    rw [printArray, List.cons_append, readArray, if_pos rfl]
    cases h with
    | nil =>
      rw [printElements, List.singleton_append, skipSpace_cons hbracket]
      rfl
    | @cons t ms ts mss ht htail =>
      have hfuel : (t :: ts).length ≤ (printElements ws (t :: ts) ++ rest).length := by
        rw [List.length_append]
        exact Nat.le_add_right_of_le (length_le_printElements ws _)
      have helements := readElements_printElements hws (.cons ht htail) (List.cons_ne_nil _ _)
        hfuel rest
      obtain ⟨u, hu⟩ : ∃ u, printElements ws (t :: ts) = t ++ u := by
        cases ts with
        | nil => exact ⟨_, rfl⟩
        | cons t' ts => exact ⟨_, rfl⟩
      obtain ⟨v, hv, -⟩ := id ht
      have hskip : skipSpace (printElements ws (t :: ts) ++ rest) =
          0x7b :: (v ++ (u ++ rest)) := by
        rw [hu, List.append_assoc, ht.skipSpace, hv, List.cons_append]
      rw [hskip]
      exact helements
  rw [array, printArray, List.cons_append, skipSpace_cons hopen, ← List.cons_append, ← printArray,
    hread]
  simp only [hrest, if_true]

end Lib.JsonBytes
