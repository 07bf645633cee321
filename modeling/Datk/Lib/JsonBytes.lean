import Mathlib.Data.List.Basic
import Mathlib.Data.List.TakeWhile
import Mathlib.Tactic.Common

/-!
# JSON objects in bytes

A reader for objects whose members are strings and integers, as they are written
without white space.  In a string, a byte that is no control character, quotation
mark or backslash stands for itself; the escapes are those of JSON, and `\uXXXX`
stands for the UTF-8 encoding of a code point that is no surrogate.

`object` reads a text that is one object, up to white space at its end.  What it
accepts ends in a closing brace, `object_brace`; the lemmas about `readChars` and
`readInt` say how what a printer wrote is read back.
-/

namespace Lib.JsonBytes

/-- A text in ASCII. -/
def ascii (s : List Char) : List (BitVec 8) := s.map fun c => .ofNat 8 c.toNat

/-! ### Strings -/

def plain (c : BitVec 8) : Bool := 0x20 ≤ c.toNat && c ≠ 0x22 && c ≠ 0x5c

def hexValue (c : BitVec 8) : Option Nat :=
  if 0x30 ≤ c.toNat ∧ c.toNat ≤ 0x39 then some (c.toNat - 0x30)
  else if 0x61 ≤ c.toNat ∧ c.toNat ≤ 0x66 then some (c.toNat - 0x57)
  else if 0x41 ≤ c.toNat ∧ c.toNat ≤ 0x46 then some (c.toNat - 0x37)
  else none

/-- The UTF-8 encoding of a code point below `2 ^ 16`. -/
def utf8 (n : Nat) : Option (List (BitVec 8)) :=
  if n < 0x80 then some [.ofNat 8 n]
  else if n < 0x800 then some [.ofNat 8 (0xc0 + n / 64), .ofNat 8 (0x80 + n % 64)]
  else if 0xd800 ≤ n ∧ n < 0xe000 then none
  else some [.ofNat 8 (0xe0 + n / 4096), .ofNat 8 (0x80 + n / 64 % 64), .ofNat 8 (0x80 + n % 64)]

/-- `\uXXXX`, from its four digits. -/
def unicode (a b c d : BitVec 8) : Option (List (BitVec 8)) := do
  let a ← hexValue a
  let b ← hexValue b
  let c ← hexValue c
  let d ← hexValue d
  utf8 (4096 * a + 256 * b + 16 * c + d)

/-- The escapes of two characters. -/
def shortEscape (c : BitVec 8) : Option (BitVec 8) :=
  if c = 0x22 ∨ c = 0x5c ∨ c = 0x2f then some c
  else if c = 0x62 then some 0x08
  else if c = 0x66 then some 0x0c
  else if c = 0x6e then some 0x0a
  else if c = 0x72 then some 0x0d
  else if c = 0x74 then some 0x09
  else none

/-- Reads a string from behind its opening quotation mark, and returns what comes after
it. -/
def readChars : List (BitVec 8) → Option (List (BitVec 8) × List (BitVec 8))
  | [] => none
  | c :: s =>
    if c = 0x22 then some ([], s)
    else if plain c then (readChars s).map fun r => (c :: r.1, r.2)
    else if c = 0x5c then
      match s with
      | [] => none
      | e :: s =>
        if e = 0x75 then
          match s with
          | a :: b :: c :: d :: s =>
            (unicode a b c d).bind fun cs => (readChars s).map fun r => (cs ++ r.1, r.2)
          | _ => none
        else (shortEscape e).bind fun c => (readChars s).map fun r => (c :: r.1, r.2)
    else none

/-- What may stand between quotation marks: a quotation mark, a backslash or a control
character only as an escape. -/
inductive Escaped : List (BitVec 8) → Prop
  | nil : Escaped []
  | cons {c : BitVec 8} {s : List (BitVec 8)} (hc : plain c = true) (hs : Escaped s) :
      Escaped (c :: s)
  | short {e c : BitVec 8} {s : List (BitVec 8)} (he : shortEscape e = some c)
      (hs : Escaped s) : Escaped (0x5c :: e :: s)
  | code {a b c d : BitVec 8} {cs s : List (BitVec 8)} (hcode : unicode a b c d = some cs)
      (hs : Escaped s) : Escaped (0x5c :: 0x75 :: a :: b :: c :: d :: s)

def readString : List (BitVec 8) → Option (List (BitVec 8) × List (BitVec 8))
  | [] => none
  | c :: s => if c = 0x22 then readChars s else none

/-! ### Integers -/

def isDigit (c : BitVec 8) : Bool := 0x30 ≤ c.toNat && c.toNat ≤ 0x39

def digits (ds : List (BitVec 8)) : Nat := ds.foldl (fun n d => 10 * n + (d.toNat - 0x30)) 0

/-- Digits, of which the first is zero only if it is the only one. -/
def readNat (s : List (BitVec 8)) : Option (Nat × List (BitVec 8)) :=
  let ds := s.takeWhile isDigit
  if ds = [] ∨ ds.head? = some 0x30 ∧ ds.length ≠ 1 then none
  else some (digits ds, s.dropWhile isDigit)

def readInt : List (BitVec 8) → Option (Int × List (BitVec 8))
  | [] => none
  | c :: s =>
    if c = 0x2d then (readNat s).map fun r => (-(r.1 : Int), r.2)
    else (readNat (c :: s)).map fun r => ((r.1 : Int), r.2)

def printInt (z : Int) : List (BitVec 8) :=
  (if z < 0 then [0x2d] else []) ++ ascii (Nat.toDigits 10 z.natAbs)

/-! ### Objects -/

inductive Value
  | str (s : List (BitVec 8))
  | int (z : Int)
  deriving DecidableEq, Repr

abbrev Member := List (BitVec 8) × Value

def readValue : List (BitVec 8) → Option (Value × List (BitVec 8))
  | [] => none
  | c :: s =>
    if c = 0x22 then (readChars s).map fun r => (.str r.1, r.2)
    else (readInt (c :: s)).map fun r => (.int r.1, r.2)

def readMember (s : List (BitVec 8)) : Option (Member × List (BitVec 8)) := do
  let (name, s) ← readString s
  match s with
  | [] => none
  | c :: s => if c = 0x3a then (readValue s).map fun r => ((name, r.1), r.2) else none

/-- Reads at most `fuel` members and the closing brace. -/
def readMembers : Nat → List (BitVec 8) → Option (List Member × List (BitVec 8))
  | 0, _ => none
  | fuel + 1, s =>
    match readMember s with
    | none => none
    | some (_, []) => none
    | some (m, c :: s) =>
      if c = 0x2c then (readMembers fuel s).map fun r => (m :: r.1, r.2)
      else if c = 0x7d then some ([m], s)
      else none

def readObject : List (BitVec 8) → Option (List Member × List (BitVec 8))
  | c :: d :: s =>
    if c = 0x7b then
      if d = 0x7d then some ([], s) else readMembers (d :: s).length (d :: s)
    else none
  | _ => none

def isSpace (c : BitVec 8) : Bool := c = 0x20 || c = 0x09 || c = 0x0a || c = 0x0d

def object (s : List (BitVec 8)) : Option (List Member) :=
  match readObject s with
  | some (ms, rest) => if rest.all isSpace then some ms else none
  | none => none

/-! ### What is read back -/

theorem readChars_quote (s : List (BitVec 8)) : readChars (0x22 :: s) = some ([], s) := by
  rw [readChars.eq_def]
  simp only [if_true]

theorem readChars_plain {c : BitVec 8} (hc : plain c = true) (s : List (BitVec 8)) :
    readChars (c :: s) = (readChars s).map fun r => (c :: r.1, r.2) := by
  have hquote : c ≠ 0x22 := by
    rintro rfl
    cases hc
  rw [readChars.eq_def]
  simp only [if_neg hquote, if_pos hc]

theorem readChars_short {e c : BitVec 8} (h : shortEscape e = some c) (s : List (BitVec 8)) :
    readChars (0x5c :: e :: s) = (readChars s).map fun r => (c :: r.1, r.2) := by
  have hu : e ≠ 0x75 := by
    rintro rfl
    cases h
  rw [readChars.eq_def]
  simp only [if_neg hu, h, Option.bind_some]
  rfl

theorem readChars_unicode {a b c d : BitVec 8} {cs : List (BitVec 8)}
    (h : unicode a b c d = some cs) (s : List (BitVec 8)) :
    readChars (0x5c :: 0x75 :: a :: b :: c :: d :: s) =
      (readChars s).map fun r => (cs ++ r.1, r.2) := by
  rw [readChars.eq_def]
  simp only [if_true, h, Option.bind_some]
  rfl

theorem Escaped.append {s t : List (BitVec 8)} (hs : Escaped s) (ht : Escaped t) :
    Escaped (s ++ t) := by
  induction hs with
  | nil => exact ht
  | cons hc _ ih => exact .cons hc ih
  | short he _ ih => exact .short he ih
  | code hcode _ ih => exact .code hcode ih

theorem lt_of_hexValue {c : BitVec 8} {k : Nat} (h : hexValue c = some k) : 0x1f < c.toNat := by
  simp only [hexValue] at h
  split at h
  · omega
  · split at h
    · omega
    · split at h
      · omega
      · cases h

/-- There is no control character in what is escaped, nor in the escapes. -/
theorem Escaped.noControl {s : List (BitVec 8)} (h : Escaped s) : ∀ c ∈ s, 0x1f < c.toNat := by
  induction h with
  | nil =>
    intro c hc
    cases hc
  | cons hc _ ih =>
    refine List.forall_mem_cons.mpr ⟨?_, ih⟩
    simp only [plain, Bool.and_eq_true, decide_eq_true_eq] at hc
    exact hc.1.1
  | @short e c s he _ ih =>
    have hletter : ∀ e : BitVec 8, (shortEscape e).isSome = true → 0x1f < e.toNat := by
      decide +kernel
    refine List.forall_mem_cons.mpr ⟨by decide, List.forall_mem_cons.mpr ⟨?_, ih⟩⟩
    exact hletter e (by rw [he, Option.isSome_some])
  | code hcode _ ih =>
    obtain ⟨_, ha, h⟩ := Option.bind_eq_some_iff.mp hcode
    obtain ⟨_, hb, h⟩ := Option.bind_eq_some_iff.mp h
    obtain ⟨_, hc, h⟩ := Option.bind_eq_some_iff.mp h
    obtain ⟨_, hd, -⟩ := Option.bind_eq_some_iff.mp h
    simp only [List.forall_mem_cons]
    exact ⟨by decide, by decide, lt_of_hexValue ha, lt_of_hexValue hb, lt_of_hexValue hc,
      lt_of_hexValue hd, ih⟩

/-- A string without escapes. -/
theorem readChars_append {t : List (BitVec 8)} (ht : ∀ c ∈ t, plain c = true)
    (s : List (BitVec 8)) : readChars (t ++ 0x22 :: s) = some (t, s) := by
  induction t with
  | nil => exact readChars_quote s
  | cons c t ih =>
    rw [List.cons_append, readChars_plain (ht c List.mem_cons_self),
      ih fun d hd => ht d (List.mem_cons_of_mem c hd)]
    rfl

theorem toNat_of_isDigit {c : Char} (h : c.isDigit = true) :
    (BitVec.ofNat 8 c.toNat).toNat = c.toNat ∧ 0x30 ≤ c.toNat ∧ c.toNat ≤ 0x39 := by
  have hc : 0x30 ≤ c.toNat ∧ c.toNat ≤ 0x39 := by
    simpa [Char.isDigit, UInt32.le_iff_toNat_le] using h
  refine ⟨?_, hc⟩
  rw [BitVec.toNat_ofNat]
  omega

theorem digits_ascii {cs : List Char} (h : ∀ c ∈ cs, c.isDigit = true) :
    digits (ascii cs) = Nat.ofDigitChars 10 cs 0 := by
  rw [digits, ascii, List.foldl_map, Nat.ofDigitChars_eq_foldl]
  refine List.foldl_ext _ _ _ fun n c hc => ?_
  rw [(toNat_of_isDigit (h c hc)).1]
  rfl

theorem isDigit_ascii {cs : List Char} (h : ∀ c ∈ cs, c.isDigit = true) :
    ∀ c ∈ ascii cs, isDigit c = true := by
  intro d hd
  obtain ⟨c, hc, rfl⟩ := List.mem_map.mp hd
  obtain ⟨hval, hlow, hhigh⟩ := toNat_of_isDigit (h c hc)
  simp only [isDigit, hval, Bool.and_eq_true, decide_eq_true_eq]
  exact ⟨hlow, hhigh⟩

/-- Digits in front of what is no digit. -/
theorem takeWhile_isDigit {ds s : List (BitVec 8)} (hds : ∀ c ∈ ds, isDigit c = true)
    (hs : ∀ c, s.head? = some c → isDigit c = false) :
    (ds ++ s).takeWhile isDigit = ds ∧ (ds ++ s).dropWhile isDigit = s := by
  rw [List.takeWhile_append_of_pos hds, List.dropWhile_append_of_pos hds]
  cases s with
  | nil => simp
  | cons c s => simp [hs c rfl]

/-- No number but zero is printed with a zero in front. -/
theorem eq_zero_of_head {n : Nat} (h : (Nat.toDigits 10 n).head? = some '0') : n = 0 := by
  induction n using Nat.strong_induction_on with
  | h n ih =>
    by_cases hn : n < 10
    · have hzero : ∀ d < 10, Nat.digitChar d = '0' → d = 0 := by decide
      rw [Nat.toDigits_of_lt_base hn, List.head?_cons, Option.some.injEq] at h
      exact hzero n hn h
    · rw [Nat.toDigits_of_base_le (by decide) (by omega), List.head?_append_of_ne_nil] at h
      · have := ih (n / 10) (by omega) h
        omega
      · exact Nat.toDigits_ne_nil

theorem isDigit_toDigits (n : Nat) : ∀ c ∈ ascii (Nat.toDigits 10 n), isDigit c = true :=
  isDigit_ascii fun _ hc => Nat.isDigit_of_mem_toDigits (by decide) (by decide) hc

theorem ascii_toDigits_ne_nil (n : Nat) : ascii (Nat.toDigits 10 n) ≠ [] := by
  rw [ascii, ne_eq, List.map_eq_nil_iff]
  exact Nat.toDigits_ne_nil

theorem readNat_toDigits (n : Nat) {s : List (BitVec 8)}
    (hs : ∀ c, s.head? = some c → isDigit c = false) :
    readNat (ascii (Nat.toDigits 10 n) ++ s) = some (n, s) := by
  have hdigit : ∀ c ∈ Nat.toDigits 10 n, c.isDigit = true := fun c hc =>
    Nat.isDigit_of_mem_toDigits (by decide) (by decide) hc
  obtain ⟨htake, hdrop⟩ := takeWhile_isDigit (isDigit_toDigits n) hs
  have hlead : ¬ ((ascii (Nat.toDigits 10 n)).head? = some 0x30 ∧
      (ascii (Nat.toDigits 10 n)).length ≠ 1) := by
    rintro ⟨hhead, hlen⟩
    rw [ascii, List.head?_map, Option.map_eq_some_iff] at hhead
    obtain ⟨c, hc, hval⟩ := hhead
    obtain ⟨hsame, -, -⟩ := toNat_of_isDigit (hdigit c (List.mem_of_head? hc))
    have hzero : c = '0' := by
      apply Char.toNat_inj.mp
      rw [← hsame, hval]
      rfl
    rw [eq_zero_of_head (n := n) (hzero ▸ hc)] at hlen
    exact hlen rfl
  simp only [readNat, htake, hdrop]
  rw [if_neg (not_or.mpr ⟨ascii_toDigits_ne_nil n, hlead⟩), digits_ascii hdigit,
    Nat.ofDigitChars_ten_toDigits]

/-- **What `printInt` writes is read back.** -/
theorem readInt_printInt (z : Int) {s : List (BitVec 8)}
    (hs : ∀ c, s.head? = some c → isDigit c = false) :
    readInt (printInt z ++ s) = some (z, s) := by
  by_cases hz : z < 0
  · rw [printInt, if_pos hz, List.append_assoc, List.singleton_append, readInt, if_pos rfl,
      readNat_toDigits _ hs, Option.map_some, Int.ofNat_natAbs_of_nonpos (by omega), Int.neg_neg]
  · rw [printInt, if_neg hz, List.nil_append]
    obtain ⟨c, t, hct⟩ := List.exists_cons_of_ne_nil (ascii_toDigits_ne_nil z.natAbs)
    have hminus : c ≠ 0x2d := by
      rintro rfl
      have hc := isDigit_toDigits z.natAbs 0x2d (hct ▸ List.mem_cons_self)
      cases hc
    rw [hct, List.cons_append, readInt, if_neg hminus, ← List.cons_append, ← hct,
      readNat_toDigits _ hs, Option.map_some, Int.natAbs_of_nonneg (by omega)]

/-! ### Printing

`Reads t m` says that `t` is read as the member `m`, whatever way of escaping its
printer has. -/

def Reads (t : List (BitVec 8)) (m : Member) : Prop :=
  ∀ c rest, c = 0x2c ∨ c = 0x7d → readMember (t ++ c :: rest) = some (m, c :: rest)

def printMember (name value : List (BitVec 8)) : List (BitVec 8) :=
  0x22 :: name ++ 0x22 :: 0x3a :: value

def printMembers : List (List (BitVec 8)) → List (BitVec 8)
  | [] => [0x7d]
  | [t] => t ++ [0x7d]
  | t :: ts => t ++ 0x2c :: printMembers ts

def printObject (ts : List (List (BitVec 8))) : List (BitVec 8) := 0x7b :: printMembers ts

theorem reads_of_readValue {name value : List (BitVec 8)} {v : Value}
    (hname : ∀ c ∈ name, plain c = true)
    (hvalue : ∀ c rest, c = 0x2c ∨ c = 0x7d →
      readValue (value ++ c :: rest) = some (v, c :: rest)) :
    Reads (printMember name value) (name, v) := by
  intro c rest hc
  have hstring : readString (printMember name value ++ c :: rest) =
      some (name, 0x3a :: (value ++ c :: rest)) := by
    rw [printMember, List.cons_append, List.cons_append, List.append_assoc, readString, if_pos rfl]
    exact readChars_append hname _
  simp only [readMember, hstring, Option.bind_eq_bind, Option.bind_some, if_true, hvalue c rest hc,
    Option.map_some]

/-- A string, from what its body is read as. -/
theorem reads_str {name body s : List (BitVec 8)} (hname : ∀ c ∈ name, plain c = true)
    (hbody : ∀ rest, readChars (body ++ 0x22 :: rest) = some (s, rest)) :
    Reads (printMember name (0x22 :: body ++ [0x22])) (name, .str s) := by
  refine reads_of_readValue hname fun c rest _ => ?_
  rw [List.cons_append, List.cons_append, List.append_assoc, List.singleton_append, readValue,
    if_pos rfl, hbody, Option.map_some]

theorem reads_int {name : List (BitVec 8)} (hname : ∀ c ∈ name, plain c = true) (z : Int) :
    Reads (printMember name (printInt z)) (name, .int z) := by
  refine reads_of_readValue hname fun c rest hc => ?_
  have hread : readInt (printInt z ++ c :: rest) = some (z, c :: rest) := by
    refine readInt_printInt z ?_
    rintro d ⟨⟩
    rcases hc with rfl | rfl <;> rfl
  cases hct : printInt z ++ c :: rest with
  | nil => simp at hct
  | cons d t =>
    have hquote : d ≠ 0x22 := by
      rintro rfl
      rw [hct] at hread
      cases hread
    rw [readValue, if_neg hquote, ← hct, hread, Option.map_some]

/-- **An object is read back** from members that are. -/
theorem readMembers_printMembers {ts : List (List (BitVec 8))} {ms : List Member}
    (h : List.Forall₂ Reads ts ms) (hne : ts ≠ []) {fuel : Nat} (hfuel : ts.length ≤ fuel)
    (rest : List (BitVec 8)) : readMembers fuel (printMembers ts ++ rest) = some (ms, rest) := by
  induction h generalizing fuel with
  | nil => exact absurd rfl hne
  | @cons t m ts ms hread htail ih =>
    obtain ⟨fuel, rfl⟩ := Nat.exists_eq_add_of_lt (Nat.lt_of_lt_of_le (Nat.succ_pos _) hfuel)
    rw [Nat.zero_add] at hfuel ⊢
    cases htail with
    | nil =>
      rw [printMembers, List.append_assoc, List.singleton_append, readMembers,
        hread 0x7d rest (.inr rfl)]
      rfl
    | @cons u n ts ms hu htail =>
      have hrest := ih (List.cons_ne_nil _ _) (Nat.le_of_succ_le_succ hfuel)
      rw [printMembers, List.append_assoc, List.cons_append, readMembers,
        hread 0x2c _ (.inl rfl)]
      · simp only [if_true, hrest, Option.map_some]
      · exact List.cons_ne_nil _ _

theorem length_le_printMembers (ts : List (List (BitVec 8))) :
    ts.length ≤ (printMembers ts).length := by
  induction ts with
  | nil => exact Nat.zero_le _
  | cons t ts ih =>
    cases ts with
    | nil => simp [printMembers]
    | cons u ts =>
      rw [printMembers]
      · simp only [List.length_append, List.length_cons] at ih ⊢
        omega
      · exact List.cons_ne_nil _ _

theorem readObject_printObject {ts : List (List (BitVec 8))} {ms : List Member}
    (h : List.Forall₂ Reads ts ms) (rest : List (BitVec 8)) :
    readObject (printObject ts ++ rest) = some (ms, rest) := by
  cases h with
  | nil => rfl
  | @cons t m ts ms hread htail =>
    have hfuel : (t :: ts).length ≤ (printMembers (t :: ts) ++ rest).length := by
      rw [List.length_append]
      exact Nat.le_add_right_of_le (length_le_printMembers _)
    have hmembers := readMembers_printMembers (.cons hread htail) (List.cons_ne_nil _ _) hfuel rest
    cases hct : printMembers (t :: ts) ++ rest with
    | nil =>
      rw [hct] at hmembers
      cases hmembers
    | cons d u =>
      have hbrace : d ≠ 0x7d := by
        rintro rfl
        rw [hct] at hmembers
        cases hmembers
      rw [printObject, List.cons_append, hct, readObject, if_pos rfl, if_neg hbrace, ← hct]
      exact hmembers

theorem object_printObject {ts : List (List (BitVec 8))} {ms : List Member}
    (h : List.Forall₂ Reads ts ms) {rest : List (BitVec 8)} (hrest : rest.all isSpace = true) :
    object (printObject ts ++ rest) = some ms := by
  rw [object, readObject_printObject h]
  simp only [hrest, if_true]

/-! ### What is accepted -/

/-- A reader that changes what it has read, and not what comes after it. -/
theorem exists_of_map {α β : Type} {f : α → β} {o : Option (α × List (BitVec 8))} {b : β}
    {rest : List (BitVec 8)} (h : (o.map fun r => (f r.1, r.2)) = some (b, rest)) :
    ∃ a, o = some (a, rest) := by
  obtain ⟨⟨a, s⟩, ho, hr⟩ := Option.map_eq_some_iff.mp h
  cases hr
  exact ⟨a, ho⟩

theorem readChars_suffix {s t rest : List (BitVec 8)} (h : readChars s = some (t, rest)) :
    rest <:+ s := by
  fun_induction readChars s generalizing t with
  | case1 | case4 | case6 | case8 => cases h
  | case2 =>
    cases h
    exact List.suffix_cons _ _
  | case3 c s hquote hplain ih =>
    obtain ⟨u, hu⟩ := exists_of_map h
    exact (ih hu).trans (List.suffix_cons c s)
  | case5 a b c d s hquote hplain ih =>
    obtain ⟨cs, -, h⟩ := Option.bind_eq_some_iff.mp h
    obtain ⟨u, hu⟩ := exists_of_map h
    exact (ih hu).trans (List.suffix_append [0x5c, 0x75, a, b, c, d] s)
  | case7 e s hu hquote hplain ih =>
    obtain ⟨c, -, h⟩ := Option.bind_eq_some_iff.mp h
    obtain ⟨u, hu⟩ := exists_of_map h
    exact (ih hu).trans (List.suffix_append [0x5c, e] s)

theorem readNat_suffix {s rest : List (BitVec 8)} {n : Nat} (h : readNat s = some (n, rest)) :
    rest <:+ s := by
  simp only [readNat] at h
  split at h
  · cases h
  · cases h
    exact List.dropWhile_suffix _

theorem readInt_suffix {s rest : List (BitVec 8)} {z : Int} (h : readInt s = some (z, rest)) :
    rest <:+ s := by
  cases s with
  | nil => cases h
  | cons c s =>
    rw [readInt] at h
    split at h
    · obtain ⟨n, hn⟩ := exists_of_map (f := fun n : Nat => -(n : Int)) h
      exact (readNat_suffix hn).trans (List.suffix_cons c s)
    · obtain ⟨n, hn⟩ := exists_of_map (f := fun n : Nat => (n : Int)) h
      exact readNat_suffix hn

theorem readValue_suffix {s rest : List (BitVec 8)} {v : Value}
    (h : readValue s = some (v, rest)) : rest <:+ s := by
  cases s with
  | nil => cases h
  | cons c s =>
    rw [readValue] at h
    split at h
    · obtain ⟨t, ht⟩ := exists_of_map h
      exact (readChars_suffix ht).trans (List.suffix_cons c s)
    · obtain ⟨z, hz⟩ := exists_of_map h
      exact readInt_suffix hz

theorem readMember_suffix {s rest : List (BitVec 8)} {m : Member}
    (h : readMember s = some (m, rest)) : rest <:+ s := by
  obtain ⟨⟨name, t⟩, hname, h⟩ := Option.bind_eq_some_iff.mp h
  have ht : t <:+ s := by
    cases s with
    | nil => cases hname
    | cons c s =>
      rw [readString] at hname
      split at hname
      · exact (readChars_suffix hname).trans (List.suffix_cons c s)
      · cases hname
  cases t with
  | nil => cases h
  | cons c t =>
    simp only at h
    split at h
    · obtain ⟨v, hv⟩ := exists_of_map (f := fun v => (name, v)) h
      exact (readValue_suffix hv).trans ((List.suffix_cons c t).trans ht)
    · cases h

theorem readMembers_brace {fuel : Nat} {s rest : List (BitVec 8)} {ms : List Member}
    (h : readMembers fuel s = some (ms, rest)) : 0x7d :: rest <:+ s := by
  induction fuel generalizing s ms with
  | zero => cases h
  | succ fuel ih =>
    rw [readMembers] at h
    split at h
    · cases h
    · cases h
    · rename_i m c t hm
      have ht := readMember_suffix hm
      split at h
      · obtain ⟨u, hu⟩ := exists_of_map h
        exact (ih hu).trans ((List.suffix_cons c t).trans ht)
      · split at h
        · rename_i hc
          cases h
          exact hc ▸ ht
        · cases h

/-- **An object ends in a closing brace**, up to white space. -/
theorem object_brace {s : List (BitVec 8)} {ms : List Member} (h : object s = some ms) :
    ∃ u rest, s = u ++ 0x7d :: rest ∧ rest.all isSpace = true := by
  rw [object] at h
  split at h
  · rename_i ms rest hread
    split at h
    · rename_i hspace
      suffices hsuffix : 0x7d :: rest <:+ s by
        obtain ⟨u, hu⟩ := hsuffix
        exact ⟨u, rest, hu.symm, hspace⟩
      rw [readObject.eq_def] at hread
      split at hread
      · rename_i c d s
        split at hread
        · split at hread
          · rename_i hd
            cases hread
            exact hd ▸ List.suffix_cons c _
          · exact (readMembers_brace hread).trans (List.suffix_cons c _)
        · cases hread
      · cases hread
    · cases h
  · cases h

/-- The last byte of an object, or of the white space after it. -/
theorem object_getLast {s : List (BitVec 8)} {ms : List Member} (h : object s = some ms) :
    ∃ c, s.getLast? = some c ∧ (c = 0x7d ∨ isSpace c = true) := by
  obtain ⟨u, rest, rfl, hrest⟩ := object_brace h
  rw [List.getLast?_append_of_ne_nil _ (List.cons_ne_nil _ _)]
  cases hlast : rest.getLast? with
  | none =>
    rw [List.getLast?_eq_none_iff.mp hlast]
    exact ⟨_, rfl, .inl rfl⟩
  | some c =>
    have hmem := List.mem_of_getLast? hlast
    refine ⟨c, ?_, .inr (List.all_eq_true.mp hrest c hmem)⟩
    rw [List.getLast?_cons, hlast]
    rfl

end Lib.JsonBytes
