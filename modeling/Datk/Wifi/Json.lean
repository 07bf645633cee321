import Datk.Basic
import Datk.Lib.Buffer
import Datk.Lib.JsonBytes

/-!
# The strings of the JSON that the server prints

`json_print_string` of `common/wifi_manager/src/json.c` goes over its input twice: the
first pass counts what the escapes add, the second one writes, and the closing
quotation mark goes where the first pass says that the second one stops.
`jsonPrintString_eq` says that it does, so that the call is one store of `quote input`
and its terminator, and `readChars_quote` that a reader of JSON gets the input back.
-/

namespace Datk.Wifi

open Lib

variable {n : Nat}

/-- The characters that `strchr` looks for in the first pass. -/
def shortEscapes : List Byte := bytes "\"\\\x08\x0c\n\r\t"

/-- What the first pass adds to `escape_characters`. -/
def escapeCharacters (c : Byte) : Nat :=
  if shortEscapes.contains c then 1 else if c.toNat < 32 then 5 else 0

/-- The `switch` of the second pass, up to its `default`. -/
def escapeLetter (c : Byte) : Option Byte :=
  if c = 0x5c then some 0x5c
  else if c = 0x22 then some 0x22
  else if c = 0x08 then some 0x62
  else if c = 0x0c then some 0x66
  else if c = 0x0a then some 0x6e
  else if c = 0x0d then some 0x72
  else if c = 0x09 then some 0x74
  else none

def hexDigit (k : Nat) : Byte := .ofNat 8 (if k < 10 then 0x30 + k else 0x57 + k)

/-- `%04x`, of what has at most four digits. -/
def printf04x (k : Nat) : List Byte :=
  [hexDigit (k / 4096 % 16), hexDigit (k / 256 % 16), hexDigit (k / 16 % 16), hexDigit (k % 16)]

/-- The second pass from `output_pointer` on: what it leaves, and where it stops. -/
def copyEscaped (b : Buffer Byte n) (outputPointer : Nat) :
    List Byte → Option (Buffer Byte n × Nat)
  | [] => some (b, outputPointer)
  | c :: input =>
    if 31 < c.toNat ∧ c ≠ 0x22 ∧ c ≠ 0x5c then
      (b.write outputPointer [c]).bind fun b => copyEscaped b (outputPointer + 1) input
    else
      (b.write outputPointer [0x5c]).bind fun b =>
        match escapeLetter c with
        | some e =>
          (b.write (outputPointer + 1) [e]).bind fun b => copyEscaped b (outputPointer + 2) input
        | none =>
          -- `sprintf` ends its output with a terminator, which the next store covers
          (b.write (outputPointer + 1) (0x75 :: printf04x c.toNat ++ [0])).bind fun b =>
            copyEscaped b (outputPointer + 6) input

/-- `escape_characters`, after the first pass. -/
def sumEscapes (input : List Byte) : Nat := (input.map escapeCharacters).sum

/-- What goes between the quotation marks: a copy if nothing has to be escaped. -/
def copyInput (input : List Byte) (b : Buffer Byte n) (output : Nat) : Option (Buffer Byte n) :=
  if sumEscapes input = 0 then b.write output input
  else (copyEscaped b output input).map Prod.fst

/-- `json_print_string`, of an input without its terminator. -/
def jsonPrintString (input : List Byte) (b : Buffer Byte n) (output : Nat) :
    Option (Buffer Byte n) := do
  let outputLength := input.length + sumEscapes input
  let b ← b.write output [0x22]
  let b ← copyInput input b (output + 1)
  let b ← b.write (output + (outputLength + 1)) [0x22]
  b.write (output + (outputLength + 2)) [0]

/-! ### What it writes -/

def escaped (c : Byte) : List Byte :=
  if 31 < c.toNat ∧ c ≠ 0x22 ∧ c ≠ 0x5c then [c]
  else
    0x5c :: match escapeLetter c with
      | some e => [e]
      | none => 0x75 :: printf04x c.toNat

def quote (s : List Byte) : List Byte := 0x22 :: s.flatMap escaped ++ [0x22]

/-- The two passes agree on every byte. -/
theorem length_escaped : ∀ c : Byte, (escaped c).length = 1 + escapeCharacters c := by
  decide +kernel

theorem length_flatMap_escaped (s : List Byte) :
    (s.flatMap escaped).length = s.length + sumEscapes s := by
  induction s with
  | nil => rfl
  | cons c s ih =>
    rw [List.flatMap_cons, List.length_append, length_escaped, ih, List.length_cons, sumEscapes,
      sumEscapes, List.map_cons, List.sum_cons]
    omega

theorem flatMap_escaped_of_sum {s : List Byte} (h : sumEscapes s = 0) :
    s.flatMap escaped = s := by
  have hself : ∀ c : Byte, escapeCharacters c = 0 → escaped c = [c] := by decide +kernel
  induction s with
  | nil => rfl
  | cons c s ih =>
    rw [sumEscapes, List.map_cons, List.sum_cons] at h
    rw [List.flatMap_cons, hself c (by omega), ih (by rw [sumEscapes]; omega),
      List.singleton_append]

/-- The second pass, followed by another store. -/
theorem copyEscaped_bind {b : Buffer Byte n} {p : Nat} {s ys : List Byte} (hys : ys ≠ []) :
    ((copyEscaped b p s).bind fun r => r.1.write r.2 ys) =
      b.write p (s.flatMap escaped ++ ys) := by
  induction s generalizing b p with
  | nil => rfl
  | cons c s ih =>
    have hpos : 0 < ys.length := List.length_pos_iff.mpr hys
    rw [List.flatMap_cons, copyEscaped, escaped]
    split
    · rw [Option.bind_assoc]
      simp only [ih]
      exact b.write_cons p c _
    · rw [Option.bind_assoc]
      cases escapeLetter c with
      | some e =>
        have hletter : ∀ b₁ : Buffer Byte n,
            ((b₁.write (p + 1) [e]).bind fun b₂ =>
              b₂.write (p + 2) (s.flatMap escaped ++ ys)) =
                b₁.write (p + 1) (e :: (s.flatMap escaped ++ ys)) := fun b₁ =>
          b₁.write_cons (p + 1) e _
        simp only [Option.bind_assoc, ih, hletter]
        exact b.write_cons p 0x5c _
      | none =>
        have hcode : ∀ b₁ : Buffer Byte n,
            ((b₁.write (p + 1) (0x75 :: printf04x c.toNat ++ [0])).bind fun b₂ =>
              b₂.write (p + 6) (s.flatMap escaped ++ ys)) =
                b₁.write (p + 1) (0x75 :: printf04x c.toNat ++ (s.flatMap escaped ++ ys)) := by
          intro b₁
          refine b₁.write_bind_write (p + 1) (k := 5) (by simp [printf04x]) ?_
          simp only [printf04x, List.length_append, List.length_cons, List.length_nil]
          omega
        simp only [Option.bind_assoc, ih, hcode]
        rw [List.append_assoc]
        exact b.write_cons p 0x5c _

/-- Where it stops. -/
theorem copyEscaped_end {b b' : Buffer Byte n} {p q : Nat} {s : List Byte}
    (h : copyEscaped b p s = some (b', q)) : q = p + (s.flatMap escaped).length := by
  induction s generalizing b p with
  | nil =>
    cases h
    rfl
  | cons c s ih =>
    rw [List.flatMap_cons, List.length_append, escaped]
    rw [copyEscaped] at h
    split at h
    · rename_i hc
      obtain ⟨b₁, -, h⟩ := Option.bind_eq_some_iff.mp h
      rw [if_pos hc, ih h, List.length_singleton]
      omega
    · rename_i hc
      obtain ⟨b₁, -, h⟩ := Option.bind_eq_some_iff.mp h
      rw [if_neg hc]
      cases hl : escapeLetter c with
      | some e =>
        simp only [hl] at h
        obtain ⟨b₂, -, h⟩ := Option.bind_eq_some_iff.mp h
        rw [ih h]
        simp only [List.length_cons, List.length_nil]
        omega
      | none =>
        simp only [hl] at h
        obtain ⟨b₂, -, h⟩ := Option.bind_eq_some_iff.mp h
        rw [ih h]
        simp only [printf04x, List.length_cons, List.length_nil]
        omega

/-- The closing quotation mark goes where either way of copying stops. -/
theorem copyInput_bind (s : List Byte) (b : Buffer Byte n) (p : Nat) :
    ((copyInput s b p).bind fun b₁ => b₁.write (p + (s.length + sumEscapes s)) [0x22]) =
      b.write p (s.flatMap escaped ++ [0x22]) := by
  have hlen := length_flatMap_escaped s
  rw [copyInput]
  split
  · rename_i hsum
    rw [flatMap_escaped_of_sum hsum, hsum, Nat.add_zero]
    exact b.write_append p s [0x22]
  · rw [← copyEscaped_bind (List.cons_ne_nil _ _), Option.bind_map]
    cases hc : copyEscaped b p s with
    | none => rfl
    | some r =>
      obtain ⟨b₁, q⟩ := r
      rw [← hlen, ← copyEscaped_end hc]
      rfl

/-- **What `json_print_string` writes.** -/
theorem jsonPrintString_eq (s : List Byte) (b : Buffer Byte n) (p : Nat) :
    jsonPrintString s b p = b.write p (quote s ++ [0]) := by
  have hclose : p + (s.length + sumEscapes s + 1) = p + 1 + (s.length + sumEscapes s) := by omega
  have hend : p + (s.length + sumEscapes s + 2) =
      p + 1 + (s.flatMap escaped ++ [0x22]).length := by
    rw [List.length_append, List.length_singleton, length_flatMap_escaped]
    omega
  have hrest : ∀ b₁ : Buffer Byte n,
      ((copyInput s b₁ (p + 1)).bind fun b₂ =>
        (b₂.write (p + (s.length + sumEscapes s + 1)) [0x22]).bind fun b₃ =>
          b₃.write (p + (s.length + sumEscapes s + 2)) [0]) =
        b₁.write (p + 1) (s.flatMap escaped ++ [0x22] ++ [0]) := by
    intro b₁
    rw [← Option.bind_assoc, hclose, copyInput_bind, hend]
    exact b₁.write_append (p + 1) _ [0]
  simp only [jsonPrintString, Option.bind_eq_bind, hrest]
  exact b.write_cons p 0x22 _

/-! ### What is read back -/

theorem shortEscape_escapeLetter : ∀ c : Byte,
    (escapeLetter c).bind JsonBytes.shortEscape = (escapeLetter c).map fun _ => c := by
  decide +kernel

theorem unicode_printf04x : ∀ {c : Byte}, ¬ (31 < c.toNat ∧ c ≠ 0x22 ∧ c ≠ 0x5c) →
    escapeLetter c = none →
    JsonBytes.unicode (hexDigit (c.toNat / 4096 % 16)) (hexDigit (c.toNat / 256 % 16))
      (hexDigit (c.toNat / 16 % 16)) (hexDigit (c.toNat % 16)) = some [c] := by
  decide +kernel

/-- One byte is read back, whether it stands for itself, or is written as a letter or as
its code. -/
theorem readChars_escaped (c : Byte) (s : List Byte) :
    JsonBytes.readChars (escaped c ++ s) =
      (JsonBytes.readChars s).map fun r => (c :: r.1, r.2) := by
  rw [escaped]
  split
  · rename_i hc
    refine JsonBytes.readChars_plain ?_ s
    simp only [JsonBytes.plain, Bool.and_eq_true, decide_eq_true_eq]
    exact ⟨⟨hc.1, by simpa using hc.2.1⟩, by simpa using hc.2.2⟩
  · rename_i hc
    cases hl : escapeLetter c with
    | some e =>
      exact JsonBytes.readChars_short (by simpa [hl] using shortEscape_escapeLetter c) s
    | none => exact JsonBytes.readChars_unicode (unicode_printf04x hc hl) s

theorem readChars_quote (s rest : List Byte) :
    JsonBytes.readChars (s.flatMap escaped ++ 0x22 :: rest) = some (s, rest) := by
  induction s with
  | nil => exact JsonBytes.readChars_quote rest
  | cons c s ih =>
    rw [List.flatMap_cons, List.append_assoc, readChars_escaped, ih]
    rfl

theorem zero_notMem_quote {s : List Byte} (hs : 0 ∉ s) : 0 ∉ quote s := by
  have hescaped : ∀ c : Byte, c ≠ 0 → 0 ∉ escaped c := by decide +kernel
  rw [quote, List.cons_append, List.mem_cons, List.mem_append, List.mem_flatMap]
  rintro (h | ⟨c, hc, h⟩ | h)
  · cases h
  · exact hescaped c (fun hzero => hs (hzero ▸ hc)) h
  · cases List.mem_singleton.mp h

/-! ### Between the quotation marks -/

/-- Where the copy between the quotation marks stops. -/
def copyEnd (input : List Byte) (b : Buffer Byte n) (output : Nat) : Option Nat :=
  if sumEscapes input = 0 then (b.write output input).map fun _ => output + input.length
  else (copyEscaped b output input).map Prod.snd

/-- `json_print_string` writes `body` between quotation marks, and `body` stands for
`s`. -/
structure Prints (s : List Byte) (b : Buffer Byte n) (output : Nat) (body : List Byte) :
    Prop where
  writes : jsonPrintString s b output = b.write output (0x22 :: body ++ [0x22, 0])
  noControl : ∀ c ∈ body, 31 < c.toNat
  escaped : JsonBytes.Escaped body
  unescapes : JsonBytes.readString (0x22 :: body ++ [0x22]) = some (s, [])
  /-- The first pass has the length right. -/
  length : body.length = s.length + sumEscapes s
  /-- The second pass stops where the closing quotation mark goes. -/
  stops : ∀ b', jsonPrintString s b output = some b' →
    ((b.write output [0x22]).bind fun b₁ => copyEnd s b₁ (output + 1)) =
      some (output + (s.length + sumEscapes s + 1))

theorem escaped_escaped (c : Byte) : JsonBytes.Escaped (escaped c) := by
  rw [escaped]
  split
  · rename_i hc
    refine .cons ?_ .nil
    simp only [JsonBytes.plain, Bool.and_eq_true, decide_eq_true_eq]
    exact ⟨⟨hc.1, by simpa using hc.2.1⟩, by simpa using hc.2.2⟩
  · rename_i hc
    cases hl : escapeLetter c with
    | some e => exact .short (by simpa [hl] using shortEscape_escapeLetter c) .nil
    | none => exact .code (unicode_printf04x hc hl) .nil

theorem escaped_flatMap (s : List Byte) : JsonBytes.Escaped (s.flatMap escaped) := by
  induction s with
  | nil => exact .nil
  | cons c s ih =>
    rw [List.flatMap_cons]
    exact (escaped_escaped c).append ih

theorem copyEnd_of_copyInput {s : List Byte} {b b' : Buffer Byte n} {p : Nat}
    (h : copyInput s b p = some b') : copyEnd s b p = some (p + (s.length + sumEscapes s)) := by
  rw [copyInput] at h
  rw [copyEnd]
  by_cases hsum : sumEscapes s = 0
  · rw [if_pos hsum] at h
    rw [if_pos hsum, h, hsum]
    rfl
  · rw [if_neg hsum] at h
    obtain ⟨⟨b₁, q⟩, hcopy, -⟩ := Option.map_eq_some_iff.mp h
    rw [if_neg hsum, hcopy, Option.map_some, ← length_flatMap_escaped, copyEscaped_end hcopy]

/-- **What is printed is escaped and is read back as it was**, and the closing quotation
mark goes where the copy stops, whether it escapes anything or not. -/
theorem jsonPrintString_prints (s : List Byte) (b : Buffer Byte n) (output : Nat) :
    ∃ body, Prints s b output body := by
  refine ⟨s.flatMap escaped, ?_, (escaped_flatMap s).noControl, escaped_flatMap s, ?_,
    length_flatMap_escaped s, ?_⟩
  · rw [jsonPrintString_eq, quote, List.append_assoc]
    rfl
  · rw [List.cons_append, JsonBytes.readString, if_pos rfl]
    exact readChars_quote s []
  · intro b' h
    obtain ⟨b₁, hb₁, h⟩ := Option.bind_eq_some_iff.mp h
    obtain ⟨b₂, hcopy, -⟩ := Option.bind_eq_some_iff.mp h
    rw [hb₁, Option.bind_some, copyEnd_of_copyInput hcopy, Option.some.injEq]
    omega

end Datk.Wifi
