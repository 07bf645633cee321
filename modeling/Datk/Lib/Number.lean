import Mathlib.Algebra.Order.Ring.Rat
import Mathlib.Data.List.TakeWhile
import Datk.Lib.Decimal

/-!
# Numbers and their texts

What C prints for a number, and what it reads from a text.  A `Number` is what a
floating-point number stands for: a rational number with a sign, which a zero has, too, an
infinity, or not a number.

`atoi_decimalInt` and `atof_fixed2` say that `%d` is read back as it was, and `%.2f` as the
nearest hundredth.
-/

namespace Lib

def sign (negative : Bool) : List Char := if negative then ['-'] else []

/-- `%d`. -/
def decimalInt (n : ℤ) : List Char := sign (n < 0) ++ decimal n.natAbs

inductive Number
  | finite (negative : Bool) (magnitude : ℚ≥0)
  | inf (negative : Bool)
  | nan (negative : Bool)
  deriving DecidableEq

namespace Number

/-- `%.2f`. -/
def fixed2 : Number → List Char
  | finite negative magnitude => sign negative ++ Lib.fixed2 magnitude
  | inf negative => sign negative ++ "inf".toList
  | nan negative => sign negative ++ "nan".toList

def ofRat (q : ℚ) : Number := finite (q < 0) ⟨|q|, abs_nonneg q⟩

/-- A number of hundredths. -/
def hundredths (negative : Bool) (n : ℕ) : Number := finite negative (n / 100)

end Number

/-! ### Reading -/

def isSpace (c : Char) : Bool := c = ' ' || ('\t' ≤ c && c ≤ '\r')

def isHexDigit (c : Char) : Bool := c.isDigit || ('a' ≤ c.toLower && c.toLower ≤ 'f')

def digitVal (c : Char) : ℕ :=
  if c.isDigit then c.toNat - '0'.toNat else c.toLower.toNat - 'a'.toNat + 10

def natOf (b : ℕ) (s : List Char) : ℕ := s.foldl (fun n c => b * n + digitVal c) 0

/-- Whether there is a minus, and what is behind the sign. -/
def unsign : List Char → Bool × List Char
  | '-' :: s => (true, s)
  | '+' :: s => (false, s)
  | s => (false, s)

/-- An integer at the start of the text; there may be no digits. -/
def intOf (s : List Char) : ℤ :=
  let n := natOf 10 ((unsign s).2.takeWhile Char.isDigit)
  if (unsign s).1 then -n else n

def atoi (s : List Char) : ℤ := intOf (s.dropWhile isSpace)

/-- The exponent behind a `mark`, if there is one. -/
def exponentOf (mark : Char → Bool) : List Char → ℤ
  | c :: s => if mark c then intOf s else 0
  | [] => 0

/-- Digits to the base `b`, with a point and an exponent of `r` where there are any. -/
def magnitudeOf (b r : ℕ) (digit mark : Char → Bool) (s : List Char) : ℚ≥0 :=
  let whole := s.takeWhile digit
  let rest := s.dropWhile digit
  let fraction := match rest with
    | '.' :: rest => rest.takeWhile digit
    | _ => []
  let rest := match rest with
    | '.' :: rest => rest.dropWhile digit
    | rest => rest
  natOf b (whole ++ fraction) / (b : ℚ≥0) ^ fraction.length * (r : ℚ≥0) ^ exponentOf mark rest

def unsigned (negative : Bool) (s : List Char) : Number :=
  let lower := s.map Char.toLower
  if "inf".toList <+: lower then .inf negative
  else if "nan".toList <+: lower then .nan negative
  else if "0x".toList <+: lower then
    .finite negative (magnitudeOf 16 2 isHexDigit (fun c => c.toLower = 'p') (s.drop 2))
  else .finite negative (magnitudeOf 10 10 Char.isDigit (fun c => c.toLower = 'e') s)

/-- `atof`, before it is rounded. -/
def atof (s : List Char) : Number :=
  unsigned (unsign (s.dropWhile isSpace)).1 (unsign (s.dropWhile isSpace)).2

/-! ### What is printed -/

theorem mem_sign {negative : Bool} {c : Char} (h : c ∈ sign negative) : c = '-' := by
  cases negative with
  | false => cases h
  | true => exact List.mem_singleton.mp h

theorem mem_decimalInt {n : ℤ} {c : Char} (h : c ∈ decimalInt n) : c.isDigit = true ∨ c = '-' := by
  rcases List.mem_append.mp h with h | h
  · exact .inr (mem_sign h)
  · exact .inl (mem_decimal h)

theorem decimalInt_ne_nil (n : ℤ) : decimalInt n ≠ [] := by
  intro h
  exact Nat.toDigits_ne_nil (List.append_eq_nil_iff.mp h).2

theorem Number.mem_fixed2 {x : Number} {c : Char} (h : c ∈ x.fixed2) :
    c.isDigit = true ∨ c ∈ "-.infan".toList := by
  have hinf : "inf".toList.Sublist "-.infan".toList := by decide
  have hnan : "nan".toList.Sublist "-.infan".toList := by decide
  cases x with
  | finite negative magnitude =>
    rcases List.mem_append.mp h with h | h
    · exact .inr (mem_sign h ▸ by decide)
    · rcases Lib.mem_fixed2 h with h | rfl | rfl
      · exact .inl h
      · exact .inr (by decide)
      · exact .inr (by decide)
  | inf negative =>
    rcases List.mem_append.mp h with h | h
    · exact .inr (mem_sign h ▸ by decide)
    · exact .inr (hinf.subset h)
  | nan negative =>
    rcases List.mem_append.mp h with h | h
    · exact .inr (mem_sign h ▸ by decide)
    · exact .inr (hnan.subset h)

@[simp] theorem Number.fixed2_ofRat (q : ℚ) : (ofRat q).fixed2 = Lib.fixed2 q := by
  have hmagnitude : Lib.hundredths |q| = Lib.hundredths q := by
    rw [Lib.hundredths, abs_abs, Lib.hundredths]
  have hpos : ¬ |q| < 0 := not_lt.mpr (abs_nonneg q)
  show sign (q < 0) ++ Lib.fixed2 |q| = Lib.fixed2 q
  simp only [Lib.fixed2, if_neg hpos, hmagnitude, sign, decide_eq_true_eq, List.nil_append,
    List.append_assoc]

/-! ### What is read -/

theorem natOf_append (b : ℕ) (s t : List Char) :
    natOf b (s ++ t) = t.foldl (fun n c => b * n + digitVal c) (natOf b s) :=
  List.foldl_append

theorem natOf_decimal (n : ℕ) : natOf 10 (decimal n) = n := by
  have hfold : ∀ s : List Char, (∀ c ∈ s, c.isDigit = true) → ∀ k,
      s.foldl (fun n c => 10 * n + digitVal c) k = Nat.ofDigitChars 10 s k := by
    intro s
    induction s with
    | nil => exact fun _ _ => Nat.ofDigitChars_nil.symm
    | cons c s ih =>
      intro hs k
      obtain ⟨hc, hs⟩ := List.forall_mem_cons.mp hs
      rw [List.foldl_cons, ih hs, Nat.ofDigitChars_cons, digitVal, if_pos hc]
  exact (hfold _ (fun c => mem_decimal) 0).trans Nat.ofDigitChars_ten_toDigits

theorem digitVal_digitChar {d : ℕ} (hd : d < 10) : digitVal (Nat.digitChar d) = d := by
  revert d
  decide

/-- A text that starts with no sign. -/
theorem unsign_of_ne {c : Char} {s : List Char} (hminus : c ≠ '-') (hplus : c ≠ '+') :
    unsign (c :: s) = (false, c :: s) := by
  rw [unsign]
  · intro t ht
    exact hminus (List.cons.inj ht).1
  · intro t ht
    exact hplus (List.cons.inj ht).1

theorem unsign_sign (negative : Bool) {c : Char} {s : List Char} (hc : c.isDigit = true) :
    unsign (sign negative ++ c :: s) = (negative, c :: s) := by
  cases negative with
  | true => rfl
  | false =>
    apply unsign_of_ne
    · rintro rfl
      exact absurd hc (by decide)
    · rintro rfl
      exact absurd hc (by decide)

theorem isSpace_of_isDigit {c : Char} (hc : c.isDigit = true) : isSpace c = false := by
  rw [Char.isDigit, Bool.and_eq_true, decide_eq_true_eq, decide_eq_true_eq] at hc
  have hlo : 48 ≤ c.toNat := hc.1
  have hblank : c ≠ ' ' := by
    rintro rfl
    exact absurd hlo (by decide)
  have hcontrol : ¬ c ≤ '\r' := by
    intro h
    have hhi : c.toNat ≤ 13 := h
    omega
  simp [isSpace, hblank, hcontrol]

/-- Blanks are skipped, and no more. -/
theorem dropWhile_isSpace_sign (negative : Bool) {c : Char} {s : List Char}
    (hc : c.isDigit = true) :
    (sign negative ++ c :: s).dropWhile isSpace = sign negative ++ c :: s := by
  cases negative with
  | true => rfl
  | false => exact List.dropWhile_cons_of_neg (by rw [isSpace_of_isDigit hc]; decide)

theorem exists_decimal_eq_cons (n : ℕ) : ∃ c s, c.isDigit = true ∧ decimal n = c :: s := by
  cases hn : decimal n with
  | nil => exact absurd hn Nat.toDigits_ne_nil
  | cons c s => exact ⟨c, s, mem_decimal (hn ▸ List.mem_cons_self), rfl⟩

theorem exists_fixed2_eq_cons (q : ℚ≥0) :
    ∃ c s, c.isDigit = true ∧ Lib.fixed2 q = c :: s := by
  have hpos : ¬ (q : ℚ) < 0 := not_lt.mpr (NNRat.cast_nonneg q)
  obtain ⟨c, s, hc, hs⟩ := exists_decimal_eq_cons (Lib.hundredths q / 100)
  refine ⟨c, s ++ ['.', Nat.digitChar (Lib.hundredths q / 10 % 10),
    Nat.digitChar (Lib.hundredths q % 10)], hc, ?_⟩
  rw [Lib.fixed2, if_neg hpos, hs]
  rfl

/-- **`%d` is read back.** -/
theorem atoi_decimalInt (n : ℤ) : atoi (decimalInt n) = n := by
  obtain ⟨c, s, hc, hs⟩ := exists_decimal_eq_cons n.natAbs
  have htake : (c :: s).takeWhile Char.isDigit = decimal n.natAbs := by
    rw [← hs, List.takeWhile_eq_self_iff]
    exact fun d => mem_decimal
  rw [atoi, decimalInt, hs, dropWhile_isSpace_sign _ hc, intOf, unsign_sign _ hc]
  simp only [htake, natOf_decimal, decide_eq_true_eq]
  by_cases hn : n < 0
  · rw [if_pos hn]
    omega
  · rw [if_neg hn]
    omega

theorem hundredths_natCast_div (n : ℕ) : Lib.hundredths (((n / 100 : ℚ≥0)) : ℚ) = n := by
  have hq : 100 * |((n / 100 : ℚ≥0) : ℚ)| = ((n : ℤ) : ℚ) := by
    rw [abs_of_nonneg (NNRat.cast_nonneg _)]
    push_cast
    ring
  rw [Lib.hundredths, hq, roundEven_intCast]
  rfl

theorem not_isDigit_of_isSpace {c : Char} (hc : isSpace c = true) : c.isDigit = false := by
  by_contra hdigit
  rw [Bool.not_eq_false] at hdigit
  rw [isSpace_of_isDigit hdigit] at hc
  cases hc

theorem toLower_of_lt {c : Char} (hc : c.toNat < 65) : c.toLower = c := by
  refine dif_neg ?_
  rintro ⟨hlo, -⟩
  have hnat : 65 ≤ c.toNat := hlo
  omega

theorem toNat_lt_of_isSpace {c : Char} (hc : isSpace c = true) : c.toNat < 65 := by
  rw [isSpace, Bool.or_eq_true, decide_eq_true_eq, Bool.and_eq_true, decide_eq_true_eq,
    decide_eq_true_eq] at hc
  rcases hc with rfl | ⟨-, hc⟩
  · decide
  · have hhi : c.toNat ≤ 13 := hc
    omega

theorem toNat_lt_of_mem {q : ℚ} {c : Char} (h : c ∈ Lib.fixed2 q) : c.toNat < 65 := by
  rcases mem_fixed2 h with h | rfl | rfl
  · rw [Char.isDigit, Bool.and_eq_true, decide_eq_true_eq, decide_eq_true_eq] at h
    have hhi : c.toNat ≤ 57 := h.2
    omega
  · decide
  · decide

/-- Behind a number nothing is read if a blank follows. -/
theorem takeWhile_isDigit_append {s rest : List Char} (hs : ∀ c ∈ s, c.isDigit = true)
    (hrest : ∀ c ∈ rest.head?, c.isDigit = false) :
    (s ++ rest).takeWhile Char.isDigit = s ∧ (s ++ rest).dropWhile Char.isDigit = rest := by
  rw [List.takeWhile_append_of_pos hs, List.dropWhile_append_of_pos hs]
  cases rest with
  | nil => exact ⟨List.append_nil s, rfl⟩
  | cons c rest =>
    have hc : ¬ c.isDigit = true := by rw [hrest c rfl]; decide
    rw [List.takeWhile_cons_of_neg hc, List.dropWhile_cons_of_neg hc, List.append_nil]
    exact ⟨rfl, rfl⟩

theorem exponentOf_of_isSpace {rest : List Char} (hrest : ∀ c ∈ rest, isSpace c = true) :
    exponentOf (fun c => c.toLower = 'e') rest = 0 := by
  cases rest with
  | nil => rfl
  | cons c rest =>
    have hspace := hrest c List.mem_cons_self
    have hc : ¬ c.toLower = 'e' := by
      intro he
      rw [toLower_of_lt (toNat_lt_of_isSpace hspace)] at he
      rw [he] at hspace
      exact absurd hspace (by decide)
    rw [exponentOf, if_neg (by rw [decide_eq_true_eq]; exact hc)]

theorem magnitudeOf_fixed2 (q : ℚ≥0) {rest : List Char} (hrest : ∀ c ∈ rest, isSpace c = true) :
    magnitudeOf 10 10 Char.isDigit (fun c => c.toLower = 'e') (Lib.fixed2 q ++ rest) =
      (Lib.hundredths q / 100 : ℚ≥0) := by
  have hpos : ¬ (q : ℚ) < 0 := not_lt.mpr (NNRat.cast_nonneg q)
  generalize hn : Lib.hundredths q = n
  have htext : Lib.fixed2 q ++ rest = decimal (n / 100) ++
      '.' :: ([Nat.digitChar (n / 10 % 10), Nat.digitChar (n % 10)] ++ rest) := by
    rw [Lib.fixed2, if_neg hpos, hn]
    simp
  have hdigits : ∀ c ∈ [Nat.digitChar (n / 10 % 10), Nat.digitChar (n % 10)],
      c.isDigit = true := by
    rw [List.forall_mem_cons, List.forall_mem_singleton]
    exact ⟨isDigit_digitChar (Nat.mod_lt _ (by decide)),
      isDigit_digitChar (Nat.mod_lt _ (by decide))⟩
  have hblank : ∀ c ∈ rest.head?, c.isDigit = false := fun c hc =>
    not_isDigit_of_isSpace (hrest c (List.mem_of_mem_head? hc))
  have hpoint : ∀ c ∈ ('.' :: ([Nat.digitChar (n / 10 % 10), Nat.digitChar (n % 10)] ++
      rest)).head?, c.isDigit = false := by
    intro c hc
    cases hc
    rfl
  obtain ⟨hwhole, hbehind⟩ :=
    takeWhile_isDigit_append (s := decimal (n / 100)) (fun c => mem_decimal) hpoint
  obtain ⟨hfraction, hrest'⟩ := takeWhile_isDigit_append hdigits hblank
  have hnat : natOf 10 (decimal (n / 100) ++
      [Nat.digitChar (n / 10 % 10), Nat.digitChar (n % 10)]) = n := by
    rw [natOf_append, natOf_decimal]
    simp only [List.foldl_cons, List.foldl_nil, digitVal_digitChar (Nat.mod_lt _ (by decide))]
    omega
  rw [magnitudeOf, htext]
  simp only [hwhole, hbehind, hfraction, hrest', exponentOf_of_isSpace hrest, hnat]
  norm_num

/-- **`%.2f` is read back** as the nearest hundredth. -/
theorem atof_fixed2 (negative : Bool) (q : ℚ≥0) {rest : List Char}
    (hrest : ∀ c ∈ rest, isSpace c = true) :
    atof (' ' :: ((Number.finite negative q).fixed2 ++ rest)) =
      .hundredths negative (Lib.hundredths q) := by
  obtain ⟨c, s, hc, hs⟩ := exists_fixed2_eq_cons q
  have hskip : (' ' :: ((Number.finite negative q).fixed2 ++ rest)).dropWhile isSpace =
      sign negative ++ c :: (s ++ rest) := by
    rw [List.dropWhile_cons_of_pos rfl, Number.fixed2, hs, List.append_assoc]
    exact dropWhile_isSpace_sign negative hc
  have hchars : ∀ d ∈ c :: (s ++ rest), d.toNat < 65 := by
    rw [← List.cons_append, ← hs]
    intro d hd
    rcases List.mem_append.mp hd with hd | hd
    · exact toNat_lt_of_mem hd
    · exact toNat_lt_of_isSpace (hrest d hd)
  have hlower : (c :: (s ++ rest)).map Char.toLower = c :: (s ++ rest) :=
    (List.map_congr_left fun d hd => toLower_of_lt (hchars d hd)).trans (List.map_id _)
  -- No word is made of such characters.
  have hword : ∀ (w : List Char) (d : Char), d ∈ w → 65 ≤ d.toNat →
      ¬ w <+: c :: (s ++ rest) := by
    intro w d hd hbig hw
    exact absurd (hchars d (hw.subset hd)) (Nat.not_lt.mpr hbig)
  rw [atof, hskip, unsign_sign negative hc, unsigned]
  simp only [hlower, if_neg (hword "inf".toList 'i' (by decide) (by decide)),
    if_neg (hword "nan".toList 'n' (by decide) (by decide)),
    if_neg (hword "0x".toList 'x' (by decide) (by decide))]
  rw [← List.cons_append, ← hs, magnitudeOf_fixed2 q hrest]
  rfl

theorem atof_hundredths (negative : Bool) (n : ℕ) {rest : List Char}
    (hrest : ∀ c ∈ rest, isSpace c = true) :
    atof (' ' :: ((Number.hundredths negative n).fixed2 ++ rest)) = .hundredths negative n := by
  rw [Number.hundredths, atof_fixed2 negative _ hrest, hundredths_natCast_div]
  rfl

end Lib
