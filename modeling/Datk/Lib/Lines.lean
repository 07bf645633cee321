import Mathlib.Data.List.TakeWhile
import Mathlib.Tactic.Common

/-!
# Lines and fields of a file

`getLine` is what `fgets` takes off a file: at most `n` characters, up to a line end.
`lines` is what it takes off the file one after the other; a line that is too long comes
in pieces.  `lines_append` is the rule for a file that is printed line by line.

`fields` are the parts of a line between separators, less the empty ones.  `induction_on_sep`
is the induction that goes with them.
-/

namespace Lib

variable {α : Type*} [DecidableEq α]

/-! ### Lines -/

/-- What is taken, and what is left. -/
def getLine (nl : α) : ℕ → List α → List α × List α
  | 0, s => ([], s)
  | _ + 1, [] => ([], [])
  | n + 1, c :: s =>
    if c = nl then ([c], s) else (c :: (getLine nl n s).1, (getLine nl n s).2)

theorem getLine_append (nl : α) (n : ℕ) (s : List α) :
    (getLine nl n s).1 ++ (getLine nl n s).2 = s := by
  induction n generalizing s with
  | zero => rfl
  | succ n ih =>
    cases s with
    | nil => rfl
    | cons c s =>
      rw [getLine]
      by_cases hc : c = nl
      · rw [if_pos hc]
        rfl
      · rw [if_neg hc, List.cons_append, ih]

theorem length_getLine_lt (nl : α) (n : ℕ) (c : α) (s : List α) :
    (getLine nl (n + 1) (c :: s)).2.length < (c :: s).length := by
  rw [getLine]
  by_cases hc : c = nl
  · rw [if_pos hc]
    exact Nat.lt_succ_self _
  · have hlen := congrArg List.length (getLine_append nl n s)
    rw [List.length_append] at hlen
    rw [if_neg hc, List.length_cons]
    show (getLine nl n s).2.length < _
    omega

/-- The lines of a file, in pieces of at most `n + 1` characters. -/
def lines (nl : α) (n : ℕ) : List α → List (List α)
  | [] => []
  | c :: s => (getLine nl (n + 1) (c :: s)).1 :: lines nl n (getLine nl (n + 1) (c :: s)).2
  termination_by s => s.length
  decreasing_by exact length_getLine_lt nl n c s

variable {nl : α} {n : ℕ}

@[simp] theorem lines_nil : lines nl n [] = [] := by rw [lines]

theorem getLine_line {l : List α} (hl : nl ∉ l) (hlen : l.length < n) (rest : List α) :
    getLine nl n (l ++ nl :: rest) = (l ++ [nl], rest) := by
  induction l generalizing n with
  | nil =>
    obtain ⟨n, rfl⟩ := Nat.exists_eq_succ_of_ne_zero (Nat.ne_of_gt hlen)
    rw [List.nil_append, getLine, if_pos rfl]
    rfl
  | cons c l ih =>
    obtain ⟨n, rfl⟩ := Nat.exists_eq_succ_of_ne_zero (Nat.ne_of_gt (Nat.zero_lt_of_lt hlen))
    rw [List.mem_cons, not_or] at hl
    rw [List.length_cons] at hlen
    rw [List.cons_append, getLine, if_neg (Ne.symm hl.1), ih hl.2 (by omega)]
    rfl

/-- **A line of a file**, if it is short enough. -/
theorem lines_append {l : List α} (hl : nl ∉ l) (hlen : l.length ≤ n) (rest : List α) :
    lines nl n (l ++ nl :: rest) = (l ++ [nl]) :: lines nl n rest := by
  have hget := getLine_line hl (Nat.lt_succ_of_le hlen) rest
  cases l with
  | nil =>
    rw [List.nil_append] at hget ⊢
    rw [lines, hget]
  | cons c l =>
    rw [List.cons_append] at hget ⊢
    rw [lines, hget]

/-- What is behind the last line end. -/
theorem lines_last {l : List α} (hl : nl ∉ l) (hne : l ≠ []) (hlen : l.length ≤ n) :
    lines nl n l = [l] := by
  have hget : ∀ (k : ℕ) (s : List α), nl ∉ s → s.length ≤ k → getLine nl k s = (s, []) := by
    intro k
    induction k with
    | zero =>
      intro s _ hs
      rw [List.eq_nil_of_length_eq_zero (Nat.le_zero.mp hs), getLine]
    | succ k ih =>
      intro s hnl hs
      cases s with
      | nil => rfl
      | cons c s =>
        rw [List.mem_cons, not_or] at hnl
        rw [getLine, if_neg (Ne.symm hnl.1), ih s hnl.2 (Nat.le_of_succ_le_succ hs)]
  cases l with
  | nil => exact absurd rfl hne
  | cons c s => rw [lines, hget _ _ hl (Nat.le_succ_of_le hlen), lines_nil]

/-- **The lines of a file that was printed line by line.** -/
theorem lines_flatten {ls : List (List α)} (hls : ∀ l ∈ ls, nl ∉ l ∧ l.length ≤ n) :
    lines nl n (ls.map (· ++ [nl])).flatten = ls.map (· ++ [nl]) := by
  induction ls with
  | nil => exact lines_nil
  | cons l ls ih =>
    obtain ⟨hl, hls⟩ := List.forall_mem_cons.mp hls
    rw [List.map_cons, List.flatten_cons, List.append_assoc, List.singleton_append,
      lines_append hl.1 hl.2, ih hls]

/-- What is taken of a line that is longer. -/
theorem getLine_of_le {l : List α} (hl : nl ∉ l) (hlen : n ≤ l.length) (rest : List α) :
    getLine nl n (l ++ rest) = (l.take n, l.drop n ++ rest) := by
  induction n generalizing l with
  | zero => rfl
  | succ n ih =>
    cases l with
    | nil => exact absurd hlen (Nat.not_succ_le_zero n)
    | cons c l =>
      rw [List.mem_cons, not_or] at hl
      rw [List.cons_append, getLine, if_neg (Ne.symm hl.1),
        ih hl.2 (Nat.le_of_succ_le_succ hlen)]
      rfl

/-- **A line end parts the file**, whatever the length of the line. -/
theorem lines_append_line {l : List α} (hl : nl ∉ l) (rest : List α) :
    lines nl n (l ++ nl :: rest) = lines nl n (l ++ [nl]) ++ lines nl n rest := by
  induction hlength : l.length using Nat.strong_induction_on generalizing l with
  | _ k ih =>
  by_cases hlen : l.length ≤ n
  · rw [lines_append hl hlen, lines_append hl hlen, lines_nil]
    rfl
  · cases l with
    | nil => exact absurd (Nat.zero_le n) hlen
    | cons c l =>
      have hpiece : ∀ s, lines nl n (c :: l ++ s) =
          (c :: l).take (n + 1) :: lines nl n ((c :: l).drop (n + 1) ++ s) := by
        intro s
        rw [List.cons_append, lines, ← List.cons_append, getLine_of_le hl (by omega)]
      have hdrop : nl ∉ (c :: l).drop (n + 1) := fun h => hl (List.mem_of_mem_drop h)
      have hrest := ih ((c :: l).drop (n + 1)).length
        (by rw [List.length_drop]; omega) hdrop rfl
      rw [hpiece, hpiece, hrest]
      rfl

theorem flatten_lines (s : List α) : (lines nl n s).flatten = s := by
  induction hlen : s.length using Nat.strong_induction_on generalizing s with
  | _ k ih =>
  cases s with
  | nil => rw [lines_nil]; rfl
  | cons c s =>
    have hlt := length_getLine_lt nl n c s
    rw [lines, List.flatten_cons, ih _ (hlen ▸ hlt) _ rfl, getLine_append]

/-- A piece of a file that was printed line by line is a piece of one of the lines. -/
theorem infix_of_mem_lines {ls : List (List α)} (hls : ∀ l ∈ ls, nl ∉ l) {p : List α}
    (hp : p ∈ lines nl n (ls.map (· ++ [nl])).flatten) : ∃ l ∈ ls, p <:+: l ++ [nl] := by
  induction ls with
  | nil =>
    rw [List.map_nil, List.flatten_nil, lines_nil] at hp
    cases hp
  | cons l ls ih =>
    obtain ⟨hl, hls⟩ := List.forall_mem_cons.mp hls
    rw [List.map_cons, List.flatten_cons, List.append_assoc, List.singleton_append,
      lines_append_line hl] at hp
    rcases List.mem_append.mp hp with hp | hp
    · have hinfix := List.infix_of_mem_flatten hp
      rw [flatten_lines] at hinfix
      exact ⟨l, List.mem_cons_self, hinfix⟩
    · obtain ⟨l', hl', hinfix⟩ := ih hls hp
      exact ⟨l', List.mem_cons_of_mem l hl', hinfix⟩

/-! ### Fields -/

/-- The parts of `s` between separators, without those that are empty. -/
def fields (sep : α) (s : List α) : List (List α) := (s.splitOn sep).filter (· ≠ [])

variable {sep : α}

@[simp] theorem fields_nil : fields sep [] = [] := by simp [fields]

/-- **A separator parts the fields.** -/
theorem fields_append_sep (s rest : List α) :
    fields sep (s ++ sep :: rest) = fields sep s ++ fields sep rest := by
  rw [fields, List.splitOn_eq_splitOnP,
    List.splitOnP_append_cons (p := (· == sep)) s rest (beq_self_eq_true sep),
    ← List.splitOn_eq_splitOnP, ← List.splitOn_eq_splitOnP, List.filter_append]
  rfl

theorem fields_of_notMem {t : List α} (ht : sep ∉ t) (hne : t ≠ []) : fields sep t = [t] := by
  have hmem : ∀ c ∈ t, (c == sep) = false := by
    intro c hc
    exact beq_eq_false_iff_ne.mpr fun heq => ht (heq ▸ hc)
  rw [fields, List.splitOn_eq_splitOnP, List.splitOnP_eq_singleton hmem]
  simp [hne]

/-- A field that is followed by a separator. -/
theorem fields_append {t : List α} (ht : sep ∉ t) (hne : t ≠ []) (rest : List α) :
    fields sep (t ++ sep :: rest) = t :: fields sep rest := by
  rw [fields_append_sep, fields_of_notMem ht hne]
  rfl

theorem fields_cons_sep (s : List α) : fields sep (sep :: s) = fields sep s := by
  have h : fields sep ([] ++ sep :: s) = _ := fields_append_sep [] s
  rw [fields_nil] at h
  exact h

theorem fields_dropWhile (s : List α) : fields sep (s.dropWhile (· = sep)) = fields sep s := by
  induction s with
  | nil => rfl
  | cons c s ih =>
    rw [List.dropWhile_cons]
    by_cases hc : c = sep
    · rw [if_pos (decide_eq_true hc), ih, hc, fields_cons_sep]
    · rw [if_neg (by simpa using hc)]

/-- A list is one part without separator, or such a part before a separator and a list. -/
theorem induction_on_sep (sep : α) {p : List α → Prop} (hlast : ∀ t, sep ∉ t → p t)
    (hsep : ∀ t rest, sep ∉ t → p rest → p (t ++ sep :: rest)) (s : List α) : p s := by
  induction hlen : s.length using Nat.strong_induction_on generalizing s with
  | _ n ih =>
  by_cases hmem : sep ∈ s
  · obtain ⟨t, rest, rfl, ht⟩ := List.eq_append_cons_of_mem hmem
    rw [List.length_append, List.length_cons] at hlen
    exact hsep t rest ht (ih rest.length (by omega) rest rfl)
  · exact hlast s hmem

/-- A part without separator is one field, unless it is empty. -/
theorem fields_part {t : List α} (ht : sep ∉ t) :
    t = [] ∧ fields sep t = [] ∨ t ≠ [] ∧ fields sep t = [t] := by
  by_cases hnil : t = []
  · exact .inl ⟨hnil, by rw [hnil, fields_nil]⟩
  · exact .inr ⟨hnil, fields_of_notMem ht hnil⟩

/-- There are at most as many fields as separators, and one. -/
theorem length_fields_le (s : List α) : (fields sep s).length ≤ s.count sep + 1 := by
  have hpart : ∀ t, sep ∉ t → (fields sep t).length ≤ 1 := by
    intro t ht
    rcases fields_part ht with ⟨-, h⟩ | ⟨-, h⟩
    · rw [h]
      exact Nat.zero_le _
    · rw [h]
      exact Nat.le_refl _
  induction s using induction_on_sep sep with
  | hlast t ht => exact (hpart t ht).trans (Nat.le_add_left _ _)
  | hsep t rest ht ih =>
    have hone := hpart t ht
    rw [fields_append_sep, List.length_append, List.count_append, List.count_cons_self]
    omega

/-- **The second field of a piece.**  A piece of a line that has as many fields as the line
has all its separators, so that its second field is that of the line. -/
theorem getElem?_fields_of_infix {a b c p : List α} (ha : sep ∉ a) (hb : sep ∉ b) (hne : b ≠ [])
    (hc : sep ∈ c) (hp : p <:+: a ++ sep :: (b ++ sep :: c))
    (hmany : c.count sep + 3 ≤ (fields sep p).length) : (fields sep p)[1]? = some b := by
  obtain ⟨u, v, huv⟩ := hp
  have hcount := congrArg (List.count sep) huv
  have hle : (fields sep p).length ≤ _ := length_fields_le p
  simp only [List.count_append, List.count_cons_self, List.count_eq_zero_of_not_mem ha,
    List.count_eq_zero_of_not_mem hb] at hcount
  have hu : sep ∉ u := List.count_eq_zero.mp (by omega)
  have hv : sep ∉ v := List.count_eq_zero.mp (by omega)
  -- What the piece has of the first field.
  have hfirst : ∃ t, sep ∉ t ∧ p ++ v = t ++ sep :: (b ++ sep :: c) := by
    rw [List.append_assoc] at huv
    rcases List.append_eq_append_iff.mp huv with ⟨t, rfl, ht⟩ | ⟨t, rfl, ht⟩
    · exact ⟨t, fun h => ha (List.mem_append_right u h), ht⟩
    · cases t with
      | nil => exact ⟨[], List.not_mem_nil, ht.symm⟩
      | cons d t =>
        obtain ⟨rfl, -⟩ := List.cons.inj ht
        exact absurd (List.mem_append_right a List.mem_cons_self) hu
  obtain ⟨t, ht, hpv⟩ := hfirst
  have hsplit : t ++ sep :: (b ++ sep :: c) = (t ++ sep :: (b ++ [sep])) ++ c := by simp
  rw [hsplit] at hpv
  rcases List.append_eq_append_iff.mp hpv with ⟨r, -, rfl⟩ | ⟨r, rfl, rfl⟩
  · exact absurd (List.mem_append_right r hc) hv
  · have hr : (fields sep r).length ≤ _ := length_fields_le r
    have hfields : fields sep (t ++ sep :: (b ++ [sep]) ++ r) =
        fields sep t ++ b :: fields sep r := by
      rw [List.append_assoc, List.cons_append, fields_append_sep, List.append_assoc,
        List.singleton_append, fields_append hb hne]
    rw [List.count_append] at hmany
    rw [hfields, List.length_append, List.length_cons] at hmany
    rw [hfields]
    rcases fields_part ht with ⟨-, h⟩ | ⟨-, h⟩
    · rw [h, List.length_nil] at hmany
      omega
    · rw [h]
      rfl

/-- **The fields keep every other character.** -/
theorem fields_flatten (s : List α) : (fields sep s).flatten = s.filter (· ≠ sep) := by
  have hpart : ∀ t, sep ∉ t → (fields sep t).flatten = t.filter (· ≠ sep) := by
    intro t ht
    have hall : t.filter (· ≠ sep) = t := by
      rw [List.filter_eq_self]
      intro c hc
      exact decide_eq_true fun heq => ht (heq ▸ hc)
    rcases fields_part ht with ⟨hnil, h⟩ | ⟨-, h⟩
    · rw [h, hnil]
      rfl
    · rw [h, hall, List.flatten_singleton]
  induction s using induction_on_sep sep with
  | hlast t ht => exact hpart t ht
  | hsep t rest ht ih =>
    rw [fields_append_sep, List.flatten_append, hpart t ht, ih, List.filter_append]
    simp

theorem fields_ne_nil {s : List α} {c : α} (hmem : c ∈ s) (hc : c ≠ sep) : fields sep s ≠ [] := by
  intro hnil
  have hflat : (fields sep s).flatten = _ := fields_flatten s
  rw [hnil, List.flatten_nil] at hflat
  have hin : c ∈ s.filter (· ≠ sep) := List.mem_filter.mpr ⟨hmem, decide_eq_true hc⟩
  rw [← hflat] at hin
  cases hin

end Lib
