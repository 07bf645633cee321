import Mathlib.Data.List.TakeWhile

/-!
# Fixed arrays and the strings in them

A `Buffer α n` is an array of `n` cells.  Every store goes through `write`, which
is `none` where it would go past the last cell.  With a terminator `nul` a buffer
holds a string, its `text`: the cells before the first `nul`, or `none` if there
is no `nul` in it.  The functions of `string.h` are stores of this kind.

`text_strcats` computes a sequence of `strcat`s: it stays in the buffer exactly
if what it builds leaves room for the terminator.
-/

namespace Lib

structure Buffer (α : Type*) (n : Nat) where
  cells : List α
  size : cells.length = n
  deriving DecidableEq

namespace Buffer

variable {α : Type*} {n : Nat}

def fill (n : Nat) (a : α) : Buffer α n := ⟨List.replicate n a, List.length_replicate⟩

/-- Store `xs` from cell `k` on. -/
def write (b : Buffer α n) (k : Nat) (xs : List α) : Option (Buffer α n) :=
  if h : k + xs.length ≤ n then
    some ⟨b.cells.take k ++ xs ++ b.cells.drop (k + xs.length), by
      have := b.size
      simp only [List.length_append, List.length_take, List.length_drop]
      omega⟩
  else none

theorem write_of_le (b : Buffer α n) {k : Nat} {xs : List α} (h : k + xs.length ≤ n) :
    ∃ b', b.write k xs = some b' ∧
      b'.cells = b.cells.take k ++ xs ++ b.cells.drop (k + xs.length) :=
  ⟨_, dif_pos h, rfl⟩

theorem write_of_lt {b : Buffer α n} {k : Nat} {xs : List α} (h : n < k + xs.length) :
    b.write k xs = none :=
  dif_neg (Nat.not_le_of_lt h)

/-- Two stores of which the second goes on from cell `k` of the first, and covers the
rest of it. -/
theorem write_bind_write (b : Buffer α n) (p : Nat) {k : Nat} {xs ys : List α}
    (hk : k ≤ xs.length) (hlen : xs.length ≤ k + ys.length) :
    ((b.write p xs).bind fun b₁ => b₁.write (p + k) ys) = b.write p (xs.take k ++ ys) := by
  have htake : (xs.take k ++ ys).length = k + ys.length := by
    rw [List.length_append, List.length_take, Nat.min_eq_left hk]
  by_cases h : p + (k + ys.length) ≤ n
  · have h₁ : p + xs.length ≤ n := by omega
    have h₂ : p + k + ys.length ≤ n := by omega
    have h₃ : p + (xs.take k ++ ys).length ≤ n := by omega
    have hp : p = (b.cells.take p).length := by
      rw [List.length_take, b.size]
      omega
    obtain ⟨b₁, hb₁, hcells₁⟩ := b.write_of_le h₁
    obtain ⟨b₂, hb₂, hcells₂⟩ := b₁.write_of_le h₂
    obtain ⟨b₃, hb₃, hcells₃⟩ := b.write_of_le h₃
    rw [hb₁, Option.bind_some, hb₂, hb₃, Option.some.injEq]
    suffices hcells : b₂.cells = b₃.cells by
      cases b₂
      cases b₃
      congr
    have htaken : b₁.cells.take (p + k) = b.cells.take p ++ xs.take k := by
      have hidx : p + k = (b.cells.take p).length + k := by rw [← hp]
      rw [hcells₁, List.append_assoc, hidx, List.take_length_add_append,
        List.take_append_of_le_length hk]
    have hdropped : b₁.cells.drop (p + k + ys.length) = b.cells.drop (p + (k + ys.length)) := by
      have hidx : p + k + ys.length =
          (b.cells.take p ++ xs).length + (k + ys.length - xs.length) := by
        rw [List.length_append, ← hp]
        omega
      rw [hcells₁, hidx, List.drop_length_add_append, List.drop_drop]
      congr 1
      omega
    rw [hcells₂, hcells₃, htaken, hdropped, htake]
    simp only [List.append_assoc]
  · have hnone : b.write p (xs.take k ++ ys) = none := write_of_lt (by omega)
    rw [hnone]
    cases hb₁ : b.write p xs with
    | none => rfl
    | some b₁ => exact write_of_lt (by omega)

theorem write_append (b : Buffer α n) (p : Nat) (xs ys : List α) :
    ((b.write p xs).bind fun b₁ => b₁.write (p + xs.length) ys) = b.write p (xs ++ ys) := by
  rw [write_bind_write b p (Nat.le_refl xs.length) (Nat.le_add_right _ _), List.take_length]

theorem write_cons (b : Buffer α n) (p : Nat) (x : α) (ys : List α) :
    ((b.write p [x]).bind fun b₁ => b₁.write (p + 1) ys) = b.write p (x :: ys) :=
  b.write_append p [x] ys

/-! ### Loads -/

/-- Load `k` cells from cell `p` on. -/
def read (b : Buffer α n) (p k : Nat) : Option (List α) :=
  if p + k ≤ n then some ((b.cells.drop p).take k) else none

theorem read_of_le (b : Buffer α n) {p k : Nat} (h : p + k ≤ n) :
    b.read p k = some ((b.cells.drop p).take k) :=
  if_pos h

theorem le_of_read {b : Buffer α n} {p k : Nat} {xs : List α} (h : b.read p k = some xs) :
    p + k ≤ n := by
  by_contra hlt
  rw [read, if_neg hlt] at h
  cases h

theorem le_of_write {b b' : Buffer α n} {p : Nat} {xs : List α} (h : b.write p xs = some b') :
    p + xs.length ≤ n := by
  by_contra hlt
  rw [write_of_lt (Nat.lt_of_not_le hlt)] at h
  cases h

/-- What was stored is loaded. -/
theorem read_write {b b' : Buffer α n} {p : Nat} {xs : List α} (h : b.write p xs = some b') :
    b'.read p xs.length = some xs := by
  have hle := le_of_write h
  have hp : (b.cells.take p).length = p := by
    rw [List.length_take, b.size]
    omega
  obtain ⟨b₁, hb₁, hcells⟩ := b.write_of_le hle
  rw [h, Option.some.injEq] at hb₁
  subst hb₁
  rw [read_of_le _ hle, hcells, List.append_assoc, List.drop_left' hp, List.take_left]

/-! ### Strings -/

section

variable [DecidableEq α] (nul : α)

def text (b : Buffer α n) : Option (List α) :=
  if nul ∈ b.cells then some (b.cells.takeWhile (· ≠ nul)) else none

/-- `snprintf(b + k, size, "%s", s)`. -/
def snprintf (b : Buffer α n) (k size : Nat) (s : List α) : Option (Buffer α n) :=
  if size = 0 then some b else b.write k (s.take (size - 1) ++ [nul])

/-- `sprintf(b, "%s", s)`. -/
def sprintf (b : Buffer α n) (s : List α) : Option (Buffer α n) := b.write 0 (s ++ [nul])

def strcat (b : Buffer α n) (s : List α) : Option (Buffer α n) :=
  (b.text nul).bind fun t => b.write t.length (s ++ [nul])

/-- `strcat(b, s)` for each `s` in turn. -/
def strcats (b : Buffer α n) (ss : List (List α)) : Option (Buffer α n) :=
  ss.foldlM (strcat nul) b

/-- The `k` cells that `strncpy` stores: the string at `src`, cut off after `k`
cells or filled up with terminators. -/
def padded (src : List α) (k : Nat) : List α :=
  (src.takeWhile (· ≠ nul)).take k ++
    List.replicate (k - ((src.takeWhile (· ≠ nul)).take k).length) nul

def strncpy (b : Buffer α n) (src : List α) (k : Nat) : Option (Buffer α n) :=
  b.write 0 (padded nul src k)

theorem strcats_cons (b : Buffer α n) (s : List α) (ss : List (List α)) :
    b.strcats nul (s :: ss) = (b.strcat nul s).bind fun b' => b'.strcats nul ss :=
  List.foldlM_cons

theorem strcats_append (b : Buffer α n) (ss ss' : List (List α)) :
    b.strcats nul (ss ++ ss') = (b.strcats nul ss).bind fun b' => b'.strcats nul ss' :=
  List.foldlM_append

variable {nul}

theorem takeWhile_append_nul {t : List α} (h : nul ∉ t) (rest : List α) :
    (t ++ nul :: rest).takeWhile (· ≠ nul) = t := by
  induction t with
  | nil => simp
  | cons a t ih =>
    rw [List.mem_cons, not_or] at h
    rw [List.cons_append, List.takeWhile_cons, if_pos (by simpa using Ne.symm h.1), ih h.2]

theorem dropWhile_append_nul {t : List α} (h : nul ∉ t) (rest : List α) :
    (t ++ nul :: rest).dropWhile (· ≠ nul) = nul :: rest := by
  induction t with
  | nil => simp
  | cons a t ih =>
    rw [List.mem_cons, not_or] at h
    rw [List.cons_append, List.dropWhile_cons, if_pos (by simpa using Ne.symm h.1), ih h.2]

theorem takeWhile_of_notMem {t : List α} (h : nul ∉ t) : t.takeWhile (· ≠ nul) = t := by
  rw [List.takeWhile_eq_self_iff]
  intro a ha
  exact decide_eq_true fun hne => h (hne ▸ ha)

theorem text_eq_some_iff {b : Buffer α n} {t : List α} :
    b.text nul = some t ↔ nul ∉ t ∧ ∃ rest, b.cells = t ++ nul :: rest := by
  constructor
  · intro h
    rw [text] at h
    split at h
    · rename_i hmem
      obtain ⟨u, rest, hrest, hu⟩ := List.eq_append_cons_of_mem hmem
      rw [hrest, takeWhile_append_nul hu, Option.some.injEq] at h
      exact h ▸ ⟨hu, rest, hrest⟩
    · exact absurd h (by simp)
  · rintro ⟨ht, rest, hrest⟩
    rw [text, hrest, if_pos (by simp), takeWhile_append_nul ht]

/-- A string stored with its terminator, from cell `t.length` on. -/
theorem text_write {b : Buffer α n} {t s : List α} (hb : b.cells.take t.length = t)
    (ht : nul ∉ t) (hs : nul ∉ s) (h : (t ++ s).length < n) :
    ∃ b', b.write t.length (s ++ [nul]) = some b' ∧ b'.text nul = some (t ++ s) := by
  have hlen : t.length + (s ++ [nul]).length ≤ n := by
    rw [List.length_append] at h ⊢
    rw [List.length_singleton]
    omega
  obtain ⟨b', hb', hcells⟩ := write_of_le b hlen
  refine ⟨b', hb', text_eq_some_iff.mpr ⟨?_, b.cells.drop (t.length + (s ++ [nul]).length), ?_⟩⟩
  · rw [List.mem_append, not_or]
    exact ⟨ht, hs⟩
  · rw [hcells, hb]
    simp

theorem length_lt_of_text {b : Buffer α n} {t : List α} (h : b.text nul = some t) :
    t.length < n := by
  obtain ⟨-, rest, hrest⟩ := text_eq_some_iff.mp h
  have := b.size
  rw [hrest, List.length_append, List.length_cons] at this
  omega

theorem text_fill (h : 0 < n) : (fill n nul).text nul = some [] := by
  cases n with
  | zero => exact absurd h (Nat.lt_irrefl _)
  | succ n => exact text_eq_some_iff.mpr ⟨List.not_mem_nil, List.replicate n nul, rfl⟩

theorem text_sprintf {b : Buffer α n} {s : List α} (hs : nul ∉ s) (h : s.length < n) :
    ∃ b', b.sprintf nul s = some b' ∧ b'.text nul = some s := by
  exact text_write (t := []) rfl List.not_mem_nil hs h

theorem text_strcat {b : Buffer α n} {t s : List α} (hb : b.text nul = some t) (hs : nul ∉ s)
    (h : (t ++ s).length < n) : ∃ b', b.strcat nul s = some b' ∧ b'.text nul = some (t ++ s) := by
  obtain ⟨ht, rest, hrest⟩ := text_eq_some_iff.mp hb
  rw [strcat, hb, Option.bind_some]
  exact text_write (by rw [hrest, List.take_left]) ht hs h

/-- `snprintf` behind a string, with all the room that is left, cuts off what does not
fit. -/
theorem snprintf_bind_text {b : Buffer α n} {t s : List α} (hb : b.text nul = some t)
    (hs : nul ∉ s) :
    ((b.snprintf nul t.length (n - t.length) s).bind fun b₁ => b₁.text nul) =
      some ((t ++ s).take (n - 1)) := by
  have hlt := length_lt_of_text hb
  have htake : nul ∉ s.take (n - t.length - 1) := fun h => hs (List.mem_of_mem_take h)
  obtain ⟨b₁, hb₁, ht₁⟩ := text_strcat hb htake (by
    rw [List.length_append, List.length_take]
    omega)
  rw [strcat, hb, Option.bind_some] at hb₁
  have hrest : n - t.length - 1 = n - 1 - t.length := by omega
  rw [snprintf, if_neg (by omega), hb₁, Option.bind_some, ht₁, hrest, List.take_append,
    List.take_of_length_le (Nat.le_sub_one_of_lt hlt)]

theorem strcat_overflow {b : Buffer α n} {t s : List α} (hb : b.text nul = some t)
    (h : n ≤ (t ++ s).length) : b.strcat nul s = none := by
  rw [strcat, hb]
  exact write_of_lt (by rw [List.length_append] at h; simp; omega)

/-- **A sequence of `strcat`s** that fits, -/
theorem text_strcats {ss : List (List α)} {b : Buffer α n} {t : List α}
    (hb : b.text nul = some t) (hs : ∀ s ∈ ss, nul ∉ s) (h : (t ++ ss.flatten).length < n) :
    ∃ b', b.strcats nul ss = some b' ∧ b'.text nul = some (t ++ ss.flatten) := by
  induction ss generalizing b t with
  | nil => exact ⟨b, rfl, by simpa using hb⟩
  | cons s ss ih =>
    rw [List.flatten_cons, ← List.append_assoc] at h ⊢
    have hlt : (t ++ s).length < n := by
      rw [List.length_append] at h
      omega
    obtain ⟨b₁, hb₁, ht₁⟩ := text_strcat hb (hs s List.mem_cons_self) hlt
    obtain ⟨b', hb', ht'⟩ := ih ht₁ (fun x hx => hs x (List.mem_cons_of_mem _ hx)) h
    exact ⟨b', by rw [strcats, List.foldlM_cons, hb₁]; exact hb', ht'⟩

/-- and one that does not. -/
theorem strcats_overflow {ss : List (List α)} {b : Buffer α n} {t : List α}
    (hb : b.text nul = some t) (hs : ∀ s ∈ ss, nul ∉ s) (h : n ≤ (t ++ ss.flatten).length) :
    b.strcats nul ss = none := by
  induction ss generalizing b t with
  | nil =>
    have := length_lt_of_text hb
    simp at h
    omega
  | cons s ss ih =>
    rw [List.flatten_cons, ← List.append_assoc] at h
    rw [strcats, List.foldlM_cons]
    by_cases hlt : (t ++ s).length < n
    · obtain ⟨b₁, hb₁, ht₁⟩ := text_strcat hb (hs s List.mem_cons_self) hlt
      rw [hb₁]
      exact ih ht₁ (fun x hx => hs x (List.mem_cons_of_mem _ hx)) h
    · rw [strcat_overflow hb (by omega)]
      rfl

/-- What a sequence of `strcat`s leaves in the buffer. -/
theorem strcats_bind_text {ss : List (List α)} {b : Buffer α n} {t : List α}
    (hb : b.text nul = some t) (hs : ∀ s ∈ ss, nul ∉ s) :
    ((b.strcats nul ss).bind fun b' => b'.text nul) =
      if (t ++ ss.flatten).length < n then some (t ++ ss.flatten) else none := by
  split
  · rename_i hlt
    obtain ⟨b', hb', ht'⟩ := text_strcats hb hs hlt
    rw [hb', Option.bind_some, ht']
  · rename_i hle
    rw [strcats_overflow hb hs (Nat.le_of_not_lt hle), Option.bind_none]

theorem sprintf_bind_text {b : Buffer α n} {s : List α} (hs : nul ∉ s) :
    ((b.sprintf nul s).bind fun b' => b'.text nul) = if s.length < n then some s else none := by
  split
  · rename_i hlt
    obtain ⟨b', hb', ht'⟩ := text_sprintf (b := b) hs hlt
    rw [hb', Option.bind_some, ht']
  · rename_i hle
    rw [sprintf, write_of_lt (by simp; omega), Option.bind_none]

/-- A `sprintf` that is done, -/
theorem text_of_sprintf {b b' : Buffer α n} {s : List α} (hs : nul ∉ s)
    (h : b.sprintf nul s = some b') : b'.text nul = some s := by
  have hlen := le_of_write h
  rw [List.length_append, List.length_singleton] at hlen
  obtain ⟨b₁, hb₁, ht₁⟩ := text_sprintf (b := b) hs (show s.length < n by omega)
  rw [h, Option.some.injEq] at hb₁
  exact hb₁ ▸ ht₁

/-- and a sequence of `strcat`s that is done. -/
theorem text_of_strcats {ss : List (List α)} {b b' : Buffer α n} {t : List α}
    (hb : b.text nul = some t) (hs : ∀ s ∈ ss, nul ∉ s) (h : b.strcats nul ss = some b') :
    b'.text nul = some (t ++ ss.flatten) := by
  have htext := strcats_bind_text hb hs
  rw [h, Option.bind_some] at htext
  by_cases hlt : (t ++ ss.flatten).length < n
  · rw [htext, if_pos hlt]
  · rw [strcats_overflow hb hs (Nat.le_of_not_lt hlt)] at h
    cases h

/-- A string is loaded by its length. -/
theorem read_text {b : Buffer α n} {t : List α} (h : b.text nul = some t) :
    b.read 0 t.length = some t := by
  obtain ⟨-, rest, hrest⟩ := text_eq_some_iff.mp h
  rw [read_of_le _ (by rw [Nat.zero_add]; exact Nat.le_of_lt (length_lt_of_text h)),
    List.drop_zero, hrest, List.take_left]

theorem length_padded (src : List α) (k : Nat) : (padded nul src k).length = k := by
  have hle : ((src.takeWhile (· ≠ nul)).take k).length ≤ k := List.length_take_le _ _
  rw [padded, List.length_append, List.length_replicate, Nat.add_sub_cancel' hle]

/-- `strncpy` stores exactly `k` cells. -/
theorem strncpy_of_le {b : Buffer α n} {src : List α} {k : Nat} (h : k ≤ n) :
    ∃ b', b.strncpy nul src k = some b' := by
  have hlen : 0 + (padded nul src k).length ≤ n := by rwa [length_padded, Nat.zero_add]
  obtain ⟨b', hb', -⟩ := write_of_le b hlen
  exact ⟨b', hb'⟩

/-- `strncpy` of a string without its terminator leaves that string where a
terminator already stands behind it. -/
theorem text_strncpy {b : Buffer α n} {s : List α} (hs : nul ∉ s)
    (hnul : b.cells[s.length]? = some nul) :
    ∃ b', b.strncpy nul s s.length = some b' ∧ b'.text nul = some s := by
  obtain ⟨hlt, hget⟩ := List.getElem?_eq_some_iff.mp hnul
  have hpad : padded nul s s.length = s := by
    rw [padded, takeWhile_of_notMem hs, List.take_length, Nat.sub_self, List.replicate_zero,
      List.append_nil]
  have hlen : 0 + s.length ≤ n := by
    rw [Nat.zero_add, ← b.size]
    exact Nat.le_of_lt hlt
  obtain ⟨b', hb', hcells⟩ := write_of_le b hlen
  refine ⟨b', by rw [strncpy, hpad]; exact hb', text_eq_some_iff.mpr ⟨hs, ?_⟩⟩
  refine ⟨b.cells.drop (s.length + 1), ?_⟩
  rw [hcells, Nat.zero_add, List.take_zero, List.nil_append, List.drop_eq_getElem_cons hlt, hget]

end

end Buffer

end Lib
