import Mathlib.Tactic.Common

/-!
# Devices that answer calls

A device is a function that takes a state and a call to an answer and the next state;
`answers` makes it one of lists of calls.  A device simulates another one if related
states answer alike and stay related, for the calls that meet a condition.  Simulations
compose, so that a device is related to its purpose level by level.

`Throughout` is about what a call does inside: a list of small steps, between any two of
which it may be cut off.
-/

namespace Lib

variable {σ τ υ ι ω : Type*} {f : σ → ι → ω × σ} {g : τ → ι → ω × τ} {h : υ → ι → ω × υ}
  {R : σ → τ → Prop} {Q : τ → υ → Prop} {ok ok' : ι → Prop}

/-- What a list of calls is answered, and the state after it. -/
def answers (f : σ → ι → ω × σ) (s : σ) : List ι → List ω × σ
  | [] => ([], s)
  | i :: is => ((f s i).1 :: (answers f (f s i).2 is).1, (answers f (f s i).2 is).2)

/-- Related states answer alike, and stay related. -/
def Simulates (R : σ → τ → Prop) (ok : ι → Prop) (f : σ → ι → ω × σ) (g : τ → ι → ω × τ) :
    Prop :=
  ∀ s t i, R s t → ok i → (f s i).1 = (g t i).1 ∧ R (f s i).2 (g t i).2

namespace Simulates

/-- **A simulation holds of any list of calls.** -/
theorem answers (hsim : Simulates R ok f g) {s : σ} {t : τ} (hR : R s t) {is : List ι}
    (hok : ∀ i ∈ is, ok i) :
    (Lib.answers f s is).1 = (Lib.answers g t is).1 ∧
      R (Lib.answers f s is).2 (Lib.answers g t is).2 := by
  induction is generalizing s t with
  | nil => exact ⟨rfl, hR⟩
  | cons i is ih =>
    rw [List.forall_mem_cons] at hok
    obtain ⟨hanswer, hnext⟩ := hsim s t i hR hok.1
    obtain ⟨hanswers, hlast⟩ := ih hnext hok.2
    exact ⟨congrArg₂ List.cons hanswer hanswers, hlast⟩

/-- **Simulations compose.** -/
theorem trans (hf : Simulates R ok f g) (hg : Simulates Q ok' g h) :
    Simulates (fun s u => ∃ t, R s t ∧ Q t u) (fun i => ok i ∧ ok' i) f h := by
  rintro s u i ⟨t, hR, hQ⟩ ⟨hok, hok'⟩
  obtain ⟨hanswer, hnext⟩ := hf s t i hR hok
  obtain ⟨hanswer', hnext'⟩ := hg t u i hQ hok'
  exact ⟨hanswer.trans hanswer', _, hnext, hnext'⟩

end Simulates

/-! ### Between the steps -/

section

variable {α : Type*} {step : σ → α → σ} {p q : σ → Prop} {s : σ} {a : α} {as bs : List α}

/-- `p` holds before the first step, after the last, and between any two. -/
def Throughout (step : σ → α → σ) (p : σ → Prop) (s : σ) : List α → Prop
  | [] => p s
  | a :: as => p s ∧ Throughout step p (step s a) as

namespace Throughout

theorem head (h : Throughout step p s as) : p s := by
  cases as with
  | nil => exact h
  | cons a as => exact h.1

theorem last (h : Throughout step p s as) : p (as.foldl step s) := by
  induction as generalizing s with
  | nil => exact h
  | cons a as ih => exact ih h.2

theorem imp (hpq : ∀ s, p s → q s) (h : Throughout step p s as) : Throughout step q s as := by
  induction as generalizing s with
  | nil => exact hpq s h
  | cons a as ih => exact ⟨hpq s h.1, ih h.2⟩

theorem append (has : Throughout step p s as) (hbs : Throughout step p (as.foldl step s) bs) :
    Throughout step p s (as ++ bs) := by
  induction as generalizing s with
  | nil => exact hbs
  | cons a as ih => exact ⟨has.1, ih has.2 hbs⟩

/-- **Wherever the steps are cut off.** -/
theorem take (h : Throughout step p s as) (n : Nat) : p ((as.take n).foldl step s) := by
  induction n generalizing s as with
  | zero => exact h.head
  | succ n ih =>
    cases as with
    | nil => exact h
    | cons a as => exact ih h.2

end Throughout

end

end Lib
