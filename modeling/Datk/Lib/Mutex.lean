import Datk.Basic

/-!
# Tasks whose calls hold a mutex

A `Caller` is a task at a program counter.  A call that needs a mutex is two steps:
taking the mutex, if it is free, and completing the call, which gives it back.  A
caller that is suspended keeps the mutex it holds.
-/

namespace Lib

structure Caller (P L : Type) where
  pc : P
  held : Option L
  suspended : Bool
  deriving DecidableEq, Repr

namespace Caller

variable {P L : Type} [DecidableEq L] {lock : P → Option L} {free : L → Bool}
  {next : P → Option P} {c c' : Caller P L}

/-- A step of `c`, whose statement at `p` needs the mutex `lock p` and is followed
by `next p`. -/
def step (lock : P → Option L) (free : L → Bool) (next : P → Option P) (c : Caller P L) :
    Option (Caller P L) :=
  if (lock c.pc).isNone ∨ c.held = lock c.pc then
    (next c.pc).map fun p => { c with pc := p, held := none }
  else if (lock c.pc).any free then some { c with held := lock c.pc } else none

/-- What is held belongs to the call under way. -/
def Holds (lock : P → Option L) (c : Caller P L) : Prop := ∀ l, c.held = some l → lock c.pc = some l

/-- It needs a mutex that it does not hold yet. -/
def Waits (lock : P → Option L) (c : Caller P L) (l : L) : Prop :=
  lock c.pc = some l ∧ c.held = none

/-- **What a step can do**: complete the statement, holding nothing after it, or
take a free mutex. -/
theorem step_cases (hs : step lock free next c = some c') :
    (∃ p, next c.pc = some p ∧ c' = { c with pc := p, held := none }) ∨
    ∃ l, lock c.pc = some l ∧ free l = true ∧ c' = { c with held := some l } := by
  unfold step at hs
  split at hs
  · obtain ⟨p, hp, rfl⟩ := Option.map_eq_some_iff.mp hs
    exact .inl ⟨p, hp, rfl⟩
  · split at hs
    · rename_i hany
      cases hl : lock c.pc with
      | none => simp [hl] at hany
      | some l =>
        rw [hl] at hs hany
        exact .inr ⟨l, rfl, hany, (Option.some.inj hs).symm⟩
    · exact absurd hs (by simp)

theorem Holds.step (hs : Caller.step lock free next c = some c') : Holds lock c' := by
  intro l hl
  rcases step_cases hs with ⟨p, -, rfl⟩ | ⟨l', hl', -, rfl⟩
  · cases hl
  · cases hl
    exact hl'

theorem suspended_step (hs : step lock free next c = some c') : c'.suspended = c.suspended := by
  rcases step_cases hs with ⟨p, -, rfl⟩ | ⟨l, -, -, rfl⟩
  · rfl
  · rfl

end Caller

end Lib
