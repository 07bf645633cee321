import Mathlib.Logic.Function.Basic

/-!
# Atomic registers

A history of writes to and reads of registers `κ` is one of atomic registers if its
operations can be replayed one after another, and each read then gets what its register
holds.  A program that takes several steps to write a value is shown to have atomic
registers by the history of the writes that it has finished.

`read_eq_latest` is what a reader may rely on, and `forall_read` is how what is known of
all that is written comes to be known of all that is read.
-/

namespace Lib

/-- An operation on a register, and the value. -/
inductive Access (κ v : Type*)
  | write (k : κ) (x : v)
  | read (k : κ) (x : v)
  deriving DecidableEq, Repr

namespace Access

variable {κ v : Type*} [DecidableEq κ] [DecidableEq v]

/-- The registers after the operations; `none` if a read does not fit. -/
def replay : (κ → v) → List (Access κ v) → Option (κ → v)
  | r, [] => some r
  | r, .write k x :: h => replay (Function.update r k x) h
  | r, .read k x :: h => if r k = x then replay r h else none

/-- What was written last. -/
def latest (r : κ → v) (k : κ) : List (Access κ v) → v
  | [] => r k
  | .write l x :: h => latest (Function.update r l x) k h
  | .read _ _ :: h => latest r k h

variable {r r' : κ → v}

theorem replay_append (h h' : List (Access κ v)) :
    replay r (h ++ h') = (replay r h).bind fun r => replay r h' := by
  induction h generalizing r with
  | nil => rfl
  | cons e h ih =>
    cases e with
    | write k x => exact ih
    | read k x =>
      rw [List.cons_append, replay, replay]
      split
      · exact ih
      · rfl

/-- A value is written, -/
theorem replay_write {h : List (Access κ v)} (hr : replay r h = some r') (k : κ) (x : v) :
    replay r (h ++ [.write k x]) = some (Function.update r' k x) := by
  rw [replay_append, hr]
  rfl

/-- and one is read. -/
theorem replay_read {h : List (Access κ v)} (hr : replay r h = some r') {k : κ} {x : v}
    (hx : r' k = x) : replay r (h ++ [.read k x]) = some r' := by
  rw [replay_append, hr, Option.bind_some, replay, if_pos hx, replay]

theorem replay_eq_latest {h : List (Access κ v)} (hr : replay r h = some r') (k : κ) :
    r' k = latest r k h := by
  induction h generalizing r with
  | nil =>
    cases hr
    rfl
  | cons e h ih =>
    cases e with
    | write l x => exact ih hr
    | read l x =>
      rw [replay] at hr
      split at hr
      · exact ih hr
      · cases hr

/-- **A reader gets what was written last.** -/
theorem read_eq_latest {h h' : List (Access κ v)} {k : κ} {x : v}
    (hr : replay r (h ++ .read k x :: h') = some r') : x = latest r k h := by
  rw [replay_append] at hr
  obtain ⟨r₁, hr₁, hr⟩ := Option.bind_eq_some_iff.mp hr
  rw [replay] at hr
  split at hr
  · rename_i hx
    rw [← hx, replay_eq_latest hr₁]
  · cases hr

/-- What holds of all that is written, and of what there was, holds of all that is read. -/
theorem forall_read {P : κ → v → Prop} {h : List (Access κ v)} (hr : replay r h = some r')
    (hinit : ∀ k, P k (r k)) (hwrite : ∀ k x, .write k x ∈ h → P k x) :
    ∀ k x, .read k x ∈ h → P k x := by
  induction h generalizing r with
  | nil =>
    intro k x hread
    cases hread
  | cons e h ih =>
    intro k x hread
    cases e with
    | write l y =>
      refine ih hr (fun m => ?_) (fun m z hz => hwrite m z (List.mem_cons_of_mem _ hz)) k x ?_
      · by_cases hm : m = l
        · subst hm
          rw [Function.update_self]
          exact hwrite m y List.mem_cons_self
        · rw [Function.update_of_ne hm]
          exact hinit m
      · exact (List.mem_cons.mp hread).resolve_left (by simp)
    | read l y =>
      rw [replay] at hr
      split at hr
      · rename_i hy
        rcases List.mem_cons.mp hread with heq | hread
        · cases heq
          rw [← hy]
          exact hinit k
        · exact ih hr hinit (fun m z hz => hwrite m z (List.mem_cons_of_mem _ hz)) k x hread
      · cases hr

end Access

end Lib
