import Mathlib.Data.List.Infix
import Datk.Lib.System

/-!
# What flows through a system

A `Flow` says which items a step lets into a system, which items it lets out, and which
items are on their way through it, in their order: what comes in is last, and what goes out
was first.  It may rest on an invariant of the system.  `conserved` is the law of a whole run,
and `Through` is what it says if nothing is on its way at the start: no item is lost, doubled or
overtaken by another one.
-/

namespace Lib.System

variable {σ α β : Type*}

/-- What the steps of a run say, one after another. -/
def collect (S : System σ α) (f : σ → α → List β) : σ → List α → List β
  | _, [] => []
  | s, a :: as => f s a ++ ((S.step s a).elim [] fun s' => collect S f s' as)

structure Flow (S : System σ α) (β : Type*) where
  inv : σ → Prop
  held : σ → List β
  inflow : σ → α → List β
  outflow : σ → α → List β
  keeps : ∀ {s a s'}, inv s → S.step s a = some s' → inv s'
  balance : ∀ {s a s'}, inv s → S.step s a = some s' →
    held s ++ inflow s a = outflow s a ++ held s'

variable {S : System σ α} {F : S.Flow β} {s s' : σ}

/-- A run without a guard. -/
abbrev Runs (S : System σ α) (s : σ) (as : List α) (s' : σ) : Prop :=
  S.execute (fun _ _ => True) s as = some s'

theorem runs_cons {a : α} {as : List α} (h : S.Runs s (a :: as) s') :
    ∃ t, S.step s a = some t ∧ S.Runs t as s' := by
  rw [Runs, execute, if_pos trivial] at h
  exact Option.bind_eq_some_iff.mp h

/-- **The law of a run**, by induction on its steps. -/
theorem Flow.conserved {as : List α} (hinv : F.inv s) (h : S.Runs s as s') :
    F.held s ++ S.collect F.inflow s as = S.collect F.outflow s as ++ F.held s' := by
  induction as generalizing s with
  | nil =>
    cases h
    exact List.append_nil _
  | cons a as ih =>
    obtain ⟨t, ht, hrest⟩ := runs_cons h
    rw [collect, collect, ht, Option.elim_some, Option.elim_some, ← List.append_assoc,
      F.balance hinv ht, List.append_assoc, ih (F.keeps hinv ht) hrest, List.append_assoc]

/-- What has come in is what has gone out, and after it what is on its way. -/
def Flow.Through (F : S.Flow β) (s : σ) (as : List α) (s' : σ) : Prop :=
  S.collect F.inflow s as = S.collect F.outflow s as ++ F.held s'

theorem Flow.through {as : List α} (hinv : F.inv s) (hnil : F.held s = []) (h : S.Runs s as s') :
    F.Through s as s' := by
  have hconserved := F.conserved hinv h
  rw [hnil, List.nil_append] at hconserved
  exact hconserved

end Lib.System
