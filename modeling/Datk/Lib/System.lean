import Mathlib.Logic.Basic
import Mathlib.Tactic.Common

/-!
# Systems of guarded partial actions

A program that runs as several tasks is a `System`: a state, and actions that
are partial functions on it, so that one definition is both run on a concrete
list of actions (`execute`) and reasoned about over every run (`Reaches`).

`Reaches ok s` says that `s` is reached by a run whose every step meets the
guard `ok`, a condition on the state before the step and on the action taken.
`Reachable` is the case of no guard at all.  An invariant is proved once by
`Reaches.invariant`, or, over facts already known of every reached state, by
`Reaches.invariant_with`.
-/

namespace Lib

/-- A system: where it may start, and what each action does where it is enabled
(`none` where it is not). -/
structure System (σ α : Type*) where
  Init : σ → Prop
  step : σ → α → Option σ

namespace System

variable {σ α : Type*} {S : System σ α} {ok : σ → α → Prop}

/-- The states of the runs whose every step meets `ok`. -/
inductive Reaches (S : System σ α) (ok : σ → α → Prop) : σ → Prop
  | init {s : σ} : S.Init s → Reaches S ok s
  | step {s s' : σ} {a : α} : Reaches S ok s → ok s a → S.step s a = some s' → Reaches S ok s'

abbrev Reachable (S : System σ α) : σ → Prop := S.Reaches fun _ _ => True

def startAt (S : System σ α) (s : σ) : System σ α := { S with Init := fun t => t = s }

namespace Reaches

/-- **The invariant rule**: what holds at the start and is kept by every step
that meets the guard holds of every state reached. -/
theorem invariant {P : σ → Prop} (hInit : ∀ s, S.Init s → P s)
    (hStep : ∀ s a s', P s → ok s a → S.step s a = some s' → P s') {s : σ}
    (h : S.Reaches ok s) : P s := by
  induction h with
  | init h0 => exact hInit _ h0
  | step _ hok hs ih => exact hStep _ _ _ ih hok hs

/-- The invariant rule over a fact `Q` already known of every state reached. -/
theorem invariant_with {P Q : σ → Prop} (hQ : ∀ s, S.Reaches ok s → Q s)
    (hInit : ∀ s, S.Init s → P s)
    (hStep : ∀ s a s', Q s → P s → ok s a → S.step s a = some s' → P s') {s : σ}
    (h : S.Reaches ok s) : P s := by
  induction h with
  | init h0 => exact hInit _ h0
  | step h hok hs ih => exact hStep _ _ _ (hQ _ h) ih hok hs

/-- A run that meets the guard is a run of the system. -/
theorem reachable {s : σ} (h : S.Reaches ok s) : S.Reachable s := by
  induction h with
  | init h0 => exact .init h0
  | step _ _ hs ih => exact .step ih trivial hs

/-- **An exact guard.**  If nothing undoes a violation of `H`, and a step after
which `H` still holds is one that meets the guard, then the runs that meet it are
those that keep `H`. -/
theorem iff_reachable_and {H : σ → Prop} (hInit : ∀ s, S.Init s → H s)
    (hBack : ∀ s a s', S.step s a = some s' → H s' → H s)
    (hStep : ∀ s a s', S.Reaches ok s → H s → S.step s a = some s' → (ok s a ↔ H s')) {s : σ} :
    S.Reaches ok s ↔ S.Reachable s ∧ H s := by
  have hkeep : ∀ {s}, S.Reaches ok s → H s := by
    intro s h
    induction h with
    | init h0 => exact hInit _ h0
    | step h hok hs ih => exact (hStep _ _ _ h ih hs).mp hok
  constructor
  · intro h
    exact ⟨h.reachable, hkeep h⟩
  · rintro ⟨h, hH⟩
    induction h with
    | init h0 => exact .init h0
    | step _ _ hs ih =>
      have h := ih (hBack _ _ _ hs hH)
      exact .step h ((hStep _ _ _ h (hkeep h) hs).mpr hH) hs

/-- The same among the runs that meet another guard. -/
theorem iff_reaches_and {ok' : σ → α → Prop} {H : σ → Prop} (hInit : ∀ s, S.Init s → H s)
    (hBack : ∀ s a s', S.Reaches ok s → ok s a → S.step s a = some s' → H s' → H s)
    (hStep : ∀ s a s', S.Reaches ok s → H s → ok s a → S.step s a = some s' →
      (ok' s a ↔ H s')) {s : σ} :
    S.Reaches (fun s a => ok s a ∧ ok' s a) s ↔ S.Reaches ok s ∧ H s := by
  constructor
  · intro h
    induction h with
    | init h0 => exact ⟨.init h0, hInit _ h0⟩
    | step _ hok hs ih =>
      obtain ⟨h, hH⟩ := ih
      exact ⟨.step h hok.1 hs, (hStep _ _ _ h hH hok.1 hs).mp hok.2⟩
  · rintro ⟨h, hH⟩
    induction h with
    | init h0 => exact .init h0
    | step h hok hs ih =>
      have hH' := hBack _ _ _ h hok hs hH
      exact .step (ih hH') ⟨hok, (hStep _ _ _ h hH' hok hs).mpr hH⟩ hs

end Reaches

/-! ### Concrete runs -/

/-- Take the actions in order; `none` as soon as one fails the guard or is not
enabled. -/
def execute (S : System σ α) (ok : σ → α → Prop) [∀ s a, Decidable (ok s a)] :
    σ → List α → Option σ
  | s, [] => some s
  | s, a :: as => if ok s a then (S.step s a).bind fun s' => execute S ok s' as else none

theorem reaches_of_execute [∀ s a, Decidable (ok s a)] :
    ∀ (as : List α) {s s' : σ}, S.Reaches ok s → S.execute ok s as = some s' →
      S.Reaches ok s' := by
  intro as
  induction as with
  | nil =>
    intro s s' hs h
    rw [execute, Option.some.injEq] at h
    exact h ▸ hs
  | cons a as ih =>
    intro s s' hs h
    rw [execute] at h
    split at h
    · rename_i hok
      obtain ⟨t, ht, hrest⟩ := Option.bind_eq_some_iff.mp h
      exact ih (.step hs hok ht) hrest
    · exact absurd h (by simp)

/-- A concrete run whose last state has the property `p` shows a reached state
with that property. -/
theorem exists_of_execute [∀ s a, Decidable (ok s a)] {p : σ → Prop} [DecidablePred p]
    (as : List α) {s : σ} (hs : S.Init s)
    (h : (S.execute ok s as).any (fun s' => decide (p s')) = true) :
    ∃ s', S.Reaches ok s' ∧ p s' := by
  cases he : S.execute ok s as with
  | none =>
    rw [he] at h
    exact absurd h (by simp)
  | some s' =>
    rw [he, Option.any_some, decide_eq_true_eq] at h
    exact ⟨s', reaches_of_execute as (.init hs) he, h⟩

end System

/-! ### Histories -/

/-- What holds of the entries of a history and of a new one. -/
theorem forall_mem_concat {α : Type*} {P : α → Prop} {as : List α} {a : α}
    (h : ∀ x ∈ as, P x) (ha : P a) : ∀ x ∈ as ++ [a], P x :=
  List.forall_mem_append.mpr ⟨h, List.forall_mem_singleton.mpr ha⟩

end Lib
