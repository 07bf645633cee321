import Datk.Lib.System
import Mathlib.Logic.Function.Basic

/-!
# Resources under locks

Tasks work on resources, each of which is under a lock of its own.  A `Guarded` says what
a task does: outside of all locks, when it enters a lock, and inside, where it works on the
resource and in the end leaves.  The steps of any number of tasks come in any order.

`meets` is the rule that such a program is verified by.  A condition on a resource that is
free has to be left behind by who leaves, and may be broken inside, as long as the place
where the task is says how.  `eq_of_holds` says that at most one task is inside, and
`gives_back` that a task whose every step inside brings it nearer to the end leaves.
-/

namespace Lib

/-- What tasks in the places `τ` do, with locks `κ` and resources `ρ`. -/
structure Guarded (κ : Type*) (ρ : κ → Type*) (τ α : Type*) where
  /-- The lock that is held at a place. -/
  holds : τ → Option κ
  outside : τ → α → Option τ
  /-- The lock that is taken, and where the task is then. -/
  enter : τ → α → Option (κ × τ)
  /-- A step on the resource, which may give the lock back. -/
  inside : ∀ k, τ → ρ k → α → Option (τ × ρ k)
  holds_outside : ∀ {t a t'}, holds t = none → outside t a = some t' → holds t' = none
  holds_enter : ∀ {t a k t'}, enter t a = some (k, t') → holds t' = some k
  holds_inside : ∀ {t k r a t' r'}, holds t = some k → inside k t r a = some (t', r') →
    holds t' = some k ∨ holds t' = none

namespace Guarded

variable {ι κ : Type*} {ρ : κ → Type*} {τ α : Type*} [DecidableEq ι] [DecidableEq κ]
  {G : Guarded κ ρ τ α}

structure State (ι κ : Type*) (ρ : κ → Type*) (τ : Type*) where
  lock : κ → Option ι
  resource : ∀ k, ρ k
  task : ι → τ

/-- The task `i` takes the step `a`. -/
def step (G : Guarded κ ρ τ α) (s : State ι κ ρ τ) (i : ι) (a : α) : Option (State ι κ ρ τ) :=
  match G.holds (s.task i) with
  | some k =>
    (G.inside k (s.task i) (s.resource k) a).map fun (t, r) =>
      { lock := Function.update s.lock k (if (G.holds t).isSome then some i else none)
        resource := Function.update s.resource k r
        task := Function.update s.task i t }
  | none =>
    match G.enter (s.task i) a with
    | some (k, t) =>
      if s.lock k = none then
        some { s with
          lock := Function.update s.lock k (some i), task := Function.update s.task i t }
      else none
    | none => (G.outside (s.task i) a).map fun t => { s with task := Function.update s.task i t }

/-- All locks are free, and the tasks and the resources are as they start. -/
def system (G : Guarded κ ρ τ α) (task : τ → Prop) (resource : ∀ k, ρ k → Prop) :
    System (State ι κ ρ τ) (ι × α) where
  Init s := (∀ k, s.lock k = none) ∧ (∀ i, task (s.task i) ∧ G.holds (s.task i) = none) ∧
    ∀ k, resource k (s.resource k)
  step s e := G.step s e.1 e.2

/-! ### What a step can do -/

inductive Step (G : Guarded κ ρ τ α) (s : State ι κ ρ τ) (i : ι) (a : α) :
    State ι κ ρ τ → Prop
  | outside {t : τ} : G.holds (s.task i) = none → G.outside (s.task i) a = some t →
      Step G s i a { s with task := Function.update s.task i t }
  | enter {k : κ} {t : τ} : G.holds (s.task i) = none → G.enter (s.task i) a = some (k, t) →
      s.lock k = none →
      Step G s i a
        { s with lock := Function.update s.lock k (some i), task := Function.update s.task i t }
  | inside {k : κ} {t : τ} {r : ρ k} : G.holds (s.task i) = some k → G.holds t = some k →
      G.inside k (s.task i) (s.resource k) a = some (t, r) →
      Step G s i a
        { lock := Function.update s.lock k (some i)
          resource := Function.update s.resource k r, task := Function.update s.task i t }
  | leave {k : κ} {t : τ} {r : ρ k} : G.holds (s.task i) = some k → G.holds t = none →
      G.inside k (s.task i) (s.resource k) a = some (t, r) →
      Step G s i a
        { lock := Function.update s.lock k none
          resource := Function.update s.resource k r, task := Function.update s.task i t }

theorem step_cases {s s' : State ι κ ρ τ} {i : ι} {a : α} (hs : G.step s i a = some s') :
    Step G s i a s' := by
  unfold step at hs
  split at hs
  · rename_i k hk
    obtain ⟨⟨t, r⟩, htr, rfl⟩ := Option.map_eq_some_iff.mp hs
    rcases G.holds_inside hk htr with ht | ht
    · simp only [ht, Option.isSome_some, if_true]
      exact .inside hk ht htr
    · simp only [ht, Option.isSome_none, Bool.false_eq_true, if_false]
      exact .leave hk ht htr
  · rename_i hk
    split at hs
    · rename_i k t he
      split at hs
      · rename_i hfree
        cases hs
        exact .enter hk he hfree
      · cases hs
    · obtain ⟨t, ht, rfl⟩ := Option.map_eq_some_iff.mp hs
      exact .outside hk ht

/-! ### The locks -/

variable {s s' : State ι κ ρ τ} {i j : ι} {a : α} {k : κ} {t : τ}

/-- The lock knows who is inside. -/
def Locked (G : Guarded κ ρ τ α) (lock : κ → Option ι) (task : ι → τ) : Prop :=
  ∀ i k, lock k = some i ↔ G.holds (task i) = some k

omit [DecidableEq κ] in
/-- A task that is out of all locks, and stays out. -/
theorem Locked.outside {lock : κ → Option ι} {task : ι → τ} (h : Locked G lock task)
    (hi : G.holds (task i) = none) (ht : G.holds t = none) :
    Locked G lock (Function.update task i t) := by
  intro j l
  by_cases hj : j = i
  · subst hj
    rw [h j l, Function.update_self, hi, ht]
  · rw [h j l, Function.update_of_ne hj]

/-- A task that is in the lock `k`, or finds it free. -/
theorem Locked.inside {lock : κ → Option ι} {task : ι → τ} (h : Locked G lock task)
    (hi : G.holds (task i) = some k ∨ G.holds (task i) = none ∧ lock k = none)
    (ht : G.holds t = some k) :
    Locked G (Function.update lock k (some i)) (Function.update task i t) := by
  intro j l
  have hout : l ≠ k → G.holds (task i) ≠ some l := by
    intro hl hil
    rcases hi with hi | ⟨hi, -⟩
    · exact hl (Option.some.inj (hil.symm.trans hi))
    · rw [hi] at hil
      cases hil
  have hother : j ≠ i → lock k ≠ some j := by
    intro hj hlock
    rcases hi with hi | ⟨-, hfree⟩
    · exact hj (Option.some.inj (hlock.symm.trans ((h i k).mpr hi)))
    · rw [hfree] at hlock
      cases hlock
  by_cases hl : l = k
  · subst hl
    rw [Function.update_self]
    by_cases hj : j = i
    · subst hj
      rw [Function.update_self, ht]
      simp
    · rw [Function.update_of_ne hj, ← h j l]
      simp [hother hj, Ne.symm hj]
  · rw [Function.update_of_ne hl, h j l]
    by_cases hj : j = i
    · subst hj
      rw [Function.update_self, ht]
      simp [hout hl, Ne.symm hl]
    · rw [Function.update_of_ne hj]

/-- A task leaves the lock `k`. -/
theorem Locked.leave {lock : κ → Option ι} {task : ι → τ} (h : Locked G lock task)
    (hi : G.holds (task i) = some k) (ht : G.holds t = none) :
    Locked G (Function.update lock k none) (Function.update task i t) := by
  intro j l
  by_cases hl : l = k
  · subst hl
    rw [Function.update_self]
    by_cases hj : j = i
    · subst hj
      rw [Function.update_self, ht]
      simp
    · rw [Function.update_of_ne hj, ← h j l, (h i l).mpr hi]
      simp [Ne.symm hj]
  · rw [Function.update_of_ne hl, h j l]
    by_cases hj : j = i
    · subst hj
      rw [Function.update_self, ht, hi]
      simp [Ne.symm hl]
    · rw [Function.update_of_ne hj]

theorem Locked.step (h : Locked G s.lock s.task) (hs : Step G s i a s') :
    Locked G s'.lock s'.task := by
  cases hs with
  | outside hi ht => exact h.outside hi (G.holds_outside hi ht)
  | enter hi he hfree => exact h.inside (.inr ⟨hi, hfree⟩) (G.holds_enter he)
  | inside hi ht _ => exact h.inside (.inl hi) ht
  | leave hi ht _ => exact h.leave hi ht

section

variable {P : τ → Prop} {R : ∀ k, ρ k → Prop} {ok : State ι κ ρ τ → ι × α → Prop}

theorem locked (h : (G.system P R).Reaches ok s) : Locked G s.lock s.task := by
  refine h.invariant (P := fun s => Locked G s.lock s.task) ?_ ?_
  · rintro s ⟨hlock, htask, -⟩ i k
    rw [hlock k, (htask i).2]
    simp
  · intro s e s' hlocked _ hs
    exact hlocked.step (step_cases hs)

/-- **At most one task is inside of a lock.** -/
theorem eq_of_holds (h : (G.system P R).Reaches ok s) (hi : G.holds (s.task i) = some k)
    (hj : G.holds (s.task j) = some k) : i = j :=
  Option.some.inj ((((locked h) i k).mpr hi).symm.trans (((locked h) j k).mpr hj))

/-- What holds of the place where a task starts, and is kept by its steps, holds of all
places. -/
theorem forall_task {T : τ → Prop} (hinit : ∀ t, P t → T t)
    (houtside : ∀ s i a t, ok s (i, a) → T (s.task i) → G.outside (s.task i) a = some t → T t)
    (henter : ∀ t a k t', T t → G.enter t a = some (k, t') → T t')
    (hinside : ∀ k t r a t' r', T t → G.inside k t r a = some (t', r') → T t')
    (h : (G.system P R).Reaches ok s) (i : ι) : T (s.task i) := by
  have hall : ∀ j, T (s.task j) := by
    refine h.invariant (P := fun s => ∀ j, T (s.task j)) ?_ ?_
    · rintro s ⟨-, htask, -⟩ j
      exact hinit _ (htask j).1
    · rintro s ⟨i, a⟩ s' hT hok hs j
      have hnext : ∀ t, T t → T (Function.update s.task i t j) := by
        intro t ht
        by_cases hj : j = i
        · subst hj
          rw [Function.update_self]
          exact ht
        · rw [Function.update_of_ne hj]
          exact hT j
      cases step_cases hs with
      | outside _ ht => exact hnext _ (houtside s i a _ hok (hT i) ht)
      | enter _ he _ => exact hnext _ (henter _ a _ _ (hT i) he)
      | inside _ _ htr | leave _ _ htr => exact hnext _ (hinside _ _ _ a _ _ (hT i) htr)
  exact hall i

/-! ### The invariant rule -/

/-- A free resource meets `I`, and one that a task is at work on `J` at its place. -/
structure Meets (I : ∀ k, ρ k → Prop) (J : ∀ k, τ → ρ k → Prop) (s : State ι κ ρ τ) (k : κ) :
    Prop where
  free : s.lock k = none → I k (s.resource k)
  held : ∀ i, s.lock k = some i → J k (s.task i) (s.resource k)

omit [DecidableEq ι] [DecidableEq κ] in
/-- Nothing is done to the resource, nor by the task that is inside. -/
theorem Meets.frame {I : ∀ k, ρ k → Prop} {J : ∀ k, τ → ρ k → Prop} (h : Meets I J s k)
    (hlock : s'.lock k = s.lock k) (hres : s'.resource k = s.resource k)
    (htask : ∀ j, s.lock k = some j → s'.task j = s.task j) : Meets I J s' k := by
  refine ⟨fun hfree => ?_, fun j hj => ?_⟩
  · rw [hres]
    exact h.free (hlock.symm.trans hfree)
  · rw [hlock] at hj
    rw [hres, htask j hj]
    exact h.held j hj

/-- **The invariant rule**: who enters finds the condition on the resource, keeps what his
place says, and leaves the condition behind.  `Q` is what is known of all states already. -/
theorem meets {I : ∀ k, ρ k → Prop} {J : ∀ k, τ → ρ k → Prop} {Q : State ι κ ρ τ → Prop}
    (hQ : ∀ s, (G.system P R).Reaches ok s → Q s) (hinit : ∀ k r, R k r → I k r)
    (henter : ∀ s i a k t, Q s → G.enter (s.task i) a = some (k, t) →
      I k (s.resource k) → J k t (s.resource k))
    (hinside : ∀ k t r a t' r', G.holds t = some k → G.inside k t r a = some (t', r') →
      J k t r → (G.holds t' = some k → J k t' r') ∧ (G.holds t' = none → I k r'))
    (h : (G.system P R).Reaches ok s) (k : κ) : Meets I J s k := by
  have hall : ∀ l, Meets I J s l := by
    refine h.invariant_with (P := fun s => ∀ l, Meets I J s l)
      (Q := fun s => Locked G s.lock s.task ∧ Q s) (fun s hs => ⟨locked hs, hQ s hs⟩) ?_ ?_
    · rintro s ⟨hlock, -, hres⟩ l
      refine ⟨fun _ => hinit l _ (hres l), fun i hi => ?_⟩
      rw [hlock l] at hi
      cases hi
    · rintro s ⟨i, a⟩ s' ⟨hlocked, hknown⟩ hmeets _ hs l
      -- where the task does not hold `l`, it is not the one inside
      have hother : G.holds (s.task i) ≠ some l → ∀ t j, s.lock l = some j →
          Function.update s.task i t j = s.task j := by
        intro hi t j hj
        rw [Function.update_of_ne]
        rintro rfl
        exact hi ((hlocked j l).mp hj)
      cases step_cases hs with
      | @outside t hi ht => exact (hmeets l).frame rfl rfl (hother (by simp [hi]) t)
      | @enter k t hi he hfree =>
        by_cases hl : l = k
        · subst hl
          refine ⟨fun hnone => ?_, fun j hj => ?_⟩
          · simp at hnone
          · have hji : j = i := by simpa using hj.symm
            subst hji
            simpa using henter s j a l t hknown he ((hmeets l).free hfree)
        · exact (hmeets l).frame (Function.update_of_ne hl _ _) rfl (hother (by simp [hi]) t)
      | @inside k t r hi ht htr =>
        have hJ := (hmeets k).held i ((hlocked i k).mpr hi)
        by_cases hl : l = k
        · subst hl
          refine ⟨fun hnone => ?_, fun j hj => ?_⟩
          · simp at hnone
          · have hji : j = i := by simpa using hj.symm
            subst hji
            simpa using (hinside l _ _ a t r hi htr hJ).1 ht
        · exact (hmeets l).frame (Function.update_of_ne hl _ _) (Function.update_of_ne hl _ _)
            (hother (by simpa [hi] using Ne.symm hl) t)
      | @leave k t r hi ht htr =>
        have hJ := (hmeets k).held i ((hlocked i k).mpr hi)
        by_cases hl : l = k
        · subst hl
          refine ⟨fun _ => ?_, fun j hj => ?_⟩
          · simpa using (hinside l _ _ a t r hi htr hJ).2 ht
          · simp at hj
        · exact (hmeets l).frame (Function.update_of_ne hl _ _) (Function.update_of_ne hl _ _)
            (hother (by simpa [hi] using Ne.symm hl) t)
  exact hall k

end

/-! ### Leaving -/

/-- **A task leaves**, if the steps `go` are always possible inside and bring it nearer to
the end: alone, it has given the lock back after as many of them as there are to go. -/
theorem gives_back (P : τ → Prop) (R : ∀ k, ρ k → Prop) (rank : τ → Nat) (go : α → Prop) {k : κ}
    (hinside : ∀ t r a, G.holds t = some k → go a → ∃ t' r', G.inside k t r a = some (t', r') ∧
      (G.holds t' = some k → rank t' < rank t))
    {e : Nat → α} (he : ∀ n, go (e n)) {s : State ι κ ρ τ} {i : ι}
    (hi : G.holds (s.task i) = some k) :
    ∃ n ≤ rank (s.task i) + 1, ∃ s',
      (G.system P R).execute (fun _ _ => True) s
          ((List.range n).map fun m => (i, e m)) = some s' ∧
        s'.lock k = none ∧ G.holds (s'.task i) = none := by
  generalize hrank : rank (s.task i) = m
  induction m using Nat.strongRecOn generalizing s e with
  | ind m ih =>
    obtain ⟨t, r, htr, hless⟩ := hinside (s.task i) (s.resource k) (e 0) hi (he 0)
    have hstep : G.step s i (e 0) = some
        { lock := Function.update s.lock k (if (G.holds t).isSome then some i else none)
          resource := Function.update s.resource k r
          task := Function.update s.task i t } := by
      simp [step, hi, htr]
    rcases G.holds_inside hi htr with ht | ht
    · have hlt := hless ht
      rw [hrank] at hlt
      rw [ht, Option.isSome_some, if_pos rfl] at hstep
      obtain ⟨n, hn, s', hrun, hend⟩ := ih (rank t) hlt (e := fun n => e (n + 1))
        (fun n => he (n + 1))
        (s := { lock := Function.update s.lock k (some i)
                resource := Function.update s.resource k r
                task := Function.update s.task i t })
        (by simpa using ht) (by simp)
      refine ⟨n + 1, by omega, s', ?_, hend⟩
      rw [List.range_succ_eq_map, List.map_cons, List.map_map, System.execute, if_pos trivial]
      show (G.step s i (e 0)).bind _ = some s'
      rw [hstep]
      exact hrun
    · rw [ht, Option.isSome_none, if_neg Bool.false_ne_true] at hstep
      refine ⟨1, by omega,
        { lock := Function.update s.lock k none
          resource := Function.update s.resource k r
          task := Function.update s.task i t }, ?_, by simp, by simpa using ht⟩
      show (G.step s i (e 0)).bind _ = some _
      rw [hstep]
      rfl

end Guarded

end Lib
