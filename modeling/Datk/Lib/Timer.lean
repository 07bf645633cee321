import Mathlib.Tactic.Common
import Mathlib.Data.List.Basic

/-!
# A one-shot timer behind a queue of commands

A task runs the timer.  It calls the callback if the timer has expired, then takes the
commands from the queue until none is left, and looks at the timer again.  A command
to start carries the tick at which it was given, and counts from there.  A command that
finds the queue full is lost.

`live` are the starts that the timer may still run out on, once the commands that wait
have been taken.  The task adds none to them (`live_poll`, `live_take`), a
command to stop leaves none (`live_post_stop`), and the callback is due to one of them
unless a command to stop is waiting (`mem_live_of_call`).
-/

namespace Lib

inductive TimerCommand
  | start (t : Nat)
  | stop
  /-- A command that is about something else. -/
  | other
  deriving DecidableEq, Repr

/-- Where the task is: about to look at the timer, about to call the callback for the
start at tick `t`, or taking commands. -/
inductive TimerPc
  | poll
  | call (t : Nat)
  | drain
  deriving DecidableEq, Repr

/-- The start whose callback is about to be called. -/
def TimerPc.due : TimerPc → List Nat
  | .call t => [t]
  | .poll | .drain => []

structure OneShot where
  pc : TimerPc
  queue : List TimerCommand
  /-- The tick of the start that it runs from. -/
  running : Option Nat
  deriving DecidableEq, Repr

namespace OneShot

def idle : OneShot := ⟨.poll, [], none⟩

section

variable (capacity period now : Nat)

def HasRoom (o : OneShot) : Prop := o.queue.length < capacity

instance (o : OneShot) : Decidable (o.HasRoom capacity) := inferInstanceAs (Decidable (_ < _))

def post (c : TimerCommand) (o : OneShot) : OneShot :=
  if o.HasRoom capacity then { o with queue := o.queue ++ [c] } else o

def poll (o : OneShot) : Option OneShot :=
  if o.pc = .poll then
    some (match o.running with
      | some t =>
        if t + period ≤ now then { o with pc := .call t, running := none }
        else { o with pc := .drain }
      | none => { o with pc := .drain })
  else none

/-- A start that is taken so late that the time is up has its callback called at once. -/
def take (o : OneShot) : Option OneShot :=
  if o.pc = .drain then
    some (match o.queue with
      | [] => { o with pc := .poll }
      | .start t :: q =>
        if t + period ≤ now then ⟨.call t, q, none⟩ else { o with queue := q, running := some t }
      | .stop :: q => { o with queue := q, running := none }
      | .other :: q => { o with queue := q })
  else none

end

/-- The callback returns. -/
def returned (o : OneShot) : OneShot := { o with pc := .drain }

/-- What is left of the starts `ts` and of those in a queue once it has been taken. -/
def survivors : List Nat → List TimerCommand → List Nat
  | ts, [] => ts
  | ts, .start t :: q => survivors (t :: ts) q
  | _, .stop :: q => survivors [] q
  | ts, .other :: q => survivors ts q

def live (o : OneShot) : List Nat := survivors (o.pc.due ++ o.running.toList) o.queue

/-! ### What survives the queue -/

theorem survivors_append (q r : List TimerCommand) :
    ∀ ts, survivors ts (q ++ r) = survivors (survivors ts q) r := by
  induction q with
  | nil =>
    intro ts
    rfl
  | cons c q ih =>
    intro ts
    cases c with
    | start t => exact ih (t :: ts)
    | stop => exact ih []
    | other => exact ih ts

theorem survivors_subset (q : List TimerCommand) :
    ∀ {ts us : List Nat}, ts ⊆ us → survivors ts q ⊆ survivors us q := by
  induction q with
  | nil =>
    intro ts us h
    exact h
  | cons c q ih =>
    intro ts us h
    cases c with
    | start t => exact ih (List.cons_subset_cons t h)
    | stop => exact ih (List.Subset.refl [])
    | other => exact ih h

/-- Only a command to stop removes a start. -/
theorem subset_survivors {q : List TimerCommand} (hstop : .stop ∉ q) :
    ∀ ts, ts ⊆ survivors ts q := by
  induction q with
  | nil =>
    intro ts
    exact List.Subset.refl ts
  | cons c q ih =>
    intro ts
    have hq := ih fun h => hstop (List.mem_cons_of_mem c h)
    cases c with
    | start t => exact fun u hu => hq (t :: ts) (List.mem_cons_of_mem t hu)
    | stop => exact absurd List.mem_cons_self hstop
    | other => exact hq ts

/-! ### What the steps do to the live starts -/

variable {capacity period now : Nat} {o o' : OneShot}

theorem live_post_start (t : Nat) : (o.post capacity (.start t)).live ⊆ t :: o.live := by
  rw [post]
  split
  · rw [live, survivors_append]
    exact List.Subset.refl _
  · exact List.subset_cons_self t o.live

theorem live_post_other : (o.post capacity .other).live = o.live := by
  rw [post]
  split
  · rw [live, survivors_append]
    rfl
  · rfl

theorem live_post_stop (h : o.HasRoom capacity ∨ o.live = []) :
    (o.post capacity .stop).live = [] := by
  rw [post]
  split
  · rw [live, survivors_append]
    rfl
  · rename_i hroom
    exact h.resolve_left hroom

/-- A look at the timer: it has run out, or nothing happens. -/
theorem poll_cases (h : o.poll period now = some o') :
    o.pc = .poll ∧
      ((∃ t, o.running = some t ∧ t + period ≤ now ∧
          o' = { o with pc := .call t, running := none }) ∨
        o' = { o with pc := .drain }) := by
  obtain ⟨hpc, h⟩ := Option.ite_none_right_eq_some.mp h
  refine ⟨hpc, ?_⟩
  cases hrun : o.running with
  | none =>
    rw [hrun] at h
    exact .inr (Option.some.inj h).symm
  | some t =>
    simp only [hrun] at h
    split at h
    · rename_i hdue
      exact .inl ⟨t, rfl, hdue, (Option.some.inj h).symm⟩
    · exact .inr (Option.some.inj h).symm

/-- The command taken: none, a start that is too late or not, a stop, another one. -/
theorem take_cases (h : o.take period now = some o') :
    o.pc = .drain ∧
      ((o.queue = [] ∧ o' = { o with pc := .poll }) ∨
        (∃ t q, o.queue = .start t :: q ∧ t + period ≤ now ∧ o' = ⟨.call t, q, none⟩) ∨
        (∃ t q, o.queue = .start t :: q ∧ o' = { o with queue := q, running := some t }) ∨
        (∃ q, o.queue = .stop :: q ∧ o' = { o with queue := q, running := none }) ∨
        ∃ q, o.queue = .other :: q ∧ o' = { o with queue := q }) := by
  obtain ⟨hpc, h⟩ := Option.ite_none_right_eq_some.mp h
  refine ⟨hpc, ?_⟩
  have h := (Option.some.inj h).symm
  cases hq : o.queue with
  | nil =>
    rw [hq] at h
    exact .inl ⟨rfl, h⟩
  | cons c q =>
    simp only [hq] at h
    cases c with
    | start t =>
      by_cases hdue : t + period ≤ now
      · exact .inr (.inl ⟨t, q, rfl, hdue, h.trans (if_pos hdue)⟩)
      · exact .inr (.inr (.inl ⟨t, q, rfl, h.trans (if_neg hdue)⟩))
    | stop => exact .inr (.inr (.inr (.inl ⟨q, rfl, h⟩)))
    | other => exact .inr (.inr (.inr (.inr ⟨q, rfl, h⟩)))

theorem live_poll (h : o.poll period now = some o') : o'.live ⊆ o.live := by
  obtain ⟨hpc, ⟨t, hrun, -, rfl⟩ | rfl⟩ := poll_cases h
  · rw [live, live, hpc, hrun]
    exact List.Subset.refl _
  · rw [live, live, hpc]
    exact List.Subset.refl _

theorem live_take (h : o.take period now = some o') : o'.live ⊆ o.live := by
  obtain ⟨hpc, ⟨hq, rfl⟩ | ⟨t, q, hq, -, rfl⟩ | ⟨t, q, hq, rfl⟩ | ⟨q, hq, rfl⟩ | ⟨q, hq, rfl⟩⟩ :=
    take_cases h
  · rw [live, live, hpc]
    exact List.Subset.refl _
  · rw [live, live, hq]
    apply survivors_subset
    exact List.cons_subset_cons t (List.nil_subset _)
  · rw [live, live, hq, hpc]
    apply survivors_subset
    exact List.cons_subset_cons t (List.nil_subset _)
  · rw [live, live, hq, hpc]
    exact List.Subset.refl _
  · rw [live, live, hq]
    exact List.Subset.refl _

theorem live_returned : o.returned.live ⊆ o.live := by
  apply survivors_subset
  exact List.subset_append_right o.pc.due o.running.toList

/-- **The callback is called for a live start**, unless a command to stop is waiting. -/
theorem mem_live_of_call {t : Nat} (hpc : o.pc = .call t) (hstop : .stop ∉ o.queue) :
    t ∈ o.live := by
  apply subset_survivors hstop
  rw [hpc]
  exact List.mem_cons_self

/-! ### The callback is never early -/

/-- What is about to be called has run out. -/
def Due (period now : Nat) (o : OneShot) : Prop := ∀ t, o.pc = .call t → t + period ≤ now

theorem due_post {c : TimerCommand} (h : o.Due period now) :
    (o.post capacity c).Due period now := by
  rw [post]
  split
  · exact h
  · exact h

theorem due_poll (h : o.poll period now = some o') : o'.Due period now := by
  intro u hu
  obtain ⟨-, ⟨t, -, hdue, rfl⟩ | rfl⟩ := poll_cases h
  · cases hu
    exact hdue
  · cases hu

theorem due_take (h : o.take period now = some o') : o'.Due period now := by
  intro u hu
  obtain ⟨hpc, ⟨-, rfl⟩ | ⟨t, q, -, hdue, rfl⟩ | ⟨t, q, -, rfl⟩ | ⟨q, -, rfl⟩ | ⟨q, -, rfl⟩⟩ :=
    take_cases h
  · cases hu
  · cases hu
    exact hdue
  · rw [hpc] at hu
    cases hu
  · rw [hpc] at hu
    cases hu
  · rw [hpc] at hu
    cases hu

end OneShot

end Lib
