import Datk.Lib.System
import Datk.Rtc.Registers

/-!
# The clock synchronisation of `DS1302_getClock`

Once a day `DS1302_getClock`, the only producer of `sensor_queue`, creates a task
`DS1302_setClock` and suspends itself.  The task fetches the time, sets the clock
and resumes its creator, unless it ends in one of its endless loops.

`vTaskResume` is not counted: on a task that is not suspended it does nothing.
`wakeable_of_prompt` proves that a suspended `DS1302_getClock` always has a task
that will resume it, in all runs where the task is created, the checks of
`DS1302_setClock` succeed and its `vTaskResume` comes after the
`vTaskSuspend(NULL)` it is meant for.
-/

namespace Datk.Rtc.Sync

/-- The next statement of `DS1302_getClock`. -/
inductive GetClockPc
  | begin
  | getDateTime
  | test
  | create
  | suspend
  | setDays
  /-- The rest of the iteration: one record for `sensor_queue`. -/
  | sample
  /-- The endless loop behind a failed `DS1302_begin`. -/
  | stopped
  deriving DecidableEq, Repr

/-- The next statement of `DS1302_setClock`. -/
inductive SetClockPc
  | obtainTime
  | begin
  | setDateTime
  | isWriteProtected
  | isHalted
  | setDays
  | resume
  | delete
  | stopped
  | deleted
  deriving DecidableEq, Repr

structure SetClock where
  pc : SetClockPc
  dt : DateTime
  deriving DecidableEq, Repr

structure State where
  numberOfDays : Int
  stateWifi : Nat
  rtc : Registers
  pc : GetClockPc
  dt : DateTime
  suspended : Bool
  tasks : List SetClock
  deriving DecidableEq, Repr

/-- `DS1302_getClock` at its start, with `r` in the clock. -/
def boot (r : Registers) : State where
  numberOfDays := -1
  stateWifi := 0
  rtc := r
  pc := .begin
  dt := .zero
  suspended := false
  tasks := []

inductive Act
  | wifi (up : Bool)
  | rtc (r : Registers)
  /-- A statement of `DS1302_getClock`; `DS1302_begin` returns `ok`, and
  `xTaskCreate` creates the task if `ok`. -/
  | getClock (ok : Bool)
  /-- A statement of task `i`: a check of it succeeds if `ok`, and it finds the
  time `now`. -/
  | setClock (i : Nat) (ok : Bool) (now : DateTime)
  deriving DecidableEq, Repr

def getClock (s : State) (ok : Bool) : Option State :=
  match s.pc with
  | .begin =>
    some { s with rtc := halt s.rtc false, pc := if ok then .getDateTime else .stopped }
  | .getDateTime => some { s with pc := .test, dt := (getDateTime s.rtc).2 }
  | .test =>
    some { s with pc :=
      if (s.numberOfDays = -1 ∧ s.stateWifi = 1) ∨
          ((s.dt.dayWeek.toNat : Int) ≠ s.numberOfDays ∧ s.stateWifi = 1) then .create
      else .sample }
  | .create =>
    -- the result of `xTaskCreate` is not looked at
    some { s with
      pc := .suspend
      tasks := s.tasks ++ if ok then [⟨.obtainTime, .zero⟩] else [] }
  | .suspend => some { s with pc := .setDays, suspended := true }
  | .setDays => some { s with pc := .sample, numberOfDays := s.dt.dayWeek.toNat }
  | .sample => some { s with pc := .getDateTime }
  | .stopped => none

/-- A statement of `DS1302_setClock` in task `i`, which is at `c`. -/
def setClock (s : State) (i : Nat) (c : SetClock) (ok : Bool) (now : DateTime) : Option State :=
  match c.pc with
  | .obtainTime =>
    some { s with tasks := s.tasks.set i (if ok then ⟨.begin, now⟩ else { c with pc := .stopped }) }
  | .begin =>
    some { s with
      rtc := halt s.rtc false
      tasks := s.tasks.set i { c with pc := if ok then .setDateTime else .stopped } }
  | .setDateTime =>
    some { s with
      rtc := setDateTime s.rtc c.dt
      tasks := s.tasks.set i { c with pc := .isWriteProtected } }
  | .isWriteProtected =>
    some { s with tasks := s.tasks.set i { c with pc := if ok then .isHalted else .stopped } }
  | .isHalted =>
    some { s with tasks := s.tasks.set i { c with pc := if ok then .setDays else .stopped } }
  | .setDays =>
    some { s with
      numberOfDays := c.dt.dayWeek.toNat
      tasks := s.tasks.set i { c with pc := .resume } }
  | .resume =>
    some { s with suspended := false, tasks := s.tasks.set i { c with pc := .delete } }
  | .delete => some { s with tasks := s.tasks.set i { c with pc := .deleted } }
  | .stopped => none
  | .deleted => none

def step (s : State) : Act → Option State
  | .wifi up => some { s with stateWifi := if up then 1 else 0 }
  | .rtc r => some { s with rtc := r }
  | .getClock ok => if s.suspended then none else getClock s ok
  | .setClock i ok now => s.tasks[i]?.bind fun c => setClock s i c ok now

def system : Lib.System State Act where
  Init s := ∃ r, s = boot r
  step := step

/-! ### Who will resume the sampler -/

/-- The task has its `vTaskResume` still before it. -/
def SetClockPc.active : SetClockPc → Bool
  | .delete => false
  | .stopped => false
  | .deleted => false
  | _ => true

/-- **The sampler can be woken.** -/
def Wakeable (s : State) : Prop := s.suspended = true → ∃ c ∈ s.tasks, c.pc.active = true

/-- Every task is created, every check succeeds, and a task resumes the sampler only once it
is suspended. -/
def Prompt (s : State) : Act → Prop
  | .getClock ok => s.pc = .create → ok = true
  | .setClock i ok _ =>
    ok = true ∧ (s.tasks[i]?.map SetClock.pc = some .resume → s.suspended = true)
  | _ => True

instance (s : State) : ∀ a, Decidable (Prompt s a)
  | .getClock _ => inferInstanceAs (Decidable (_ → _))
  | .setClock _ _ _ => inferInstanceAs (Decidable (_ ∧ _))
  | .wifi _ | .rtc _ => .isTrue trivial

/-- The sampler waits for a task: it has created one and has not gone on yet. -/
def State.waiting (s : State) : Bool := s.suspended || s.pc = .suspend

def State.active (s : State) : Nat := s.tasks.countP fun c => c.pc.active

/-- There is one active task while the sampler waits for it, and none otherwise. -/
structure Handshake (s : State) : Prop where
  one : s.active = if s.waiting then 1 else 0
  asleep : s.suspended = true → s.pc = .setDays

theorem handshake_boot (r : Registers) : Handshake (boot r) where
  one := rfl
  asleep := nofun

/-- A statement of the sampler that has no part in the handshake. -/
theorem Handshake.go {s : State} (h : Handshake s) (hrun : s.suspended = false)
    (hpc : s.pc ≠ .suspend) {p : GetClockPc} (hpc' : p ≠ .suspend) :
    Handshake { s with pc := p } where
  one := by
    have hone := h.one
    simp only [State.active, State.waiting, hrun, hpc, hpc', decide_false, Bool.or_self] at hone ⊢
    exact hone
  asleep := fun hs => absurd (hrun.symm.trans hs) (by decide)

theorem Handshake.getClock {s s' : State} {ok : Bool} (h : Handshake s)
    (hrun : s.suspended = false) (hok : s.pc = .create → ok = true)
    (hs : getClock s ok = some s') : Handshake s' := by
  have hone := h.one
  unfold Sync.getClock at hs
  cases hpc : s.pc with
  | stopped => simp [hpc] at hs
  | begin =>
    simp only [hpc, Option.some.injEq] at hs
    subst hs
    have h' := h.go hrun (by simp [hpc]) (p := if ok then .getDateTime else .stopped)
      (by split <;> simp)
    exact { h' with }
  | test =>
    simp only [hpc, Option.some.injEq] at hs
    subst hs
    exact h.go hrun (by simp [hpc]) (by split <;> simp)
  | create =>
    simp only [hpc, hok hpc, if_true, Option.some.injEq] at hs
    subst hs
    refine ⟨?_, fun hs => absurd (hrun.symm.trans hs) (by decide)⟩
    have hnone : s.active = 0 := by simpa [State.waiting, hrun, hpc] using hone
    rw [State.active] at hnone
    simp only [State.active, State.waiting, List.countP_append, hnone, hrun]
    rfl
  | suspend =>
    simp only [hpc, Option.some.injEq] at hs
    subst hs
    refine ⟨?_, fun _ => rfl⟩
    simp only [State.active, State.waiting, hrun, hpc] at hone ⊢
    simpa using hone
  | _ =>
    simp only [hpc, Option.some.injEq] at hs
    subst hs
    exact { h.go hrun (by simp [hpc]) (by simp) with }

/-- The active tasks, when task `i` goes from `c` to `c'`. -/
theorem active_set {s : State} {i : Nat} {c : SetClock} (c' : SetClock)
    (hc : s.tasks[i]? = some c) :
    (s.tasks.set i c').countP (fun c => c.pc.active) + (if c.pc.active then 1 else 0) =
      s.active + (if c'.pc.active then 1 else 0) := by
  obtain ⟨hi, rfl⟩ := List.getElem?_eq_some_iff.mp hc
  have hle : (if s.tasks[i].pc.active then 1 else 0) ≤ s.active :=
    List.boole_getElem_le_countP (p := fun c : SetClock => c.pc.active) hi
  rw [List.countP_set hi]
  rw [State.active] at hle ⊢
  omega

/-- A statement of a task that keeps its `vTaskResume` before it. -/
theorem Handshake.keep {s : State} (h : Handshake s) {i : Nat} {c c' : SetClock}
    (hc : s.tasks[i]? = some c) (hact : c'.pc.active = c.pc.active) :
    Handshake { s with tasks := s.tasks.set i c' } where
  one := by
    have hset := active_set c' hc
    rw [hact] at hset
    exact (Nat.add_right_cancel hset).trans h.one
  asleep := h.asleep

theorem Handshake.setClock {s s' : State} {i : Nat} {c : SetClock} {now : DateTime}
    (h : Handshake s) (hc : s.tasks[i]? = some c)
    (hwait : c.pc = .resume → s.suspended = true) (hs : setClock s i c true now = some s') :
    Handshake s' := by
  unfold Sync.setClock at hs
  cases hpc : c.pc with
  | stopped | deleted => simp [hpc] at hs
  | resume =>
    simp only [hpc, Option.some.injEq] at hs
    subst hs
    have hsusp := hwait hpc
    have hone : s.active = 1 := by
      rw [h.one, State.waiting, hsusp, Bool.true_or, if_pos rfl]
    have hfrom : c.pc.active = true := by rw [hpc]; rfl
    have hnone : (s.tasks.set i { c with pc := .delete }).countP (fun c => c.pc.active) = 0 := by
      have hset := active_set { c with pc := .delete } hc
      rw [hfrom, hone, if_pos rfl] at hset
      exact Nat.add_right_cancel hset
    refine ⟨?_, nofun⟩
    simpa [State.active, State.waiting, h.asleep hsusp] using hnone
  | _ =>
    simp only [hpc, if_true, Option.some.injEq] at hs
    subst hs
    exact { h.keep hc (by simp [hpc, SetClockPc.active]) with }

theorem Handshake.step {s s' : State} {a : Act} (h : Handshake s) (hok : Prompt s a)
    (hs : step s a = some s') : Handshake s' := by
  cases a with
  | wifi up =>
    cases hs
    exact { h with }
  | rtc r =>
    cases hs
    exact { h with }
  | getClock ok =>
    obtain ⟨hrun, hs⟩ := Option.ite_none_left_eq_some.mp hs
    exact h.getClock (by simpa using hrun) hok hs
  | setClock i ok now =>
    obtain ⟨c, hc, hs⟩ := Option.bind_eq_some_iff.mp hs
    obtain ⟨rfl, hwait⟩ := hok
    exact h.setClock hc (fun hpc => hwait (by rw [hc, Option.map_some, hpc])) hs

theorem handshake_of_prompt {s : State} (h : system.Reaches Prompt s) : Handshake s := by
  refine h.invariant ?_ fun _ _ _ hh hok hs => hh.step hok hs
  rintro _ ⟨r, rfl⟩
  exact handshake_boot r

/-- **The sampler is never stranded**, in all runs where every task is created, every check
of the tasks succeeds and they resume it only once it is suspended. -/
theorem wakeable_of_prompt {s : State} (h : system.Reaches Prompt s) : Wakeable s := by
  intro hsusp
  have hone := (handshake_of_prompt h).one
  rw [State.waiting, hsusp, Bool.true_or, if_pos rfl] at hone
  exact List.countP_pos_iff.mp (Nat.lt_of_lt_of_eq Nat.one_pos hone.symm)

/-- With Wi-Fi up `DS1302_getClock` creates a task; it is about to suspend itself. -/
def createTask : List Act := .wifi true :: List.replicate 4 (.getClock true)

theorem wakeable_after_setDays :
    ∃ s, system.execute Prompt (boot halted)
        (createTask ++ .getClock true :: List.replicate 6 (.setClock 0 true tuesday.dateTime)) =
          some s ∧ s.suspended = true ∧ Wakeable s :=
  ⟨_, rfl, rfl, wakeable_of_prompt (Lib.System.reaches_of_execute
    (createTask ++ .getClock true :: List.replicate 6 (.setClock 0 true tuesday.dateTime))
    (.init ⟨halted, rfl⟩) rfl)⟩

/-- The task may be through before the sampler suspends itself, it may end in an endless
loop, and it may not have been created. -/
theorem not_wakeable :
    (¬ ∀ s, system.Reachable s → (∀ c ∈ s.tasks, c.pc ≠ .stopped) → Wakeable s) ∧
    (¬ ∀ s, system.Reachable s → (∃ c ∈ s.tasks, c.pc = .stopped) → Wakeable s) ∧
    (¬ ∀ s, system.Reachable s → s.tasks = [] → Wakeable s) := by
  have hboot : system.Reachable (boot halted) := .init ⟨halted, rfl⟩
  refine ⟨fun h => ?_, fun h => ?_, fun h => ?_⟩
  · have hrun : ∃ s, system.Reachable s ∧ s.suspended = true ∧
        s.tasks = [⟨.deleted, tuesday.dateTime⟩] :=
      ⟨_, Lib.System.reaches_of_execute
        (createTask ++ List.replicate 8 (.setClock 0 true tuesday.dateTime) ++ [.getClock true])
        hboot rfl, rfl, rfl⟩
    obtain ⟨s, hs, hsusp, htasks⟩ := hrun
    obtain ⟨c, hc, hact⟩ := h s hs (by rw [htasks]; simp) hsusp
    rw [htasks, List.mem_singleton] at hc
    subst hc
    exact nomatch hact
  · have hrun : ∃ s, system.Reachable s ∧ s.suspended = true ∧
        s.tasks = [⟨.stopped, .zero⟩] :=
      ⟨_, Lib.System.reaches_of_execute
        (createTask ++ [.getClock true, .setClock 0 false .zero]) hboot rfl, rfl, rfl⟩
    obtain ⟨s, hs, hsusp, htasks⟩ := hrun
    obtain ⟨c, hc, hact⟩ := h s hs (by rw [htasks]; simp) hsusp
    rw [htasks, List.mem_singleton] at hc
    subst hc
    exact nomatch hact
  · have hrun : ∃ s, system.Reachable s ∧ s.suspended = true ∧ s.tasks = [] :=
      ⟨_, Lib.System.reaches_of_execute
        (.wifi true :: List.replicate 3 (.getClock true) ++ [.getClock false, .getClock true])
        hboot rfl, rfl, rfl⟩
    obtain ⟨s, hs, hsusp, htasks⟩ := hrun
    obtain ⟨c, hc, -⟩ := h s hs htasks hsusp
    rw [htasks] at hc
    cases hc

end Datk.Rtc.Sync
