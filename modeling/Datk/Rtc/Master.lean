import Datk.Rtc.Sync

/-!
# Who drives the wires of the clock

`DS1302_getClock` and the tasks `DS1302_setClock` that it creates use the same three
pins, without a lock.  The system is that of `Datk.Rtc.Sync` with the functions of the
driver taken apart: a task that enters a statement has what the statement does to the
wires before it, and carries that out one by one before the statement returns.

`sync_of_reachable` says that these runs are runs of `Datk.Rtc.Sync`.  In all of them a
task `DS1302_setClock` has its `vTaskResume` before it only while `DS1302_getClock` waits
(`Waits`), and nobody is on the wires but one such task, or `DS1302_getClock` while it
does not wait (`OnWires`).
-/

namespace Datk.Rtc.Master

open Sync (GetClockPc SetClockPc SetClock)

/-! ### What the driver does to the wires -/

inductive Wire
  /-- The pins are reset and set up in `DS1302_begin`. -/
  | pinReset
  | transferBegin
  | transferEnd
  deriving DecidableEq, Repr

def transfer : List Wire := [.transferBegin, .transferEnd]

def readClockRegister : List Wire := transfer

def writeClockRegister : List Wire := transfer

/-- The register is written if the halt bit `differs`. -/
def halt (differs : Bool) : List Wire :=
  readClockRegister ++ if differs then writeClockRegister else []

/-- The register is read for the log, and for the result. -/
def isHalted : List Wire := readClockRegister ++ readClockRegister

def isWriteProtected : List Wire := readClockRegister

def begin (differs : Bool) : List Wire := .pinReset :: halt differs ++ isHalted

def getDateTime : List Wire := transfer

def setDateTime : List Wire := readClockRegister ++ transfer

def getClockWires (differs : Bool) : GetClockPc → List Wire
  | .begin => begin differs
  | .getDateTime => getDateTime
  | _ => []

def setClockWires (differs : Bool) : SetClockPc → List Wire
  | .begin => begin differs
  | .setDateTime => setDateTime
  | .isWriteProtected => isWriteProtected
  | .isHalted => isHalted
  | _ => []

/-! ### The system -/

inductive Task
  | getClock
  | setClock (i : Nat)
  deriving DecidableEq, Repr

structure State where
  sync : Sync.State
  /-- What a task that is in a statement still has to do to the wires. -/
  calls : Task → Option (List Wire)

def boot (r : Registers) : State := ⟨Sync.boot r, fun _ => none⟩

/-- What the next statement of a task does to the wires. -/
def State.statement (s : State) (differs : Bool) : Task → Option (List Wire)
  | .getClock => if s.sync.suspended then none else some (getClockWires differs s.sync.pc)
  | .setClock i => s.sync.tasks[i]?.map fun c => setClockWires differs c.pc

inductive Act
  | wifi (up : Bool)
  | rtc (r : Registers)
  /-- The task enters its next statement. -/
  | call (t : Task) (differs : Bool)
  /-- The task does the next thing to the wires. -/
  | wire (t : Task)
  /-- The statement returns; a check of it succeeds if `ok`, and it finds the time `now`. -/
  | ret (t : Task) (ok : Bool) (now : DateTime)

/-- The statement that returns. -/
def Task.act (t : Task) (ok : Bool) (now : DateTime) : Sync.Act :=
  match t with
  | .getClock => .getClock ok
  | .setClock i => .setClock i ok now

def step (s : State) : Act → Option State
  | .wifi up => (Sync.step s.sync (.wifi up)).map fun sync => { s with sync := sync }
  | .rtc r => (Sync.step s.sync (.rtc r)).map fun sync => { s with sync := sync }
  | .call t differs =>
    if s.calls t = none then
      (s.statement differs t).map fun ops =>
        { s with calls := Function.update s.calls t (some ops) }
    else none
  | .wire t =>
    match s.calls t with
    | some (_ :: ops) => some { s with calls := Function.update s.calls t (some ops) }
    | _ => none
  | .ret t ok now =>
    if s.calls t = some [] then
      (Sync.step s.sync (t.act ok now)).map fun sync =>
        ⟨sync, Function.update s.calls t none⟩
    else none

def system : Lib.System State Act where
  Init s := ∃ r, s = boot r
  step := step

/-- The task is between `DS1302_transferBegin` and `DS1302_transferEnd`. -/
def State.Inside (s : State) (t : Task) : Prop := ∃ ops, s.calls t = some (.transferEnd :: ops)

/-- The task executes the pin reset of `DS1302_begin`. -/
def State.Resets (s : State) (t : Task) : Prop := ∃ ops, s.calls t = some (.pinReset :: ops)

/-- **The wires have one master at a time.** -/
structure OneMaster (s : State) : Prop where
  transfer : ∀ t t', s.Inside t → s.Inside t' → t = t'
  reset : ∀ t t', s.Resets t → ¬ s.Inside t'

/-! ### The handshake, whatever the checks say -/

/-- A task that will resume the sampler exists only while the sampler waits for it. -/
structure Waits (s : Sync.State) : Prop where
  active : s.active = 0 ∨ s.active = 1 ∧ s.waiting = true
  asleep : s.suspended = true → s.pc = .setDays

namespace Waits

variable {s s' : Sync.State}

theorem active_eq_zero (h : Waits s) (hs : s.waiting = false) : s.active = 0 := by
  rcases h.active with h | ⟨-, hwait⟩
  · exact h
  · exact absurd (hs.symm.trans hwait) (by decide)

theorem boot (r : Registers) : Waits (Sync.boot r) := ⟨.inl rfl, fun hs => by cases hs⟩

/-- A statement of the sampler that creates nothing, while it does not wait. -/
theorem go (h : Waits s) (hrun : s.suspended = false) (hpc : s.pc ≠ .suspend)
    (hactive : s'.active = s.active) (hrun' : s'.suspended = false) : Waits s' := by
  have hwait : s.waiting = false := by simp [Sync.State.waiting, hrun, hpc]
  refine ⟨.inl (hactive.trans (h.active_eq_zero hwait)), fun hs => ?_⟩
  exact absurd (hrun'.symm.trans hs) (by decide)

theorem getClock {ok : Bool} (h : Waits s) (hrun : s.suspended = false)
    (hs : Sync.getClock s ok = some s') : Waits s' := by
  unfold Sync.getClock at hs
  cases hpc : s.pc with
  | stopped => simp [hpc] at hs
  | create =>
    simp only [hpc, Option.some.injEq] at hs
    subst hs
    have hnone : s.active = 0 := h.active_eq_zero (by simp [Sync.State.waiting, hrun, hpc])
    rw [Sync.State.active] at hnone
    refine ⟨?_, fun hs => absurd (hrun.symm.trans hs) (by decide)⟩
    rw [Sync.State.active, List.countP_append, hnone]
    cases ok with
    | true => exact .inr ⟨rfl, by simp [Sync.State.waiting]⟩
    | false => exact .inl rfl
  | suspend =>
    simp only [hpc, Option.some.injEq] at hs
    subst hs
    refine ⟨?_, fun _ => rfl⟩
    exact h.active.imp_right fun h => ⟨h.1, rfl⟩
  | _ =>
    simp only [hpc, Option.some.injEq] at hs
    subst hs
    exact h.go hrun (by simp [hpc]) rfl hrun

/-- A statement of a task that keeps its `vTaskResume` before it, or behind it. -/
theorem keep (h : Waits s) {i : Nat} {c c' : SetClock} (hc : s.tasks[i]? = some c)
    (hact : c'.pc.active = c.pc.active) (htasks : s'.tasks = s.tasks.set i c')
    (hpc : s'.pc = s.pc) (hsusp : s'.suspended = s.suspended) : Waits s' := by
  have hset := Sync.active_set c' hc
  rw [hact] at hset
  have hactive : s'.active = s.active := by
    rw [Sync.State.active, htasks]
    exact Nat.add_right_cancel hset
  have hwait : s'.waiting = s.waiting := by rw [Sync.State.waiting, Sync.State.waiting, hpc, hsusp]
  refine ⟨?_, ?_⟩
  · rw [hactive, hwait]
    exact h.active
  · rw [hsusp, hpc]
    exact h.asleep

/-- The task that has its `vTaskResume` before it is the only one. -/
theorem stop (h : Waits s) {i : Nat} {c c' : SetClock} (hc : s.tasks[i]? = some c)
    (hact : c.pc.active = true) (hact' : c'.pc.active = false)
    (htasks : s'.tasks = s.tasks.set i c') (hpc : s'.pc = s.pc)
    (hsusp : s'.suspended = true → s.suspended = true) : Waits s' := by
  have hset := Sync.active_set c' hc
  rw [hact, hact', if_pos rfl, ← htasks] at hset
  have hle : s.active ≤ 1 := by
    rcases h.active with h | ⟨h, -⟩
    · omega
    · omega
  refine ⟨.inl ?_, fun hs => hpc.trans (h.asleep (hsusp hs))⟩
  show s'.tasks.countP _ = 0
  simp only [Bool.false_eq_true, if_false] at hset
  omega

theorem setClock {i : Nat} {c : SetClock} {ok : Bool} {now : DateTime} (h : Waits s)
    (hc : s.tasks[i]? = some c) (hs : Sync.setClock s i c ok now = some s') : Waits s' := by
  unfold Sync.setClock at hs
  cases hpc : c.pc with
  | stopped | deleted => simp [hpc] at hs
  | resume =>
    simp only [hpc, Option.some.injEq] at hs
    subst hs
    exact h.stop hc (by rw [hpc]; rfl) rfl rfl rfl fun hs => by cases hs
  | setDateTime | setDays | delete =>
    simp only [hpc, Option.some.injEq] at hs
    subst hs
    exact h.keep hc (by rw [hpc]; rfl) rfl rfl rfl
  | _ =>
    simp only [hpc, Option.some.injEq] at hs
    subst hs
    cases ok with
    | true => exact h.keep hc (by rw [hpc]; rfl) rfl rfl rfl
    | false => exact h.stop hc (by rw [hpc]; rfl) rfl rfl rfl id

theorem step {a : Sync.Act} (h : Waits s) (hs : Sync.step s a = some s') : Waits s' := by
  cases a with
  | wifi up =>
    cases hs
    exact ⟨h.active, h.asleep⟩
  | rtc r =>
    cases hs
    exact ⟨h.active, h.asleep⟩
  | getClock ok =>
    obtain ⟨hrun, hs⟩ := Option.ite_none_left_eq_some.mp hs
    exact h.getClock (by simpa using hrun) hs
  | setClock i ok now =>
    obtain ⟨c, hc, hs⟩ := Option.bind_eq_some_iff.mp hs
    exact h.setClock hc hs

/-- Two tasks that have their `vTaskResume` before them are one. -/
theorem eq_of_active (h : Waits s) {i j : Nat} {c d : SetClock} (hc : s.tasks[i]? = some c)
    (hd : s.tasks[j]? = some d) (hact : c.pc.active = true) (hact' : d.pc.active = true) :
    i = j := by
  by_contra hne
  -- With task `i` stopped there would be none left, but task `j` is.
  have hset := Sync.active_set ⟨.stopped, .zero⟩ hc
  have hidle : SetClockPc.stopped.active = false := rfl
  simp only [hact, hidle, if_true, Bool.false_eq_true, if_false] at hset
  have hmem : d ∈ s.tasks.set i ⟨.stopped, .zero⟩ := by
    apply List.mem_of_getElem? (i := j)
    rw [List.getElem?_set_ne hne]
    exact hd
  have hpos := List.countP_pos_iff (p := fun c : SetClock => c.pc.active).mpr ⟨d, hmem, hact'⟩
  rcases h.active with h | ⟨h, -⟩
  · omega
  · omega

end Waits

/-! ### Who is on the wires -/

variable {s s' : State}

theorem wire_eq_some {t : Task} (hs : step s (.wire t) = some s') :
    ∃ op ops, s.calls t = some (op :: ops) ∧
      s' = { s with calls := Function.update s.calls t (some ops) } := by
  simp only [step] at hs
  split at hs
  · rename_i op ops hcall
    exact ⟨op, ops, hcall, (Option.some.inj hs).symm⟩
  · cases hs

/-- A step changes the tasks only when a statement returns, as `Datk.Rtc.Sync` has it. -/
theorem sync_step {a : Act} (hs : step s a = some s') :
    s'.sync = s.sync ∨ ∃ b, Sync.step s.sync b = some s'.sync := by
  cases a with
  | wifi up =>
    cases hs
    exact .inr ⟨.wifi up, rfl⟩
  | rtc r =>
    cases hs
    exact .inr ⟨.rtc r, rfl⟩
  | call t differs =>
    obtain ⟨-, hs⟩ := Option.ite_none_right_eq_some.mp hs
    obtain ⟨ops, -, rfl⟩ := Option.map_eq_some_iff.mp hs
    exact .inl rfl
  | wire t =>
    obtain ⟨op, ops, -, rfl⟩ := wire_eq_some hs
    exact .inl rfl
  | ret t ok now =>
    obtain ⟨-, hs⟩ := Option.ite_none_right_eq_some.mp hs
    obtain ⟨u, hu, rfl⟩ := Option.map_eq_some_iff.mp hs
    exact .inr ⟨_, hu⟩

/-- **A run with the driver taken apart is a run of the tasks.** -/
theorem sync_of_reachable (h : system.Reachable s) : Sync.system.Reachable s.sync := by
  induction h with
  | init h0 =>
    obtain ⟨r, rfl⟩ := h0
    exact .init ⟨r, rfl⟩
  | step _ _ hs ih =>
    rcases sync_step hs with heq | ⟨b, hb⟩
    · rw [heq]
      exact ih
    · exact ih.step trivial hb

theorem waits_of_reachable (h : system.Reachable s) : Waits s.sync := by
  refine (sync_of_reachable h).invariant ?_ fun _ _ _ hw _ hs => hw.step hs
  rintro _ ⟨r, rfl⟩
  exact Waits.boot r

/-- The statement the task is at is one that uses the wires. -/
def OnWires (s : Sync.State) : Task → Prop
  | .getClock => s.waiting = false
  | .setClock i => ∃ c, s.tasks[i]? = some c ∧ c.pc.active = true

/-- Who still has something to do to the wires is at a statement that uses them. -/
def Placed (s : State) : Prop := ∀ t op ops, s.calls t = some (op :: ops) → OnWires s.sync t

theorem active_of_setClockWires {differs : Bool} {pc : SetClockPc}
    (h : setClockWires differs pc ≠ []) : pc.active = true := by
  cases pc with
  | stopped | deleted | delete => exact absurd rfl h
  | _ => rfl

theorem onWires_of_statement {t : Task} {differs : Bool} {op : Wire} {ops : List Wire}
    (h : s.statement differs t = some (op :: ops)) : OnWires s.sync t := by
  cases t with
  | getClock =>
    obtain ⟨hrun, hops⟩ := Option.ite_none_left_eq_some.mp h
    show (s.sync.suspended || _) = false
    cases hpc : s.sync.pc with
    | begin | getDateTime => simpa using hrun
    | _ => simp [getClockWires, hpc] at hops
  | setClock i =>
    obtain ⟨c, hc, hops⟩ := Option.map_eq_some_iff.mp h
    have hne : setClockWires differs c.pc ≠ [] := by
      rw [hops]
      exact List.cons_ne_nil _ _
    exact ⟨c, hc, active_of_setClockWires hne⟩

/-- A statement of the sampler leaves the tasks that there are alone. -/
theorem tasks_getClock {s u : Sync.State} {ok : Bool} (hs : Sync.getClock s ok = some u) :
    ∃ new, u.tasks = s.tasks ++ new := by
  unfold Sync.getClock at hs
  cases hpc : s.pc with
  | stopped => simp [hpc] at hs
  | create =>
    simp only [hpc, Option.some.injEq] at hs
    subst hs
    exact ⟨_, rfl⟩
  | _ =>
    simp only [hpc, Option.some.injEq] at hs
    subst hs
    exact ⟨[], (List.append_nil _).symm⟩

/-- A statement of a task leaves the other tasks alone, and does not suspend the sampler. -/
theorem tasks_setClock {s u : Sync.State} {i : Nat} {c : SetClock} {ok : Bool} {now : DateTime}
    (hs : Sync.setClock s i c ok now = some u) :
    (∃ c', u.tasks = s.tasks.set i c') ∧ (s.waiting = false → u.waiting = false) := by
  unfold Sync.setClock at hs
  cases hpc : c.pc with
  | stopped | deleted => simp [hpc] at hs
  | resume =>
    simp only [hpc, Option.some.injEq] at hs
    subst hs
    refine ⟨⟨_, rfl⟩, fun hwait => ?_⟩
    exact (Bool.or_eq_false_iff.mp hwait).2
  | _ =>
    simp only [hpc, Option.some.injEq] at hs
    subst hs
    exact ⟨⟨_, rfl⟩, id⟩

/-- What another task does leaves a task on its statement. -/
theorem OnWires.frame {t t' : Task} {ok : Bool} {now : DateTime} {u : Sync.State}
    (h : OnWires s.sync t) (hne : t ≠ t') (hs : Sync.step s.sync (t'.act ok now) = some u) :
    OnWires u t := by
  cases t' with
  | getClock =>
    obtain ⟨-, hs⟩ := Option.ite_none_left_eq_some.mp hs
    obtain ⟨new, hnew⟩ := tasks_getClock hs
    cases t with
    | getClock => exact absurd rfl hne
    | setClock i =>
      obtain ⟨c, hc, hact⟩ := h
      refine ⟨c, ?_, hact⟩
      rw [hnew, List.getElem?_append_left (List.getElem?_eq_some_iff.mp hc).1]
      exact hc
  | setClock j =>
    obtain ⟨d, -, hs⟩ := Option.bind_eq_some_iff.mp hs
    obtain ⟨⟨c', hset⟩, hwait⟩ := tasks_setClock hs
    cases t with
    | getClock => exact hwait h
    | setClock i =>
      obtain ⟨c, hc, hact⟩ := h
      refine ⟨c, ?_, hact⟩
      rw [hset, List.getElem?_set_ne fun heq => hne (congrArg Task.setClock heq.symm)]
      exact hc

namespace Placed

theorem boot (r : Registers) : Placed (boot r) := by
  intro t op ops hcall
  cases hcall

theorem step {a : Act} (h : Placed s) (hs : Master.step s a = some s') : Placed s' := by
  intro t op ops hcall
  cases a with
  | wifi up | rtc r =>
    cases hs
    have hon := h t op ops hcall
    cases t with
    | getClock => exact hon
    | setClock i => exact hon
  | call t' differs =>
    obtain ⟨-, hs⟩ := Option.ite_none_right_eq_some.mp hs
    obtain ⟨ops', hstatement, rfl⟩ := Option.map_eq_some_iff.mp hs
    by_cases heq : t = t'
    · subst heq
      simp only [Function.update_self] at hcall
      cases hcall
      exact onWires_of_statement hstatement
    · simp only [Function.update_of_ne heq] at hcall
      exact h t op ops hcall
  | wire t' =>
    obtain ⟨op', ops', hcall', rfl⟩ := wire_eq_some hs
    by_cases heq : t = t'
    · subst heq
      exact h t op' ops' hcall'
    · simp only [Function.update_of_ne heq] at hcall
      exact h t op ops hcall
  | ret t' ok now =>
    obtain ⟨-, hs⟩ := Option.ite_none_right_eq_some.mp hs
    obtain ⟨u, hu, rfl⟩ := Option.map_eq_some_iff.mp hs
    by_cases heq : t = t'
    · subst heq
      simp only [Function.update_self] at hcall
      cases hcall
    · simp only [Function.update_of_ne heq] at hcall
      exact (h t op ops hcall).frame heq hu

end Placed

theorem placed_of_reachable (h : system.Reachable s) : Placed s := by
  refine h.invariant ?_ fun _ _ _ hp _ hs => hp.step hs
  rintro _ ⟨r, rfl⟩
  exact Placed.boot r

/-- **Nobody else is on the wires.** -/
theorem eq_of_onWires {t t' : Task} (hw : Waits s.sync) (h : OnWires s.sync t)
    (h' : OnWires s.sync t') : t = t' := by
  have hother : ∀ {i}, OnWires s.sync .getClock → ¬ OnWires s.sync (.setClock i) := by
    rintro i hget ⟨c, hc, hact⟩
    have hnone := hw.active_eq_zero hget
    have hpos := List.countP_pos_iff (p := fun c : SetClock => c.pc.active).mpr
      ⟨c, List.mem_of_getElem? hc, hact⟩
    exact Nat.lt_irrefl 0 (Nat.lt_of_lt_of_eq hpos hnone)
  cases t with
  | getClock =>
    cases t' with
    | getClock => rfl
    | setClock j => exact absurd h' (hother h)
  | setClock i =>
    cases t' with
    | getClock => exact absurd h (hother h')
    | setClock j =>
      obtain ⟨c, hc, hact⟩ := h
      obtain ⟨d, hd, hact'⟩ := h'
      rw [hw.eq_of_active hc hd hact hact']

/-- **The wires have one master at a time**, in every run. -/
theorem oneMaster_of_reachable (h : system.Reachable s) : OneMaster s := by
  have hw := waits_of_reachable h
  have hp := placed_of_reachable h
  constructor
  · rintro t t' ⟨ops, hcall⟩ ⟨ops', hcall'⟩
    exact eq_of_onWires hw (hp _ _ _ hcall) (hp _ _ _ hcall')
  · rintro t t' ⟨ops, hcall⟩ ⟨ops', hcall'⟩
    have heq := eq_of_onWires hw (hp _ _ _ hcall) (hp _ _ _ hcall')
    rw [heq, hcall'] at hcall
    cases hcall

/-- The sampler in the first transfer of `DS1302_begin`. -/
theorem oneMaster_begin : ∃ s, system.Reachable s ∧ s.Inside .getClock ∧ OneMaster s := by
  have hrun : ∃ s, system.Reachable s ∧
      s.calls .getClock = some (.transferEnd :: (transfer ++ transfer)) :=
    Lib.System.exists_of_execute [.call .getClock false, .wire .getClock, .wire .getClock]
      (s := boot halted) ⟨halted, rfl⟩ (by decide)
  obtain ⟨s, hs, hcall⟩ := hrun
  exact ⟨s, hs, ⟨_, hcall⟩, oneMaster_of_reachable hs⟩

end Datk.Rtc.Master
