import Datk.Rtc.Sync

/-!
# One synchronisation a day

`number_of_days` is to hold the day of the week of the last synchronisation, so
that `DS1302_getClock` asks for the next one when the clock shows another day.
`DS1302_setClock` does write that day.  But the sampler, once it is resumed,
overwrites it with the day it read before the synchronisation it asked for.

The system is the one of `Datk.Rtc.Sync` with reads that fail, which zero the
date-time, and with the history of the tests: from the first completed
synchronisation on, every test made with Wi-Fi up is recorded.  A test is right if
it asks for a synchronisation exactly when a successful read shows another day
than the last completed synchronisation.  `decisions_right_iff` says which tests
are right, in every run.
-/

namespace Datk.Rtc.Daily

open Sync

/-- A test of the date made with Wi-Fi up. -/
structure Decision where
  /-- The day of the week that the last completed synchronisation wrote. -/
  synced : Nat
  /-- The one that `DS1302_getClock` had read before it asked for that one. -/
  before : Nat
  /-- The read of this iteration succeeded, -/
  ok : Bool
  /-- and this is the day of the week it left in `dt`. -/
  day : Nat
  /-- The test leads to a call of `xTaskCreate`. -/
  created : Bool
  deriving DecidableEq, Repr

/-- **One synchronisation a day.** -/
def Decision.Right (e : Decision) : Prop := e.created = true ↔ e.ok = true ∧ e.day ≠ e.synced

/-- The day read before the last synchronisation leads to the same answer as the
day it wrote. -/
def Decision.Agrees (e : Decision) : Prop :=
  if e.ok then e.before = e.synced ∨ (e.day ≠ e.before ∧ e.day ≠ e.synced) else e.before = 0

instance (e : Decision) : Decidable e.Right := inferInstanceAs (Decidable (_ ↔ _))

instance (e : Decision) : Decidable e.Agrees := by unfold Decision.Agrees; infer_instance

structure State where
  sync : Sync.State
  ok : Bool
  before : Nat
  synced : Option Nat
  decisions : List Decision
  deriving DecidableEq, Repr

def boot (r : Registers) : State where
  sync := Sync.boot r
  ok := false
  before := 0
  synced := none
  decisions := []

inductive Act
  | sync (a : Sync.Act)
  /-- `DS1302_getDateTime` of `DS1302_getClock` reads bits that its range check
  rejects, whatever the registers hold. -/
  | failRead
  deriving DecidableEq, Repr

/-- The test that `s` is at, if it is to be recorded. -/
def State.decision (s : State) (created : Bool) : List Decision :=
  match s.synced with
  | some day =>
    if s.sync.stateWifi = 1 then [⟨day, s.before, s.ok, s.sync.dt.dayWeek.toNat, created⟩] else []
  | none => []

/-- The statement `a` takes `s.sync` to `c`: what goes on record. -/
def record (s : State) (c : Sync.State) : Sync.Act → State
  | .getClock _ =>
    match s.sync.pc with
    | .getDateTime => { s with sync := c, ok := (getDateTime s.sync.rtc).1 }
    | .test => { s with sync := c, decisions := s.decisions ++ s.decision (c.pc = .create) }
    | .create => { s with sync := c, before := s.sync.dt.dayWeek.toNat }
    | _ => { s with sync := c }
  | .setClock i _ _ =>
    match s.sync.tasks[i]? with
    | some ⟨.setDays, dt⟩ => { s with sync := c, synced := some dt.dayWeek.toNat }
    | _ => { s with sync := c }
  | .wifi _ => { s with sync := c }
  | .rtc _ => { s with sync := c }

def step (s : State) : Act → Option State
  | .sync a => (Sync.step s.sync a).map fun c => record s c a
  | .failRead =>
    if s.sync.suspended ∨ s.sync.pc ≠ .getDateTime then none
    else some { s with sync := { s.sync with pc := .test, dt := .zero }, ok := false }

def system : Lib.System State Act where
  Init s := ∃ r, s = boot r
  step := step

/-! ### What `number_of_days` holds -/

/-- Once a synchronisation is complete, `number_of_days` is the day read before it
whenever the sampler is awake and past its own assignment. -/
structure Overwritten (s : State) : Prop where
  /-- A task is active only while the sampler waits for one. -/
  one : s.sync.active ≤ if s.sync.waiting then 1 else 0
  asleep : s.sync.suspended = true → s.sync.pc = .setDays
  days : s.synced.isSome → s.sync.waiting = false → s.sync.pc ≠ .setDays →
    s.sync.numberOfDays = s.before
  kept : s.sync.pc = .suspend ∨ s.sync.pc = .setDays → s.before = s.sync.dt.dayWeek.toNat
  failed : s.ok = false → s.sync.dt = .zero

theorem overwritten_boot (r : Registers) : Overwritten (boot r) where
  one := Nat.le_refl 0
  asleep := nofun
  days := nofun
  kept := by rintro (h | h) <;> cases h
  failed := fun _ => rfl

namespace Overwritten

variable {s s' : State}

/-- While an active task is left, the sampler waits. -/
theorem waiting (h : Overwritten s) {i : Nat} {c : SetClock} (hc : s.sync.tasks[i]? = some c)
    (hact : c.pc.active = true) : s.sync.waiting = true ∧ s.sync.active = 1 := by
  have hpos : 0 < s.sync.active :=
    List.countP_pos_iff.mpr ⟨c, List.mem_of_getElem? hc, hact⟩
  have hone := h.one
  cases hw : s.sync.waiting with
  | true =>
    rw [hw, if_pos rfl] at hone
    exact ⟨rfl, by omega⟩
  | false =>
    rw [hw, if_neg (by decide)] at hone
    omega

/-- A statement of an awake sampler between two that have a part in this. -/
theorem go (h : Overwritten s) (hrun : s.sync.suspended = false) (hpc : s.sync.pc ≠ .suspend)
    (hpc' : s.sync.pc ≠ .setDays) {p : GetClockPc} (hp : p ≠ .suspend) (hp' : p ≠ .setDays) :
    Overwritten { s with sync := { s.sync with pc := p } } where
  one := by
    have hone := h.one
    simp only [State.active, State.waiting, hrun, hpc, hp, decide_false, Bool.or_self] at hone ⊢
    exact hone
  asleep := fun hs => absurd (hrun.symm.trans hs) (by decide)
  days := fun hsome _ _ => h.days hsome (by simp [State.waiting, hrun, hpc]) hpc'
  kept := by rintro (h | h) <;> contradiction
  failed := h.failed

theorem read (h : Overwritten s) (hrun : s.sync.suspended = false)
    (hpc : s.sync.pc = .getDateTime) {ok : Bool} {d : DateTime} (hd : ok = false → d = .zero) :
    Overwritten { s with sync := { s.sync with pc := .test, dt := d }, ok := ok } :=
  { h.go hrun (by simp [hpc]) (by simp [hpc]) (p := .test) (by simp) (by simp) with
    kept := by rintro (h | h) <;> cases h
    failed := hd }

theorem getClock {ok : Bool} {c : Sync.State} (h : Overwritten s)
    (hrun : s.sync.suspended = false) (hs : getClock s.sync ok = some c) :
    Overwritten (record s c (.getClock ok)) := by
  unfold Sync.getClock at hs
  cases hpc : s.sync.pc with
  | stopped => simp [hpc] at hs
  | begin =>
    simp only [hpc, Option.some.injEq] at hs
    subst hs
    have hgo := h.go hrun (by simp [hpc]) (by simp [hpc])
      (p := if ok then .getDateTime else .stopped) (by split <;> simp) (by split <;> simp)
    simp only [record, hpc]
    exact { hgo with }
  | getDateTime =>
    simp only [hpc, Option.some.injEq] at hs
    subst hs
    simp only [record, hpc]
    refine h.read hrun hpc fun hfail => ?_
    unfold Rtc.getDateTime at hfail ⊢
    split at hfail
    · rw [if_pos ‹_›]
    · cases hfail
  | test =>
    simp only [hpc, Option.some.injEq] at hs
    subst hs
    have hgo := fun p => h.go hrun (by simp [hpc]) (by simp [hpc]) (p := p)
    simp only [record, hpc]
    exact { hgo _ (by split <;> simp) (by split <;> simp) with }
  | create =>
    simp only [hpc, Option.some.injEq] at hs
    subst hs
    have hone := h.one
    rw [show s.sync.waiting = false by simp [State.waiting, hrun, hpc], if_neg (by decide)] at hone
    simp only [record, hpc]
    refine ⟨?_, fun hs => absurd (hrun.symm.trans hs) (by decide), ?_, fun _ => rfl, h.failed⟩
    · rw [State.active] at hone
      simp only [State.active, State.waiting, List.countP_append, Nat.le_zero.mp hone, hrun]
      cases ok <;> decide
    · intro _ hw
      simp [State.waiting] at hw
  | suspend =>
    simp only [hpc, Option.some.injEq] at hs
    subst hs
    have hone := h.one
    rw [show s.sync.waiting = true by simp [State.waiting, hpc]] at hone
    simp only [record, hpc]
    refine ⟨?_, fun _ => rfl, ?_, fun _ => h.kept (.inl hpc), h.failed⟩
    · simpa [State.active, State.waiting] using hone
    · intro _ hw
      simp [State.waiting] at hw
  | setDays =>
    simp only [hpc, Option.some.injEq] at hs
    subst hs
    have hone := h.one
    simp only [State.active, State.waiting, hrun, hpc] at hone
    simp only [record, hpc]
    refine ⟨by simpa [State.active, State.waiting, hrun] using hone,
      fun hs => absurd (hrun.symm.trans hs) (by decide), ?_, ?_, h.failed⟩
    · intro _ _ _
      exact congrArg Nat.cast (h.kept (.inr hpc)).symm
    · rintro (h | h) <;> cases h
  | sample =>
    simp only [hpc, Option.some.injEq] at hs
    subst hs
    have hgo := h.go hrun (by simp [hpc]) (by simp [hpc]) (p := .getDateTime) (by simp) (by simp)
    simp only [record, hpc]
    exact hgo

/-- A statement of an active task, seen by the sampler that waits for it. -/
theorem keep (h : Overwritten s) {i : Nat} {c : SetClock} (c' : SetClock)
    (hc : s.sync.tasks[i]? = some c)
    (hact : c'.pc.active = true → c.pc.active = true) :
    (s.sync.tasks.set i c').countP (fun c => c.pc.active) ≤ if s.sync.waiting then 1 else 0 := by
  have hset := active_set c' hc
  have hle : (if c'.pc.active then 1 else 0) ≤ (if c.pc.active then 1 else 0) := by
    cases hc' : c'.pc.active with
    | true => rw [hact hc']
    | false => exact Nat.zero_le _
  have hone := h.one
  omega

theorem setClock {i : Nat} {c : SetClock} {ok : Bool} {now : DateTime} {t : Sync.State}
    (h : Overwritten s) (hc : s.sync.tasks[i]? = some c)
    (hs : setClock s.sync i c ok now = some t) :
    Overwritten (record s t (.setClock i ok now)) := by
  unfold Sync.setClock at hs
  cases hpc : c.pc with
  | stopped | deleted => simp [hpc] at hs
  | setDays =>
    simp only [hpc, Option.some.injEq] at hs
    subst hs
    have hwait := (h.waiting hc (by rw [hpc]; rfl)).1
    obtain ⟨_, dt⟩ := c
    subst hpc
    simp only [record, hc]
    refine { h with one := h.keep _ hc fun _ => rfl, days := fun _ hw => ?_ }
    exact absurd (hwait.symm.trans hw) (by decide)
  | resume =>
    simp only [hpc, Option.some.injEq] at hs
    subst hs
    have hone := (h.waiting hc (by rw [hpc]; rfl)).2
    have hset := active_set { c with pc := .delete } hc
    rw [hone, if_pos (show c.pc.active = true by rw [hpc]; rfl)] at hset
    have hnone := Nat.add_right_cancel hset
    obtain ⟨_, dt⟩ := c
    subst hpc
    simp only [record, hc]
    refine { h with one := ?_, asleep := nofun, days := fun hsome hw hp => ?_ }
    · rw [State.active]
      exact Nat.le_trans (Nat.le_of_eq hnone) (Nat.zero_le _)
    · refine h.days hsome ?_ hp
      have hpc : s.sync.pc ≠ .suspend := by simpa [State.waiting] using hw
      have hrun : s.sync.suspended = false := by
        by_contra hsusp
        exact hp (h.asleep (by simpa using hsusp))
      simp [State.waiting, hrun, hpc]
  | _ =>
    simp only [hpc, Option.some.injEq] at hs
    subst hs
    have hkeep := fun c' => h.keep c' hc
    obtain ⟨_, dt⟩ := c
    subst hpc
    simp only [record, hc]
    exact { h with one := hkeep _ (by simp [SetClockPc.active]) }

theorem step {a : Act} (h : Overwritten s) (hs : step s a = some s') : Overwritten s' := by
  cases a with
  | failRead =>
    obtain ⟨hok, hs⟩ := Option.ite_none_left_eq_some.mp hs
    simp only [not_or, not_not] at hok
    cases hs
    exact h.read (by simpa using hok.1) hok.2 fun _ => rfl
  | sync a =>
    obtain ⟨c, hc, rfl⟩ := Option.map_eq_some_iff.mp hs
    cases a with
    | wifi up =>
      cases hc
      exact { h with }
    | rtc r =>
      cases hc
      exact { h with }
    | getClock ok =>
      simp only [Sync.step] at hc
      split at hc
      · exact absurd hc (by simp)
      · rename_i hrun
        exact h.getClock (by simpa using hrun) hc
    | setClock i ok now =>
      obtain ⟨t, ht, hc⟩ := Option.bind_eq_some_iff.mp hc
      exact h.setClock ht hc

end Overwritten

theorem overwritten_of_reachable {s : State} (h : system.Reachable s) : Overwritten s := by
  refine h.invariant ?_ fun _ _ _ ho _ hs => ho.step hs
  rintro _ ⟨r, rfl⟩
  exact overwritten_boot r

/-! ### Which tests are right -/

/-- A recorded test compared with `before` alone, and a failed read left a zero. -/
structure Decision.Made (e : Decision) : Prop where
  created_iff : e.created = true ↔ e.day ≠ e.before
  failed : e.ok = false → e.day = 0

theorem Decision.Made.right_iff {e : Decision} (h : e.Made) : e.Right ↔ e.Agrees := by
  rw [Right, Agrees, h.created_iff]
  cases hok : e.ok with
  | true =>
    simp only [if_true, true_and]
    omega
  | false =>
    rw [h.failed hok]
    simp only [Bool.false_eq_true, if_false, false_and, iff_false, not_not]
    exact eq_comm

theorem made_of_test {s : State} (h : Overwritten s) (hrun : s.sync.suspended = false)
    (hpc : s.sync.pc = .test) {c : Sync.State} {ok : Bool} (hs : getClock s.sync ok = some c) :
    ∀ e ∈ s.decision (c.pc = .create), e.Made := by
  intro e he
  unfold State.decision at he
  split at he
  · rename_i day hday
    split at he
    · rename_i hwifi
      cases List.mem_singleton.mp he
      have hdays : s.sync.numberOfDays = s.before :=
        h.days (by rw [hday]; rfl) (by simp [State.waiting, hrun, hpc]) (by simp [hpc])
      refine ⟨?_, fun hfail => ?_⟩
      · simp only [getClock, hpc, Option.some.injEq] at hs
        subst hs
        simp only [hwifi, and_true, hdays, decide_eq_true_eq]
        split <;> rename_i htest <;> simp <;> omega
      · have hzero := h.failed hfail
        show s.sync.dt.dayWeek.toNat = 0
        rw [hzero]
        rfl
    · cases he
  · cases he

theorem decisions_step {s s' : State} {a : Act} (h : Overwritten s)
    (hmade : ∀ e ∈ s.decisions, e.Made) (hs : step s a = some s') :
    ∀ e ∈ s'.decisions, e.Made := by
  cases a with
  | failRead =>
    obtain ⟨-, hs⟩ := Option.ite_none_left_eq_some.mp hs
    cases hs
    exact hmade
  | sync a =>
    obtain ⟨c, hc, rfl⟩ := Option.map_eq_some_iff.mp hs
    cases a with
    | wifi up => exact hmade
    | rtc r => exact hmade
    | getClock ok =>
      simp only [Sync.step] at hc
      split at hc
      · exact absurd hc (by simp)
      · rename_i hrun
        cases hpc : s.sync.pc with
        | test =>
          simp only [record, hpc]
          exact List.forall_mem_append.mpr ⟨hmade, made_of_test h (by simpa using hrun) hpc hc⟩
        | _ =>
          simp only [record, hpc]
          exact hmade
    | setClock i ok now =>
      simp only [record]
      split
      · exact hmade
      · exact hmade

/-- **The tests that are right**: those where the day read before the last
synchronisation answers as the day it wrote would, and, after a failed read, those
where that day was zero as well. -/
theorem decisions_right_iff {s : State} (h : system.Reachable s) :
    (∀ e ∈ s.decisions, e.Right) ↔ ∀ e ∈ s.decisions, e.Agrees := by
  have hmade : ∀ e ∈ s.decisions, e.Made := by
    refine Lib.System.Reaches.invariant_with (Q := Overwritten)
      (P := fun s => ∀ e ∈ s.decisions, e.Made) (fun _ => overwritten_of_reachable) ?_
      (fun _ _ _ ho hm _ hs => decisions_step ho hm hs) h
    rintro _ ⟨r, rfl⟩ e he
    cases he
  exact forall₂_congr fun e he => (hmade e he).right_iff

/-- The sampler reads the clock, asks for a synchronisation to `now`, which
succeeds, and reads the clock again when it shows `later`. -/
def synchronise (now : DateTime) (later : Registers) : List Act :=
  List.replicate 5 (Act.sync (.getClock true)) ++
    List.replicate 8 (Act.sync (.setClock 0 true now)) ++
    [Act.sync (.getClock true), .sync (.getClock true), .sync (.rtc later), .sync (.getClock true),
      .sync (.getClock true)]

/-- Tuesday and Wednesday, on the clock. -/
def showsTuesday : Registers := setDateTime { halted with seconds := 0 } tuesday.dateTime

def wednesday : DateTime :=
  { tuesday.dateTime with dayWeek := 3, hour := 0, minute := 0, second := 1 }

def showsWednesday : Registers := setDateTime showsTuesday wednesday

/-- A clock that was right before its synchronisation. -/
theorem decisions_right_tuesday :
    ∃ s, system.Reachable s ∧ s.decisions = [⟨2, 2, true, 3, true⟩] ∧
      ((∀ e ∈ s.decisions, e.Right) ↔ ∀ e ∈ s.decisions, e.Agrees) := by
  have hrun : ∃ s, system.Reachable s ∧ s.decisions = [⟨2, 2, true, 3, true⟩] :=
    Lib.System.exists_of_execute
      (.sync (.wifi true) :: synchronise tuesday.dateTime showsWednesday)
      (s := boot showsTuesday) ⟨_, rfl⟩ (by decide +kernel)
  obtain ⟨s, hs, hdec⟩ := hrun
  exact ⟨s, hs, hdec, decisions_right_iff hs⟩

/-- The clock is left to run: its next date-time is valid and is of the same day of
the week or of the next one.  Wi-Fi does not go down. -/
def RunsOn (s : State) : Act → Prop
  | .sync (.rtc r) =>
    isHalted r = false ∧ ¬ r.decode.Rejected ∧
      (r.decode.dayWeek = s.sync.rtc.decode.dayWeek ∨
        r.decode.dayWeek.toNat = s.sync.rtc.decode.dayWeek.toNat % 7 + 1)
  | .sync (.wifi up) => up = true
  | _ => True

instance (s : State) : ∀ a, Decidable (RunsOn s a)
  | .sync (.rtc _) => inferInstanceAs (Decidable (_ ∧ _ ∧ _))
  | .sync (.wifi _) => inferInstanceAs (Decidable (_ = _))
  | .sync (.getClock _) | .sync (.setClock _ _ _) | .failRead => .isTrue trivial

/-- A clock that is a day behind, or a day ahead, is synchronised on a Tuesday: the
next test asks for another synchronisation on the same day, or for none on the
next. -/
theorem not_decisions_right :
    (¬ ∀ s, system.Reaches RunsOn s → ∀ e ∈ s.decisions, e.created = true →
      e.ok = true ∧ e.day ≠ e.synced) ∧
    (¬ ∀ s, system.Reaches RunsOn s → ∀ e ∈ s.decisions, e.ok = true ∧ e.day ≠ e.synced →
      e.created = true) := by
  refine ⟨fun h => ?_, fun h => ?_⟩
  · have hrun : ∃ s, system.Reaches RunsOn s ∧ s.decisions = [⟨2, 1, true, 2, true⟩] :=
      Lib.System.exists_of_execute
        (.sync (.wifi true) :: synchronise tuesday.dateTime showsTuesday)
        (s := boot { showsTuesday with dayWeek := 1 }) ⟨_, rfl⟩ (by decide +kernel)
    obtain ⟨s, hs, hdec⟩ := hrun
    exact absurd (h s hs ⟨2, 1, true, 2, true⟩ (by rw [hdec]; simp) rfl) (by decide)
  · have hrun : ∃ s, system.Reaches RunsOn s ∧ s.decisions = [⟨2, 3, true, 3, false⟩] :=
      Lib.System.exists_of_execute
        (.sync (.wifi true) :: synchronise tuesday.dateTime showsWednesday)
        (s := boot { showsTuesday with dayWeek := 3 }) ⟨_, rfl⟩ (by decide +kernel)
    obtain ⟨s, hs, hdec⟩ := hrun
    exact absurd (h s hs ⟨2, 3, true, 3, false⟩ (by rw [hdec]; simp) (by decide)) (by decide)

end Datk.Rtc.Daily
