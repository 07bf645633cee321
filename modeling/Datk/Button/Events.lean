import Datk.Button.Press
import Datk.Lib.System
import Datk.Lib.Timer

/-!
# Button events

`gpio_input_handler` starts the timer of the button when it reads level 0, and stops it
and calls `input_event_callback` when it reads another one.  It has the level to go by
and nothing else: the level may have changed back before it is read, or may be the same
as at the last interrupt.  The timer is one of the timer task's, behind its queue of
commands, and after 3000 ms calls `timer_event_callback`, which orders an update.

`log` is what happened, newest first.  `Lawful` says that it makes sense: a release ends
a press, an update is ordered while the button is down and has been for 3000 ms, and no
press gives both an update and a short-press event.  `lawful_of_orderly` has this of the
runs in which each release follows a press, the timer task is neither too late nor too
far behind to hear of it, and no press that has ordered an update ends as a short one.
-/

namespace Datk.Button.Events

open Lib

/-- `CONFIG_FREERTOS_TIMER_QUEUE_LENGTH`. -/
def timerQueueLength : Nat := 10

/-- `3000 / portTICK_RATE_MS`. -/
def timerPeriod : Nat := 300

inductive Event
  /-- The handler read level 0, at tick `t`. -/
  | press (t : Nat)
  /-- It called `input_callback`, which set the bit `e`. -/
  | release (t : Nat) (e : Option PressEvent)
  /-- `timer_event_callback` ran. -/
  | update (t : Nat)
  deriving DecidableEq, Repr

structure State where
  tick : Nat
  ticks : Ticks
  timer : OneShot
  log : List Event
  deriving DecidableEq, Repr

def boot : State := ⟨0, ⟨0, 0, 0⟩, .idle, []⟩

inductive Act
  | advance (n : Nat)
  /-- `gpio_input_handler`, where `gpio_get_level` returns `level`. -/
  | handler (level : Int)
  /-- A command that is about another timer enters the queue. -/
  | command
  | poll
  | take
  | callback
  deriving DecidableEq

/-- The calls of the handler.  `xEventGroupSetBitsFromISR` goes through the queue of the
timer task. -/
def State.call (s : State) : Call → State
  | .timerStart => { s with
      timer := s.timer.post timerQueueLength (.start s.tick), log := .press s.tick :: s.log }
  | .timerStop => { s with timer := s.timer.post timerQueueLength .stop }
  | .inputCallback pin pressTick =>
    let e := inputEventCallback pin pressTick
    { s with
      timer := if e = none then s.timer else s.timer.post timerQueueLength .other
      log := .release s.tick e :: s.log }

def State.handle (s : State) (level : Int) : State :=
  let (ticks, calls) := gpioInputHandler gpioNum0 level (.ofNat 32 s.tick) s.ticks
  calls.foldl State.call { s with ticks := ticks }

def step (s : State) : Act → Option State
  | .advance n => some { s with tick := s.tick + n }
  | .handler level => some (s.handle level)
  | .command => some { s with timer := s.timer.post timerQueueLength .other }
  | .poll => (s.timer.poll timerPeriod s.tick).map fun o => { s with timer := o }
  | .take => (s.timer.take timerPeriod s.tick).map fun o => { s with timer := o }
  | .callback =>
    if s.timer.pc.due ≠ [] then
      some { s with timer := s.timer.returned, log := .update s.tick :: s.log }
    else none

def system : System State Act where
  Init s := s = boot
  step := step

/-! ### What the log says -/

/-- The tick at which the button was first seen down since it was last seen up. -/
def held : List Event → Option Nat
  | [] => none
  | .press t :: l => some ((held l).getD t)
  | .release _ _ :: _ => none
  | .update _ :: l => held l

/-- An update was ordered since the button was last seen up. -/
def Updated : List Event → Prop
  | [] => False
  | .press _ :: l => Updated l
  | .release _ _ :: _ => False
  | .update _ :: _ => True

/-- The tick at which the button was last seen down. -/
def lastPress : List Event → Nat
  | [] => 0
  | .press t :: _ => t
  | .release _ _ :: l | .update _ :: l => lastPress l

instance decidableUpdated : ∀ l, Decidable (Updated l)
  | [] => .isFalse id
  | .press _ :: l => decidableUpdated l
  | .release _ _ :: _ => .isFalse id
  | .update _ :: _ => .isTrue trivial

/-- **One event a press.** -/
inductive Lawful : List Event → Prop
  | nil : Lawful []
  | press {l : List Event} (t : Nat) : Lawful l → Lawful (.press t :: l)
  | release {l : List Event} {e : Option PressEvent} (t : Nat) : Lawful l →
      (held l).isSome → ¬ (Updated l ∧ e = some .short) → Lawful (.release t e :: l)
  | update {l : List Event} {t₀ t : Nat} : Lawful l →
      held l = some t₀ → t₀ + timerPeriod ≤ t → Lawful (.update t :: l)

/-- The milliseconds since the button was last seen down, as an `int` has them. -/
def State.sincePressMs (s : State) : Int :=
  Int.bmod (10 * ((s.tick : Int) - lastPress s.log)) (2 ^ 32)

/-- The button is seen up only after it was seen down.  The command to stop the timer then
finds room in the queue, unless there is nothing to stop, and if the timer has run out
already, a second has passed since the button was last seen down.  The callback is called
only if no command to stop is waiting. -/
def Orderly (s : State) : Act → Prop
  | .handler level => level = 0 ∨
      (held s.log).isSome ∧ (s.timer.HasRoom timerQueueLength ∨ s.timer.live = []) ∧
        (Updated s.log → 1000 ≤ s.sincePressMs)
  | .callback => .stop ∉ s.timer.queue
  | _ => True

instance (s : State) : ∀ a, Decidable (Orderly s a)
  | .handler _ => inferInstanceAs (Decidable (_ ∨ _))
  | .callback => inferInstanceAs (Decidable (_ ∉ _))
  | .advance _ | .command | .poll | .take => .isTrue trivial

/-! ### The handler -/

section

variable {s s' : State} {a : Act}

theorem handle_press (s : State) : s.handle 0 = { s with
    ticks.start := (BitVec.ofNat 32 s.tick).setWidth 64
    timer := s.timer.post timerQueueLength (.start s.tick)
    log := .press s.tick :: s.log } := rfl

/-- What the handler does at a release. -/
structure Releases (s s' : State) (e : Option PressEvent) : Prop where
  tick : s'.tick = s.tick
  start : s'.ticks.start = s.ticks.start
  due : s.timer.Due timerPeriod s.tick → s'.timer.Due timerPeriod s.tick
  live : s.timer.HasRoom timerQueueLength ∨ s.timer.live = [] → s'.timer.live = []
  log : s'.log = .release s.tick e :: s.log

theorem releases_handle {level : Int} (hlevel : level ≠ 0) :
    Releases s (s.handle level) (inputEventCallback gpioNum0
      ((BitVec.ofNat 32 s.tick).setWidth 64 - s.ticks.start)) := by
  rw [State.handle, gpioInputHandler, if_neg hlevel]
  simp only [List.foldl_cons, List.foldl_nil, State.call]
  refine ⟨rfl, rfl, ?_, ?_, rfl⟩
  · intro hdue
    split
    · exact OneShot.due_post hdue
    · exact OneShot.due_post (OneShot.due_post hdue)
  · intro hroom
    split
    · exact OneShot.live_post_stop hroom
    · rw [OneShot.live_post_other]
      exact OneShot.live_post_stop hroom

/-- The milliseconds that the handler finds are those since the button was last seen down. -/
theorem pressTickMs_eq {t tick : Nat} (h : t ≤ tick) :
    pressTickMs ((BitVec.ofNat 32 tick).setWidth 64 - (BitVec.ofNat 32 t).setWidth 64) =
      Int.bmod (10 * ((tick : Int) - t)) (2 ^ 32) := by
  have hsub : (BitVec.ofNat 32 tick - BitVec.ofNat 32 t).toNat = (tick - t) % 2 ^ 32 := by
    rw [BitVec.toNat_sub, BitVec.toNat_ofNat, BitVec.toNat_ofNat]
    omega
  rw [pressTickMs_sub, hsub, Int.natCast_emod, Int.ofNat_sub h, ← Int.mul_bmod_bmod]
  exact (congrArg (fun x => Int.bmod (10 * x) (2 ^ 32)) (Int.emod_bmod _ (2 ^ 32))).trans
    Int.mul_bmod_bmod

/-! ### The runs -/

/-- The log is lawful, every start that the timer may run out on belongs to the press that
goes on, and `start` is the tick of the last press. -/
structure Inv (s : State) : Prop where
  lawful : Lawful s.log
  held_le : ∀ t₀, held s.log = some t₀ → t₀ ≤ s.tick
  lastPress_le : lastPress s.log ≤ s.tick
  start : s.ticks.start = (BitVec.ofNat 32 (lastPress s.log)).setWidth 64
  live : ∀ t ∈ s.timer.live, ∃ t₀, held s.log = some t₀ ∧ t₀ ≤ t
  due : s.timer.Due timerPeriod s.tick

theorem inv_boot : Inv boot where
  lawful := .nil
  held_le _ h := by cases h
  lastPress_le := Nat.le_refl 0
  start := rfl
  live _ h := by cases h
  due _ h := by cases h

theorem inv_press (h : Inv s) : Inv (s.handle 0) := by
  rw [handle_press]
  have hheld : held (.press s.tick :: s.log) = some ((held s.log).getD s.tick) := rfl
  have hle : (held s.log).getD s.tick ≤ s.tick := by
    cases ht : held s.log with
    | none => exact Nat.le_refl s.tick
    | some t₀ => exact h.held_le t₀ ht
  refine ⟨.press s.tick h.lawful, ?_, Nat.le_refl s.tick, rfl, ?_, OneShot.due_post h.due⟩
  · intro t₀ ht₀
    rw [hheld, Option.some.injEq] at ht₀
    exact ht₀ ▸ hle
  · intro t ht
    refine ⟨_, hheld, ?_⟩
    rcases List.mem_cons.mp (OneShot.live_post_start s.tick ht) with rfl | ht
    · exact hle
    · obtain ⟨t₀, ht₀, hle⟩ := h.live t ht
      rw [ht₀]
      exact hle

/-- A release leaves a lawful log exactly if it ends a press that is not a short one after
an update. -/
theorem lawful_handle_iff {level : Int} (h : Inv s) (hlevel : level ≠ 0) :
    Lawful (s.handle level).log ↔
      (held s.log).isSome ∧ (Updated s.log → 1000 ≤ s.sincePressMs) := by
  have hshort : inputEventCallback gpioNum0
      ((BitVec.ofNat 32 s.tick).setWidth 64 - s.ticks.start) = some .short ↔
        s.sincePressMs < 1000 := by
    rw [inputEventCallback_eq_short, h.start, pressTickMs_eq h.lastPress_le, State.sincePressMs]
  rw [(releases_handle hlevel).log]
  constructor
  · intro hlaw
    cases hlaw with
    | release _ _ hheld hone =>
      refine ⟨hheld, fun hupdated => ?_⟩
      by_contra hms
      exact hone ⟨hupdated, hshort.mpr (by omega)⟩
  · rintro ⟨hheld, hms⟩
    refine .release s.tick h.lawful hheld ?_
    rintro ⟨hupdated, he⟩
    have hlt := hshort.mp he
    have hle := hms hupdated
    omega

theorem inv_release {level : Int} (h : Inv s) (hlevel : level ≠ 0)
    (hok : Orderly s (.handler level)) : Inv (s.handle level) := by
  obtain ⟨hheld, hroom, hms⟩ := hok.resolve_left hlevel
  have hs := releases_handle (s := s) hlevel
  have hlaw := (lawful_handle_iff h hlevel).mpr ⟨hheld, hms⟩
  refine ⟨hlaw, ?_, ?_, ?_, ?_, ?_⟩
  · intro t₀ ht₀
    rw [hs.log] at ht₀
    cases ht₀
  · rw [hs.log, hs.tick]
    exact h.lastPress_le
  · rw [hs.log, hs.start]
    exact h.start
  · intro t ht
    rw [hs.live hroom] at ht
    cases ht
  · rw [hs.tick]
    exact hs.due h.due

/-- A step of the timer task that calls nothing. -/
theorem inv_timer {o : OneShot} (h : Inv s) (hlive : o.live ⊆ s.timer.live)
    (hdue : o.Due timerPeriod s.tick) : Inv { s with timer := o } :=
  { h with live := fun t ht => h.live t (hlive ht), due := hdue }

theorem inv_callback (h : Inv s) (hstop : .stop ∉ s.timer.queue) (hpc : s.timer.pc.due ≠ []) :
    Inv { s with timer := s.timer.returned, log := .update s.tick :: s.log } := by
  cases hcall : s.timer.pc with
  | poll | drain =>
    rw [hcall] at hpc
    exact absurd rfl hpc
  | call t =>
    obtain ⟨t₀, ht₀, hle⟩ := h.live t (OneShot.mem_live_of_call hcall hstop)
    have hdue := h.due t hcall
    exact {
      lawful := .update h.lawful ht₀ (by omega)
      held_le := h.held_le
      lastPress_le := h.lastPress_le
      start := h.start
      live := fun t ht => h.live t (OneShot.live_returned ht)
      due := fun t ht => by cases ht }

theorem inv_step (h : Inv s) (hok : Orderly s a) (hs : step s a = some s') : Inv s' := by
  cases a with
  | advance n =>
    cases hs
    exact { h with
      held_le := fun t₀ ht₀ => Nat.le_add_right_of_le (h.held_le t₀ ht₀)
      lastPress_le := Nat.le_add_right_of_le h.lastPress_le
      due := fun t ht => Nat.le_add_right_of_le (h.due t ht) }
  | handler level =>
    cases hs
    by_cases hlevel : level = 0
    · rw [hlevel]
      exact inv_press h
    · exact inv_release h hlevel hok
  | command =>
    cases hs
    refine inv_timer h ?_ (OneShot.due_post h.due)
    rw [OneShot.live_post_other]
    exact List.Subset.refl _
  | poll =>
    obtain ⟨o, ho, rfl⟩ := Option.map_eq_some_iff.mp hs
    exact inv_timer h (OneShot.live_poll ho) (OneShot.due_poll ho)
  | take =>
    obtain ⟨o, ho, rfl⟩ := Option.map_eq_some_iff.mp hs
    exact inv_timer h (OneShot.live_take ho) (OneShot.due_take ho)
  | callback =>
    obtain ⟨hpc, hs⟩ := Option.ite_none_right_eq_some.mp hs
    cases hs
    exact inv_callback h hok hpc

/-- **Every press gives one event**, in all orderly runs. -/
theorem lawful_of_orderly (h : system.Reaches Orderly s) : Lawful s.log := by
  refine (h.invariant (P := Inv) ?_ ?_).lawful
  · rintro _ rfl
    exact inv_boot
  · intro s a s' hinv hok hs
    exact inv_step hinv hok hs

end

/-- The button is held for three seconds, which orders an update, and let go. -/
theorem lawful_after_hold : ∃ s, system.Reaches Orderly s ∧
    s.log = [.release 310 (some .long), .update 300, .press 0] ∧ Lawful s.log := by
  have hrun : ∃ s, system.Reaches Orderly s ∧
      s.log = [.release 310 (some .long), .update 300, .press 0] :=
    System.exists_of_execute [.handler 0, .poll, .take, .take, .advance 300, .poll, .callback,
      .advance 10, .handler 1] (s := boot) rfl (by decide +kernel)
  obtain ⟨s, hs, hlog⟩ := hrun
  exact ⟨s, hs, hlog, lawful_of_orderly hs⟩

/-- The button was down while the device started: the first interrupt finds it up. -/
theorem not_lawful : ¬ ∀ s, system.Reachable s → Lawful s.log := by
  intro h
  have hrun : ∃ s, system.Reachable s ∧ s.log = [.release 0 (some .short)] :=
    System.exists_of_execute [.handler 1] (s := boot) rfl (by decide +kernel)
  obtain ⟨s, hs, hlog⟩ := hrun
  have hlaw := h s hs
  rw [hlog] at hlaw
  cases hlaw with
  | release _ _ hheld _ => cases hheld

end Datk.Button.Events
