import Datk.Mqtt.Command
import Datk.Ota.Manifest

/-!
# The tasks that look for an update

The button held for three seconds and an MQTT message that asks for it both create a
task `check_update_task`.  It polls for ever, so that the tasks add up until
`esp_restart`.  All of them fill the one `rcv_buffer`, and write to the one partition
that is not running.

`orders` counts the tasks that were created since the start.  `atMostOne_iff` says that
there is at most one updater exactly if there has been at most one order, and
`atMostOne_of_single` that of the runs.
-/

namespace Datk.Ota.Updaters

open Lib

/-- Where a `check_update_task` is. -/
inductive Pc
  /-- In `esp_http_client_perform`, which fills `rcv_buffer`. -/
  | perform
  | parse
  /-- In `esp_https_ota`. -/
  | ota (u : Update)
  | delay
  deriving DecidableEq

structure State where
  /-- `button_timer` is running. -/
  armed : Bool
  /-- `none` once something was stored outside of it. -/
  rcvBuffer : Option RcvBuffer
  updaters : List Pc
  orders : Nat
  deriving DecidableEq

def boot : State := ⟨false, some (.fill 200 0), [], 0⟩

inductive Act
  /-- `gpio_input_handler`, when the button goes down and when it goes up. -/
  | press
  | release
  /-- Three seconds have passed; `xTaskCreate` succeeds if `created`. -/
  | timer (created : Bool)
  /-- `mqtt_handler_task` has parsed a message. -/
  | message (json : Option Mqtt.Command) (created : Bool)
  /-- `HTTP_EVENT_ON_DATA` of updater `i`. -/
  | data (i : Nat) (chunked : Bool) (bytes : List Byte)
  | performed (i : Nat) (ok : Bool)
  /-- `wild` is what is parsed if `rcv_buffer` is read past its end. -/
  | parse (i : Nat) (wild : Option Manifest)
  | ota (i : Nat) (ok : Bool)
  | delay (i : Nat)
  deriving DecidableEq

/-- `xTaskCreate(&check_update_task, …)`. -/
def State.create (s : State) (created : Bool) : State :=
  if created then { s with updaters := s.updaters ++ [.perform], orders := s.orders + 1 } else s

def State.move (s : State) (i : Nat) (pc : Pc) : State :=
  { s with updaters := s.updaters.set i pc }

section

variable (cJSONParse : List Byte → Option Manifest)

def step (s : State) : Act → Option State
  | .press => some { s with armed := true }
  | .release => some { s with armed := false }
  | .timer created => if s.armed then some ({ s with armed := false }.create created) else none
  | .message json created =>
    some (if Mqtt.Effect.checkUpdate ∈ Mqtt.effectsOf json then s.create created else s)
  | .data i chunked bytes =>
    if s.updaters[i]? = some .perform then
      some { s with rcvBuffer := s.rcvBuffer.bind fun b => httpEventHandler chunked b bytes }
    else none
  | .performed i ok =>
    if s.updaters[i]? = some .perform then some (s.move i (if ok then .parse else .delay)) else none
  | .parse i wild =>
    if s.updaters[i]? = some .parse then
      let json := match s.rcvBuffer.bind fun b => b.text 0 with
        | some t => cJSONParse t
        | none => wild
      some (s.move i (match upgrade json with
        | some u => .ota u
        | none => .delay))
    else none
  | .ota i ok =>
    match s.updaters[i]? with
    | some (.ota _) => some (if ok then boot else s.move i .delay)
    | _ => none
  | .delay i => if s.updaters[i]? = some .delay then some (s.move i .perform) else none

def system : System State Act where
  Init s := s = boot
  step := step cJSONParse

/-- **There is at most one updater.** -/
structure AtMostOne (s : State) : Prop where
  one : s.updaters.length ≤ 1
  /-- No two fill `rcv_buffer`, -/
  buffer : ∀ i j : Nat, s.updaters[i]? = some Pc.perform → s.updaters[j]? = some Pc.perform → i = j
  /-- and no two write to the partition. -/
  partition : ∀ (i j : Nat) (u v : Update),
    s.updaters[i]? = some (Pc.ota u) → s.updaters[j]? = some (Pc.ota v) → i = j

/-- An order comes only if there has been none since the start, or if it fails. -/
def Single (s : State) : Act → Prop
  | .timer created => created = true → s.orders = 0
  | .message json created =>
    created = true → Mqtt.Effect.checkUpdate ∈ Mqtt.effectsOf json → s.orders = 0
  | _ => True

instance (s : State) : ∀ a, Decidable (Single s a)
  | .timer _ => inferInstanceAs (Decidable (_ → _))
  | .message _ _ => inferInstanceAs (Decidable (_ → _ → _))
  | .press | .release | .data _ _ _ | .performed _ _ | .parse _ _ | .ota _ _ | .delay _ =>
    .isTrue trivial

variable {cJSONParse} {s s' : State} {a : Act}

/-! ### The tasks never end -/

/-- What a step does to the number of updaters. -/
inductive Counts (s : State) (a : Act) (s' : State) : Prop
  | restart : s' = boot → Counts s a s'
  | order : (Single s a ↔ s.orders = 0) → s'.updaters.length = s.updaters.length + 1 →
      s'.orders = s.orders + 1 → Counts s a s'
  | keep : Single s a → s'.updaters.length = s.updaters.length → s'.orders = s.orders →
      Counts s a s'

theorem counts_move {i : Nat} {pc : Pc} (h : Single s a) : Counts s a (s.move i pc) :=
  .keep h List.length_set rfl

theorem counts_step (hs : step cJSONParse s a = some s') : Counts s a s' := by
  cases a with
  | press | release =>
    cases hs
    exact .keep trivial rfl rfl
  | timer created =>
    obtain ⟨-, hs⟩ := Option.ite_none_right_eq_some.mp hs
    cases hs
    cases created with
    | true => exact .order (by simp [Single]) List.length_append rfl
    | false => exact .keep (fun h => by cases h) rfl rfl
  | message json created =>
    cases hs
    by_cases hjson : Mqtt.Effect.checkUpdate ∈ Mqtt.effectsOf json
    · rw [if_pos hjson]
      cases created with
      | true => exact .order (by simp [Single, hjson]) List.length_append rfl
      | false => exact .keep (fun h => by cases h) rfl rfl
    · rw [if_neg hjson]
      exact .keep (fun _ h => absurd h hjson) rfl rfl
  | data i chunked bytes =>
    obtain ⟨-, hs⟩ := Option.ite_none_right_eq_some.mp hs
    cases hs
    exact .keep trivial rfl rfl
  | performed i ok | parse i wild | delay i =>
    obtain ⟨-, hs⟩ := Option.ite_none_right_eq_some.mp hs
    cases hs
    exact counts_move trivial
  | ota i ok =>
    simp only [step] at hs
    split at hs
    · cases hs
      cases ok with
      | true => exact .restart rfl
      | false => exact counts_move trivial
    · cases hs

theorem length_updaters (h : (system cJSONParse).Reachable s) : s.updaters.length = s.orders := by
  refine h.invariant (P := fun s => s.updaters.length = s.orders) ?_ ?_
  · rintro _ rfl
    rfl
  · intro s a s' hlen _ hs
    cases counts_step hs with
    | restart hboot =>
      rw [hboot]
      rfl
    | order _ hupdaters horders => rw [hupdaters, horders, hlen]
    | keep _ hupdaters horders => rw [hupdaters, horders, hlen]

theorem atMostOne_of_length (h : s.updaters.length ≤ 1) : AtMostOne s := by
  have hzero : ∀ {i : Nat} {pc : Pc}, s.updaters[i]? = some pc → i = 0 := by
    intro i pc hi
    have hlt := (List.getElem?_eq_some_iff.mp hi).1
    omega
  refine ⟨h, ?_, ?_⟩
  · intro i j hi hj
    rw [hzero hi, hzero hj]
  · intro i j u v hi hj
    rw [hzero hi, hzero hj]

/-- There is at most one updater exactly if there has been at most one order. -/
theorem atMostOne_iff (h : (system cJSONParse).Reachable s) : AtMostOne s ↔ s.orders ≤ 1 := by
  rw [← length_updaters h]
  constructor
  · intro hone
    exact hone.one
  · intro hlen
    exact atMostOne_of_length hlen

theorem orders_of_single (h : (system cJSONParse).Reaches Single s) : s.orders ≤ 1 := by
  refine h.invariant (P := fun s => s.orders ≤ 1) ?_ ?_
  · rintro _ rfl
    exact Nat.zero_le 1
  · intro s a s' hle hok hs
    cases counts_step hs with
    | restart hboot =>
      rw [hboot]
      exact Nat.zero_le 1
    | order hiff _ horders => rw [horders, hiff.mp hok]
    | keep _ _ horders => rw [horders]; exact hle

/-- **There is at most one updater**, in all runs with at most one order since each
start. -/
theorem atMostOne_of_single (h : (system cJSONParse).Reaches Single s) : AtMostOne s :=
  (atMostOne_iff h.reachable).mpr (orders_of_single h)

/-- The condition leaves out only steps after which there are two. -/
theorem not_atMostOne_of_not_single (h : (system cJSONParse).Reachable s)
    (hs : step cJSONParse s a = some s') (hne : s' ≠ boot) (ha : ¬ Single s a) :
    ¬ AtMostOne s' := by
  intro hone
  cases counts_step hs with
  | restart hboot => exact hne hboot
  | keep hok _ _ => exact ha hok
  | order hiff hlen _ =>
    have horders : s.orders ≠ 0 := fun h0 => ha (hiff.mpr h0)
    have hle := hone.one
    rw [hlen, length_updaters h] at hle
    omega

end

/-- The button is held once, and the task looks for an update twice. -/
theorem atMostOne_after_hold :
    ∃ s, (system fun _ => none).Reaches Single s ∧ s.updaters = [.perform] ∧ AtMostOne s := by
  have hrun : ∃ s, (system fun _ => none).Reaches Single s ∧ s.updaters = [.perform] :=
    System.exists_of_execute
      [.press, .timer true, .release, .performed 0 true, .parse 0 none, .delay 0] (s := boot) rfl
      (by decide +kernel)
  obtain ⟨s, hs, hupdaters⟩ := hrun
  exact ⟨s, hs, hupdaters, atMostOne_of_single hs⟩

/-- The button is held twice. -/
theorem not_atMostOne : ¬ ∀ s, (system fun _ => none).Reachable s → AtMostOne s := by
  intro h
  have hrun : ∃ s, (system fun _ => none).Reachable s ∧ s.updaters = [.perform, .perform] :=
    System.exists_of_execute [.press, .timer true, .release, .press, .timer true] (s := boot) rfl
      (by decide +kernel)
  obtain ⟨s, hs, hupdaters⟩ := hrun
  have hle := (h s hs).one
  rw [hupdaters] at hle
  exact absurd hle (by decide)

end Datk.Ota.Updaters
