import Datk.Basic
import Datk.Lib.System

/-!
# The handles of `app_main` and the events that use them

`app_main` starts the Wi-Fi manager in the middle of its initialisation.  From
there on Wi-Fi and IP events, the button, its timer and MQTT messages run handlers
that use task handles, the MQTT client, callback pointers, queues and event groups,
which the rest of `app_main` creates.

* `appMain` is the list of its statements that assign a handle or start a task;
  `main` counts those that are executed.  A handle is assigned by one of them.
* A handler is a program counter, and a statement of it uses at most one handle.
  A use of a handle that is still null goes on record in `misused`; after
  `vTaskSuspend(NULL)` the event task takes no more steps.
* Calls that wait for a queue, and the contents of what is sent, are left open: a
  statement may be executed as late as one likes.

`ready_iff_unmisused` says that no handle is used too early exactly in the runs in
which the uses of four handles come after their assignments: those of the writer,
of the reader, of the timer of the button and of its callback.  All the other ones
are then in order by themselves.
-/

namespace Datk.Boot

/-- The statements of `app_main` that assign a handle or start a source of events,
in their order.  `input_io_create` is two of them, and `wifi_manager_start` is one. -/
inductive Statement
  | createEventGroup
  | createWifiEventGroup
  | createQueueMqtt
  | createBme680Queue
  | createUvQueue
  | createSensorQueue
  | wifiHandlerSetCallback
  | wifiManagerStart
  | wifiManagerSetCallback
  | createPvTaskCode
  | createToggleTask
  | createMqttHandlerTask
  | inputSetCallback
  | isrHandlerAdd
  | createButtonTimer
  | timerSetCallback
  | mqttAppInit
  | mqttSetCallback
  | createWriter
  | createReader
  | createBme680Test
  | createMl8511ReadTask
  | createGetClock
  deriving DecidableEq, Repr

def appMain : List Statement :=
  [.createEventGroup, .createWifiEventGroup, .createQueueMqtt, .createBme680Queue,
    .createUvQueue, .createSensorQueue, .wifiHandlerSetCallback, .wifiManagerStart,
    .wifiManagerSetCallback, .createPvTaskCode, .createToggleTask, .createMqttHandlerTask,
    .inputSetCallback, .isrHandlerAdd, .createButtonTimer, .timerSetCallback, .mqttAppInit,
    .mqttSetCallback, .createWriter, .createReader, .createBme680Test, .createMl8511ReadTask,
    .createGetClock]

/-- What a handler uses. -/
inductive Handle
  | xEventGroup
  | xQueueMqtt
  | wifiHandler
  | wifiManagerQueue
  | wifiManagerEventGroup
  | toggleHandler
  | inputCallback
  | buttonTimer
  | timerCallback
  | client
  | mqttHandler
  | xwriteHandle
  | xreadHandle
  deriving DecidableEq, Repr

def Handle.assignedBy : Handle → Statement
  | .xEventGroup => .createEventGroup
  | .xQueueMqtt => .createQueueMqtt
  | .wifiHandler => .wifiHandlerSetCallback
  | .wifiManagerQueue | .wifiManagerEventGroup => .wifiManagerStart
  | .toggleHandler => .createToggleTask
  | .inputCallback => .inputSetCallback
  | .buttonTimer => .createButtonTimer
  | .timerCallback => .timerSetCallback
  | .client => .mqttAppInit
  | .mqttHandler => .mqttSetCallback
  | .xwriteHandle => .createWriter
  | .xreadHandle => .createReader

/-! ### The handlers -/

/-- The next statement of `wifi_manager_event_handler`, which calls
`wifi_event_handler` first. -/
inductive EventPc
  | idle
  | callDisconnected
  | testWrite
  | resumeWriter
  | suspendReader
  | countWrite
  | clearConnectedBit
  | sendDisconnected
  | callGotIp
  | suspendWriter
  | resumeReader
  | setWrite
  | suspendToggle
  | setConnectedBit
  | sendGotIp
  | mqttAppStart
  | mqttAppPublish
  deriving DecidableEq, Repr

/-- The next statement of `wifi_manager`, from the registration of its event
handler on. -/
inductive ManagerPc
  | register
  | receive
  | bits
  /-- The callback of the message, if one is set. -/
  | callback
  deriving DecidableEq, Repr

/-- How long the button was down, as `input_event_callback` tells it apart: below
one second, above three, or in between. -/
inductive Press
  | short
  | long
  | other
  deriving DecidableEq, Repr

/-- The next statement of `gpio_input_handler`. -/
inductive IsrPc
  | idle
  | timerStart
  | timerStop (p : Press)
  | call (p : Press)
  | setBits (p : Press)
  deriving DecidableEq, Repr

/-- The next statement of `pvTaskCode`. -/
inductive Task1Pc
  | waitBits
  | changeStateWifi
  | resumeToggle
  deriving DecidableEq, Repr

/-- The next statement of `mqtt_event_handler_cb` on a `MQTT_EVENT_DATA`. -/
inductive MqttPc
  | idle
  | call
  | send
  deriving DecidableEq, Repr

/-- The handle that a statement uses, if it uses one. -/
def EventPc.uses : EventPc → Option Handle
  | .idle | .testWrite | .countWrite | .setWrite => none
  | .callDisconnected | .callGotIp => some .wifiHandler
  | .resumeWriter | .suspendWriter => some .xwriteHandle
  | .suspendReader | .resumeReader => some .xreadHandle
  | .suspendToggle => some .toggleHandler
  | .clearConnectedBit | .setConnectedBit => some .wifiManagerEventGroup
  | .sendDisconnected | .sendGotIp => some .wifiManagerQueue
  | .mqttAppStart | .mqttAppPublish => some .client

def ManagerPc.uses : ManagerPc → Option Handle
  | .register | .callback => none
  | .receive => some .wifiManagerQueue
  | .bits => some .wifiManagerEventGroup

def IsrPc.uses : IsrPc → Option Handle
  | .idle => none
  | .timerStart | .timerStop _ => some .buttonTimer
  | .call _ => some .inputCallback
  | .setBits _ => some .xEventGroup

def Task1Pc.uses : Task1Pc → Handle
  | .waitBits => .xEventGroup
  | .changeStateWifi => .wifiManagerQueue
  | .resumeToggle => .toggleHandler

def MqttPc.uses : MqttPc → Option Handle
  | .idle => none
  | .call => some .mqttHandler
  | .send => some .xQueueMqtt

/-- A statement that is `vTaskSuspend` of the handle it uses. -/
def EventPc.suspends : EventPc → Bool
  | .suspendReader | .suspendWriter | .suspendToggle => true
  | _ => false

structure State where
  /-- The number of statements of `appMain` that are executed. -/
  main : Nat
  manager : ManagerPc
  event : EventPc
  /-- The event task has called `vTaskSuspend(NULL)`. -/
  eventSuspended : Bool
  stateWrite : Nat
  isr : IsrPc
  /-- The timer of the button is running. -/
  timer : Bool
  eventPressShort : Bool
  eventPressLong : Bool
  task1 : Task1Pc
  /-- The MQTT client is started. -/
  started : Bool
  mqtt : MqttPc
  misused : List Handle
  deriving DecidableEq, Repr

def boot : State where
  main := 0
  manager := .register
  event := .idle
  eventSuspended := false
  stateWrite := 1
  isr := .idle
  timer := false
  eventPressShort := false
  eventPressLong := false
  task1 := .waitBits
  started := false
  mqtt := .idle
  misused := []

/-- `app_main` has executed the statement. -/
def State.Past (s : State) (a : Statement) : Prop := appMain.idxOf a < s.main

instance (s : State) (a : Statement) : Decidable (s.Past a) := inferInstanceAs (Decidable (_ < _))

/-- A statement that uses `h`, and is `vTaskSuspend` of it if `suspends`. -/
def State.use (s : State) (h : Handle) (suspends : Bool) : State :=
  if s.Past h.assignedBy then s
  else { s with misused := s.misused ++ [h], eventSuspended := s.eventSuspended || suspends }

def State.use? (s : State) : Option Handle → Bool → State
  | some h, suspends => s.use h suspends
  | none, _ => s

inductive Event
  | staDisconnected
  | staGotIp
  deriving DecidableEq, Repr

inductive Act
  | main
  | manager
  /-- The event loop delivers an event. -/
  | event (e : Event)
  | eventTask
  | buttonDown
  | buttonUp (p : Press)
  | isr
  /-- The timer of the button expires. -/
  | timer
  | task1
  /-- The MQTT client, once started, receives data. -/
  | mqttData
  | mqtt
  deriving DecidableEq, Repr

/-- A statement of `wifi_manager_event_handler`. -/
def wifiManagerEventHandler (s : State) : Option State :=
  match s.event with
  | .idle => none
  | .callDisconnected => some { s with event := .testWrite }
  | .testWrite =>
    some { s with event := if s.stateWrite = 1 then .resumeWriter else .clearConnectedBit }
  | .resumeWriter => some { s with event := .suspendReader }
  | .suspendReader => some { s with event := .countWrite }
  | .countWrite =>
    some { s with event := .clearConnectedBit, stateWrite := (s.stateWrite + 1) % 2 ^ 8 }
  | .clearConnectedBit => some { s with event := .sendDisconnected }
  | .sendDisconnected => some { s with event := .idle }
  | .callGotIp => some { s with event := .suspendWriter }
  | .suspendWriter => some { s with event := .resumeReader }
  | .resumeReader => some { s with event := .setWrite }
  | .setWrite => some { s with event := .suspendToggle, stateWrite := 1 }
  | .suspendToggle => some { s with event := .setConnectedBit }
  | .setConnectedBit => some { s with event := .sendGotIp }
  | .sendGotIp => some { s with event := .mqttAppStart }
  | .mqttAppStart => some { s with event := .mqttAppPublish, started := s.Past .mqttAppInit }
  | .mqttAppPublish => some { s with event := .idle }

/-- A statement of `wifi_manager`, which checks the pointer of a callback before it
calls it. -/
def wifiManager (s : State) : State :=
  match s.manager with
  | .register => { s with manager := .receive }
  | .receive => { s with manager := .bits }
  | .bits => { s with manager := .callback }
  | .callback => { s with manager := .receive }

def gpioInputHandler (s : State) : Option State :=
  match s.isr with
  | .idle => none
  | .timerStart => some { s with isr := .idle, timer := true }
  | .timerStop p => some { s with isr := .call p, timer := false }
  | .call p => some { s with isr := if p = .other then .idle else .setBits p }
  | .setBits p =>
    some { s with
      isr := .idle
      eventPressShort := s.eventPressShort || p = .short
      eventPressLong := s.eventPressLong || p = .long }

def pvTaskCode (s : State) : Option State :=
  match s.task1 with
  | .waitBits =>
    if s.eventPressShort || s.eventPressLong then
      some { s with
        task1 := if s.eventPressShort then .changeStateWifi else .waitBits
        eventPressShort := false
        eventPressLong := false }
    else none
  | .changeStateWifi => some { s with task1 := .resumeToggle }
  | .resumeToggle => some { s with task1 := .waitBits }

def mqttEventHandlerCb (s : State) : Option State :=
  match s.mqtt with
  | .idle => none
  | .call => some { s with mqtt := .send }
  | .send => some { s with mqtt := .idle }

def step (s : State) : Act → Option State
  | .main => if s.main < appMain.length then some { s with main := s.main + 1 } else none
  | .manager =>
    if s.Past .wifiManagerStart then some ((wifiManager s).use? s.manager.uses false) else none
  | .event e =>
    if s.manager = .register ∨ s.event ≠ .idle ∨ s.eventSuspended then none
    else some { s with event := match e with
      | .staDisconnected => .callDisconnected
      | .staGotIp => .callGotIp }
  | .eventTask =>
    if s.eventSuspended then none
    else (wifiManagerEventHandler s).map fun t => t.use? s.event.uses s.event.suspends
  | .buttonDown =>
    if s.Past .isrHandlerAdd ∧ s.isr = .idle then some { s with isr := .timerStart } else none
  | .buttonUp p =>
    if s.Past .isrHandlerAdd ∧ s.isr = .idle then some { s with isr := .timerStop p } else none
  | .isr => (gpioInputHandler s).map fun t => t.use? s.isr.uses false
  | .timer =>
    if s.timer then some (State.use { s with timer := false } .timerCallback false) else none
  | .task1 =>
    if s.Past .createPvTaskCode then (pvTaskCode s).map fun t => t.use s.task1.uses false else none
  | .mqttData => if s.started ∧ s.mqtt = .idle then some { s with mqtt := .call } else none
  | .mqtt => (mqttEventHandlerCb s).map fun t => t.use? s.mqtt.uses false

/-- The handle that a step uses. -/
def State.uses (s : State) : Act → Option Handle
  | .manager => s.manager.uses
  | .eventTask => s.event.uses
  | .isr => s.isr.uses
  | .timer => some .timerCallback
  | .task1 => some s.task1.uses
  | .mqtt => s.mqtt.uses
  | .main | .event _ | .buttonDown | .buttonUp _ | .mqttData => none

def system : Lib.System State Act where
  Init s := s = boot
  step := step

/-! ### The uses that come late enough -/

/-- **No handle is used before it exists**, up to now. -/
def State.Unmisused (s : State) : Prop := s.misused = []

/-- The statement of `app_main` that is to be over before one of a handler. -/
def EventPc.needs : EventPc → Option Statement
  | .resumeWriter | .suspendWriter => some .createWriter
  | .suspendReader | .resumeReader => some .createReader
  | _ => none

def IsrPc.needs : IsrPc → Option Statement
  | .timerStart | .timerStop _ => some .createButtonTimer
  | _ => none

def Ready (s : State) : Act → Prop
  | .eventTask => ∀ a ∈ s.event.needs, s.Past a
  | .isr => ∀ a ∈ s.isr.needs, s.Past a
  | .timer => s.Past .timerSetCallback
  | _ => True

instance (s : State) : ∀ a, Decidable (Ready s a)
  | .eventTask => inferInstanceAs (Decidable (∀ a ∈ s.event.needs, s.Past a))
  | .isr => inferInstanceAs (Decidable (∀ a ∈ s.isr.needs, s.Past a))
  | .timer => inferInstanceAs (Decidable (s.Past _))
  | .main | .manager | .event _ | .buttonDown | .buttonUp _ | .task1 | .mqttData | .mqtt =>
    .isTrue trivial

/-- The event handler has resumed the reader and is not back yet. -/
def EventPc.afterResumeReader : EventPc → Bool
  | .setWrite | .suspendToggle | .setConnectedBit | .sendGotIp | .mqttAppStart
  | .mqttAppPublish => true
  | _ => false

/-- How far `app_main` is at least, by what its handlers are doing. -/
structure Ordered (s : State) : Prop where
  registered : s.manager ≠ .register → s.Past .wifiManagerStart
  event : s.event ≠ .idle → s.manager ≠ .register
  resumed : s.event.afterResumeReader = true → s.Past .createReader
  isr : s.isr ≠ .idle → s.Past .isrHandlerAdd
  pressed : s.eventPressShort = true ∨ s.task1 ≠ .waitBits → s.Past .isrHandlerAdd
  started : s.started = true → s.Past .createReader
  mqtt : s.mqtt ≠ .idle → s.Past .createReader

theorem ordered_boot : Ordered boot := by
  constructor <;> simp [boot, EventPc.afterResumeReader]

variable {s s' : State}

/-- A statement before one that is over is over. -/
theorem State.Past.before {a b : Statement} (h : s.Past b)
    (hab : appMain.idxOf a ≤ appMain.idxOf b := by decide) : s.Past a :=
  Nat.lt_of_le_of_lt hab h

/-- A use goes on record if the handle is not assigned yet. -/
theorem misused_use? (s : State) (h : Option Handle) (b : Bool) :
    (s.use? h b).Unmisused ↔ s.Unmisused ∧ ∀ x ∈ h, s.Past x.assignedBy := by
  cases h with
  | none => simp [State.use?]
  | some x =>
    simp only [State.use?, State.use, State.Unmisused, Option.mem_some_iff, forall_eq']
    split
    · simp [*]
    · simp [*]

/-! ### What a statement leaves alone -/

theorem wifiManagerEventHandler_frame (hs : wifiManagerEventHandler s = some s') :
    s.event ≠ .idle ∧ ∃ pc w b, s' = { s with event := pc, stateWrite := w, started := b } := by
  unfold wifiManagerEventHandler at hs
  cases hpc : s.event <;> simp only [hpc, Option.some.injEq, reduceCtorEq] at hs
  all_goals exact ⟨by simp, _, _, _, hs.symm⟩

theorem gpioInputHandler_frame (hs : gpioInputHandler s = some s') :
    s.isr ≠ .idle ∧ ∃ pc t b b', s' = { s with
      isr := pc, timer := t, eventPressShort := b, eventPressLong := b' } := by
  unfold gpioInputHandler at hs
  cases hpc : s.isr <;> simp only [hpc, Option.some.injEq, reduceCtorEq] at hs
  all_goals exact ⟨by simp, _, _, _, _, hs.symm⟩

theorem pvTaskCode_frame (hs : pvTaskCode s = some s') :
    ∃ pc b b', s' = { s with task1 := pc, eventPressShort := b, eventPressLong := b' } := by
  unfold pvTaskCode at hs
  split at hs
  · split at hs
    · exact ⟨_, _, _, (Option.some.inj hs).symm⟩
    · exact absurd hs (by simp)
  · exact ⟨_, _, _, (Option.some.inj hs).symm⟩
  · exact ⟨_, _, _, (Option.some.inj hs).symm⟩

theorem mqttEventHandlerCb_frame (hs : mqttEventHandlerCb s = some s') :
    s.mqtt ≠ .idle ∧ ∃ pc, s' = { s with mqtt := pc } := by
  unfold mqttEventHandlerCb at hs
  cases hpc : s.mqtt <;> simp only [hpc, Option.some.injEq, reduceCtorEq] at hs
  all_goals exact ⟨by simp, _, hs.symm⟩

theorem wifiManager_frame (s : State) : ∃ pc, wifiManager s = { s with manager := pc } := by
  unfold wifiManager
  split <;> exact ⟨_, rfl⟩

/-- **What a step can do**: it advances `app_main`, or it leaves a state `t` in which
neither `app_main` nor what is on record has changed, and uses its handle there. -/
theorem step_cases {a : Act} (hs : step s a = some s') :
    (a = .main ∧ s' = { s with main := s.main + 1 }) ∨
    ∃ (t : State) (b : Bool),
      s' = t.use? (s.uses a) b ∧ t.main = s.main ∧ t.misused = s.misused := by
  cases a with
  | main =>
    obtain ⟨-, hs⟩ := Option.ite_none_right_eq_some.mp hs
    exact .inl ⟨rfl, (Option.some.inj hs).symm⟩
  | manager =>
    obtain ⟨-, hs⟩ := Option.ite_none_right_eq_some.mp hs
    obtain ⟨pc, hpc⟩ := wifiManager_frame s
    rw [hpc, Option.some.injEq] at hs
    exact .inr ⟨_, false, hs.symm, rfl, rfl⟩
  | event e =>
    obtain ⟨-, hs⟩ := Option.ite_none_left_eq_some.mp hs
    exact .inr ⟨_, false, (Option.some.inj hs).symm, rfl, rfl⟩
  | eventTask =>
    obtain ⟨-, hs⟩ := Option.ite_none_left_eq_some.mp hs
    obtain ⟨t, ht, rfl⟩ := Option.map_eq_some_iff.mp hs
    obtain ⟨-, _, _, _, rfl⟩ := wifiManagerEventHandler_frame ht
    exact .inr ⟨_, _, rfl, rfl, rfl⟩
  | buttonDown | buttonUp | mqttData =>
    obtain ⟨-, hs⟩ := Option.ite_none_right_eq_some.mp hs
    exact .inr ⟨_, false, (Option.some.inj hs).symm, rfl, rfl⟩
  | isr =>
    obtain ⟨t, ht, rfl⟩ := Option.map_eq_some_iff.mp hs
    obtain ⟨-, _, _, _, _, rfl⟩ := gpioInputHandler_frame ht
    exact .inr ⟨_, _, rfl, rfl, rfl⟩
  | timer =>
    obtain ⟨-, hs⟩ := Option.ite_none_right_eq_some.mp hs
    exact .inr ⟨{ s with timer := false }, false, (Option.some.inj hs).symm, rfl, rfl⟩
  | task1 =>
    obtain ⟨-, hs⟩ := Option.ite_none_right_eq_some.mp hs
    obtain ⟨t, ht, rfl⟩ := Option.map_eq_some_iff.mp hs
    obtain ⟨_, _, _, rfl⟩ := pvTaskCode_frame ht
    exact .inr ⟨_, false, rfl, rfl, rfl⟩
  | mqtt =>
    obtain ⟨t, ht, rfl⟩ := Option.map_eq_some_iff.mp hs
    obtain ⟨-, _, rfl⟩ := mqttEventHandlerCb_frame ht
    exact .inr ⟨_, _, rfl, rfl, rfl⟩

/-- A step goes on record if the handle it uses is not assigned yet. -/
theorem unmisused_step {a : Act} (hs : step s a = some s') :
    s'.Unmisused ↔ s.Unmisused ∧ ∀ x ∈ s.uses a, s.Past x.assignedBy := by
  rcases step_cases hs with ⟨rfl, rfl⟩ | ⟨t, b, rfl, hmain, hmisused⟩
  · simp [State.Unmisused, State.uses]
  · rw [misused_use?, State.Unmisused, hmisused]
    simp only [State.Past, hmain]
    rfl

/-! ### The order that the handlers rely on -/

namespace Ordered

/-- Which uses of the event handler can come too early. -/
theorem event_uses (h : Ordered s) (hne : s.event ≠ .idle) :
    (∀ x ∈ s.event.uses, s.Past x.assignedBy) ↔ ∀ a ∈ s.event.needs, s.Past a := by
  have hstart := h.registered (h.event hne)
  have hresumed := h.resumed
  cases hpc : s.event with
  | idle => exact absurd hpc hne
  | testWrite | countWrite | setWrite => simp [EventPc.uses, EventPc.needs]
  | callDisconnected | clearConnectedBit | sendDisconnected | callGotIp =>
    have hpast : s.Past .wifiHandlerSetCallback := hstart.before
    simpa [EventPc.uses, EventPc.needs, Handle.assignedBy]
  | resumeWriter | suspendWriter | suspendReader | resumeReader =>
    simp [EventPc.uses, EventPc.needs, Handle.assignedBy]
  | suspendToggle | setConnectedBit | sendGotIp | mqttAppStart | mqttAppPublish =>
    have hreader : s.Past .createReader := hresumed (by rw [hpc]; rfl)
    have htoggle : s.Past .createToggleTask := hreader.before
    have hclient : s.Past .mqttAppInit := hreader.before
    simpa [EventPc.uses, EventPc.needs, Handle.assignedBy]

theorem isr_uses (h : Ordered s) (hne : s.isr ≠ .idle) :
    (∀ x ∈ s.isr.uses, s.Past x.assignedBy) ↔ ∀ a ∈ s.isr.needs, s.Past a := by
  have hadd := h.isr hne
  cases hpc : s.isr with
  | idle => exact absurd hpc hne
  | timerStart | timerStop => simp [IsrPc.uses, IsrPc.needs, Handle.assignedBy]
  | call | setBits =>
    have hcallback : s.Past .inputSetCallback := hadd.before
    have hgroup : s.Past .createEventGroup := hadd.before
    simpa [IsrPc.uses, IsrPc.needs, Handle.assignedBy]

/-- What is misused plays no part in this. -/
theorem use (h : Ordered s) (x : Handle) (b : Bool) : Ordered (s.use x b) := by
  unfold State.use
  split
  · exact h
  · exact { h with }

theorem use? (h : Ordered s) (x : Option Handle) (b : Bool) : Ordered (s.use? x b) := by
  cases x with
  | none => exact h
  | some x => exact h.use x b

theorem main (h : Ordered s) : Ordered { s with main := s.main + 1 } where
  registered := fun hr => Nat.lt_succ_of_lt (h.registered hr)
  event := h.event
  resumed := fun hr => Nat.lt_succ_of_lt (h.resumed hr)
  isr := fun hr => Nat.lt_succ_of_lt (h.isr hr)
  pressed := fun hr => Nat.lt_succ_of_lt (h.pressed hr)
  started := fun hr => Nat.lt_succ_of_lt (h.started hr)
  mqtt := fun hr => Nat.lt_succ_of_lt (h.mqtt hr)

theorem manager (h : Ordered s) (hstart : s.Past .wifiManagerStart) : Ordered (wifiManager s) := by
  unfold wifiManager
  cases hpc : s.manager <;>
    exact { h with registered := fun _ => hstart, event := fun _ => by simp }

theorem eventTask (h : Ordered s) (hs : wifiManagerEventHandler s = some s')
    (hneeds : ∀ a ∈ s.event.needs, s.Past a) : Ordered s' := by
  unfold wifiManagerEventHandler at hs
  have hresumed := h.resumed
  cases hpc : s.event with
  | idle => simp [hpc] at hs
  | testWrite =>
    have hreg := h.event (by simp [hpc])
    simp only [hpc, Option.some.injEq] at hs
    subst hs
    refine { h with event := fun _ => hreg, resumed := fun hr => ?_ }
    split at hr <;> cases hr
  | resumeReader =>
    have hreg := h.event (by simp [hpc])
    have hreader : s.Past .createReader := hneeds _ (by rw [hpc]; rfl)
    simp only [hpc, Option.some.injEq] at hs
    subst hs
    exact { h with event := fun _ => hreg, resumed := fun _ => hreader }
  | mqttAppStart =>
    have hreg := h.event (by simp [hpc])
    have hreader : s.Past .createReader := hresumed (by rw [hpc]; rfl)
    simp only [hpc, Option.some.injEq] at hs
    subst hs
    exact { h with
      event := fun _ => hreg, resumed := fun _ => hreader, started := fun _ => hreader }
  | setWrite | suspendToggle | setConnectedBit | sendGotIp =>
    have hreg := h.event (by simp [hpc])
    have hreader : s.Past .createReader := hresumed (by rw [hpc]; rfl)
    simp only [hpc, Option.some.injEq] at hs
    subst hs
    exact { h with event := fun _ => hreg, resumed := fun _ => hreader }
  | _ =>
    have hreg := h.event (by simp [hpc])
    simp only [hpc, Option.some.injEq] at hs
    subst hs
    exact { h with event := fun _ => hreg, resumed := by simp [EventPc.afterResumeReader] }

theorem gpioInputHandler (h : Ordered s) (hs : gpioInputHandler s = some s') : Ordered s' := by
  unfold Boot.gpioInputHandler at hs
  cases hpc : s.isr with
  | idle => simp [hpc] at hs
  | _ =>
    have hadd := h.isr (by simp [hpc])
    simp only [hpc, Option.some.injEq] at hs
    subst hs
    exact { h with isr := fun _ => hadd, pressed := fun _ => hadd }

theorem pvTaskCode (h : Ordered s) (hs : pvTaskCode s = some s') : Ordered s' := by
  unfold Boot.pvTaskCode at hs
  have hpressed := h.pressed
  cases hpc : s.task1 with
  | waitBits =>
    simp only [hpc] at hs
    obtain ⟨-, hs⟩ := Option.ite_none_right_eq_some.mp hs
    cases hs
    refine { h with pressed := fun hr => h.pressed (.inl ?_) }
    by_contra hshort
    simp [hshort] at hr
  | _ =>
    have hadd := hpressed (.inr (by simp [hpc]))
    simp only [hpc, Option.some.injEq] at hs
    subst hs
    exact { h with pressed := fun _ => hadd }

theorem task1_uses (h : Ordered s) (hstart : s.Past .createPvTaskCode) :
    s.Past s.task1.uses.assignedBy := by
  cases hpc : s.task1 with
  | waitBits => exact hstart.before
  | changeStateWifi => exact hstart.before
  | resumeToggle =>
    have hadd : s.Past .isrHandlerAdd := h.pressed (.inr (by simp [hpc]))
    exact hadd.before

theorem mqttEventHandlerCb (h : Ordered s) (hs : mqttEventHandlerCb s = some s') :
    Ordered s' := by
  unfold Boot.mqttEventHandlerCb at hs
  cases hpc : s.mqtt with
  | idle => simp [hpc] at hs
  | _ =>
    have hreader := h.mqtt (by simp [hpc])
    simp only [hpc, Option.some.injEq] at hs
    subst hs
    exact { h with mqtt := fun _ => hreader }

theorem mqtt_uses (h : Ordered s) (hne : s.mqtt ≠ .idle) :
    ∀ x ∈ s.mqtt.uses, s.Past x.assignedBy := by
  have hreader := h.mqtt hne
  have hset : s.Past .mqttSetCallback := hreader.before
  have hqueue : s.Past .createQueueMqtt := hreader.before
  intro x hx
  cases hpc : s.mqtt with
  | idle => exact absurd hpc hne
  | call =>
    rw [hpc] at hx
    cases hx
    exact hset
  | send =>
    rw [hpc] at hx
    cases hx
    exact hqueue

theorem manager_uses (hstart : s.Past .wifiManagerStart) :
    ∀ x ∈ s.manager.uses, s.Past x.assignedBy := by
  intro x hx
  cases hpc : s.manager with
  | register | callback =>
    rw [hpc] at hx
    cases hx
  | receive | bits =>
    rw [hpc] at hx
    cases hx
    exact hstart

/-- The handle that a step uses is assigned if and only if the step comes late
enough. -/
theorem uses_iff (h : Ordered s) {a : Act} (hs : Boot.step s a = some s') :
    (∀ x ∈ s.uses a, s.Past x.assignedBy) ↔ Ready s a := by
  cases a with
  | main | event | buttonDown | buttonUp | mqttData => simp [State.uses, Ready]
  | manager =>
    obtain ⟨hstart, hs⟩ := Option.ite_none_right_eq_some.mp hs
    exact iff_of_true (manager_uses hstart) trivial
  | eventTask =>
    obtain ⟨-, hs⟩ := Option.ite_none_left_eq_some.mp hs
    obtain ⟨t, ht, -⟩ := Option.map_eq_some_iff.mp hs
    exact h.event_uses (wifiManagerEventHandler_frame ht).1
  | isr =>
    obtain ⟨t, ht, -⟩ := Option.map_eq_some_iff.mp hs
    exact h.isr_uses (gpioInputHandler_frame ht).1
  | timer => simp [State.uses, Ready, Handle.assignedBy]
  | task1 =>
    obtain ⟨hstart, hs⟩ := Option.ite_none_right_eq_some.mp hs
    simpa [State.uses, Ready] using h.task1_uses hstart
  | mqtt =>
    obtain ⟨t, ht, -⟩ := Option.map_eq_some_iff.mp hs
    exact iff_of_true (h.mqtt_uses (mqttEventHandlerCb_frame ht).1) trivial

theorem step (h : Ordered s) {a : Act} (hok : Ready s a) (hs : Boot.step s a = some s') :
    Ordered s' := by
  cases a with
  | main =>
    obtain ⟨-, hs⟩ := Option.ite_none_right_eq_some.mp hs
    cases hs
    exact h.main
  | manager =>
    obtain ⟨hstart, hs⟩ := Option.ite_none_right_eq_some.mp hs
    cases hs
    exact (h.manager hstart).use? _ _
  | event e =>
    obtain ⟨hfree, hs⟩ := Option.ite_none_left_eq_some.mp hs
    simp only [not_or, not_not] at hfree
    cases hs
    refine { h with event := fun _ => hfree.1, resumed := fun hr => ?_ }
    cases e <;> cases hr
  | eventTask =>
    obtain ⟨-, hs⟩ := Option.ite_none_left_eq_some.mp hs
    obtain ⟨t, ht, rfl⟩ := Option.map_eq_some_iff.mp hs
    exact (h.eventTask ht hok).use? _ _
  | buttonDown =>
    obtain ⟨hadd, hs⟩ := Option.ite_none_right_eq_some.mp hs
    cases hs
    exact { h with isr := fun _ => hadd.1 }
  | buttonUp p =>
    obtain ⟨hadd, hs⟩ := Option.ite_none_right_eq_some.mp hs
    cases hs
    exact { h with isr := fun _ => hadd.1 }
  | isr =>
    obtain ⟨t, ht, rfl⟩ := Option.map_eq_some_iff.mp hs
    exact (h.gpioInputHandler ht).use? _ _
  | timer =>
    obtain ⟨-, hs⟩ := Option.ite_none_right_eq_some.mp hs
    cases hs
    exact Ordered.use (s := { s with timer := false }) { h with } _ _
  | task1 =>
    obtain ⟨-, hs⟩ := Option.ite_none_right_eq_some.mp hs
    obtain ⟨t, ht, rfl⟩ := Option.map_eq_some_iff.mp hs
    exact (h.pvTaskCode ht).use _ _
  | mqttData =>
    obtain ⟨hdata, hs⟩ := Option.ite_none_right_eq_some.mp hs
    cases hs
    exact { h with mqtt := fun _ => h.started hdata.1 }
  | mqtt =>
    obtain ⟨t, ht, rfl⟩ := Option.map_eq_some_iff.mp hs
    exact (h.mqttEventHandlerCb ht).use? _ _

end Ordered

theorem ordered_of_ready (h : system.Reaches Ready s) : Ordered s := by
  refine h.invariant ?_ fun _ _ _ ho hok hs => ho.step hok hs
  rintro _ rfl
  exact ordered_boot

/-- **The runs in which no handle is used before it exists** are those in which
the writer, the reader, the timer of the button and its callback are there when the
handlers first turn to them. -/
theorem ready_iff_unmisused {s : State} :
    system.Reaches Ready s ↔ system.Reachable s ∧ s.Unmisused := by
  apply Lib.System.Reaches.iff_reachable_and
  · rintro _ rfl
    rfl
  · intro s a s' hs hu
    exact ((unmisused_step hs).mp hu).1
  · intro s a s' h hu hs
    rw [unmisused_step hs, (ordered_of_ready h).uses_iff hs]
    exact (and_iff_right hu).symm

/-- `app_main` up to and including a statement. -/
def mainTo (a : Statement) : List Act := List.replicate (appMain.idxOf a + 1) .main

/-- The address is there before the writer is created: the event task suspends
itself. -/
theorem not_unmisused : ¬ ∀ s, system.Reachable s → s.Unmisused := by
  intro h
  have hrun : ∃ s, system.Reachable s ∧ s.misused = [.xwriteHandle] ∧ s.eventSuspended = true :=
    Lib.System.exists_of_execute
      (mainTo .wifiManagerStart ++ [.manager, .event .staGotIp, .eventTask, .eventTask])
      (s := boot) rfl (by decide +kernel)
  obtain ⟨s, hs, hmisused, -⟩ := hrun
  exact absurd ((h s hs).symm.trans hmisused) (by simp)

end Datk.Boot
