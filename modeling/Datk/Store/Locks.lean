import Datk.Lib.Mutex
import Datk.Lib.System

/-!
# The mutexes that a suspended consumer holds

`wifi_event_handler` suspends a consumer wherever it stands, also inside a call of
the library that holds a mutex: `printf`, a call of the FAT file system or one of
the MQTT client.  Until the next event resumes it, whoever needs this mutex waits.

The tasks are those of `Datk.Store.Tasks`, seen as sequences of calls: what they
compute is left out, and a branch that depends on it is chosen by the action.  A
record is there whenever a consumer asks for one.
-/

namespace Datk.Store.Locks

open Lib

inductive Lock
  | stdout
  | fat
  | mqtt
  deriving DecidableEq, Repr

inductive Consumer
  | writer
  | reader
  deriving DecidableEq, Repr

inductive Event
  | staDisconnected
  | staGotIp
  /-- Another event, which is logged. -/
  | other
  deriving DecidableEq, Repr

/-- The next statement of `wifi_manager_event_handler`, which calls
`wifi_event_handler` first. -/
inductive EventPc
  | idle
  | testWrite
  | resumeWriter
  | suspendReader
  | countWrite
  | print
  | logFail
  | logDisconnected
  | sendDisconnected
  | suspendWriter
  | resumeReader
  | setWrite
  | logGotIp
  | sendGotIp
  | mqttAppStart
  | mqttAppPublish
  | logOther
  deriving DecidableEq, Repr

/-- The next statement of `wifi_disconect_write_sd_card_task` and of the
`sd_card_write` it calls. -/
inductive WriterPc
  | suspendSelf
  | printStart
  | receive
  | fopen
  | printHeader
  | printData
  | fclose
  | printWritten
  | delay
  deriving DecidableEq, Repr

/-- The next statement of `wifi_connect_read_sd_card_task` and of the `sd_card_read`
and `mqtt_app_pub_json` it calls. -/
inductive ReaderPc
  | stat
  | test
  | fopen
  | fgets
  | fclose
  | publishLine
  | printLine
  | unlink
  | receive
  | publish
  | print
  | delay
  deriving DecidableEq, Repr

/-- The mutex that a statement needs. -/
def EventPc.lock : EventPc → Option Lock
  | .print | .logFail | .logDisconnected | .logGotIp | .logOther => some .stdout
  | .mqttAppStart | .mqttAppPublish => some .mqtt
  | _ => none

def WriterPc.lock : WriterPc → Option Lock
  | .printStart | .printWritten => some .stdout
  | .fopen | .printHeader | .printData | .fclose => some .fat
  | .suspendSelf | .receive | .delay => none

def ReaderPc.lock : ReaderPc → Option Lock
  | .stat | .fopen | .fgets | .fclose | .unlink => some .fat
  | .publishLine | .publish => some .mqtt
  | .printLine | .print => some .stdout
  | .test | .receive | .delay => none

def EventPc.next (stateWrite : Nat) : EventPc → Option EventPc
  | .idle => none
  | .testWrite => some (if stateWrite = 1 then .resumeWriter else .logFail)
  | .resumeWriter => some .suspendReader
  | .suspendReader => some .countWrite
  | .countWrite => some .print
  | .print => some .logFail
  | .logFail => some .logDisconnected
  | .logDisconnected => some .sendDisconnected
  | .sendDisconnected => some .idle
  | .suspendWriter => some .resumeReader
  | .resumeReader => some .setWrite
  | .setWrite => some .logGotIp
  | .logGotIp => some .sendGotIp
  | .sendGotIp => some .mqttAppStart
  | .mqttAppStart => some .mqttAppPublish
  | .mqttAppPublish => some .idle
  | .logOther => some .idle

/-- The file is new if `b`. -/
def WriterPc.next (b : Bool) : WriterPc → Option WriterPc
  | .suspendSelf => some .printStart
  | .printStart => some .receive
  | .receive => some .fopen
  | .fopen => some (if b then .printHeader else .printData)
  | .printHeader => some .printData
  | .printData => some .fclose
  | .fclose => some .printWritten
  | .printWritten => some .delay
  | .delay => some .receive

/-- The file is there, or there is another line to publish or to read, if `b`. -/
def ReaderPc.next (b : Bool) : ReaderPc → Option ReaderPc
  | .stat => some (if b then .test else .receive)
  | .test => some (if b then .fopen else .unlink)
  | .fopen => some .fgets
  | .fgets => some (if b then .fgets else .fclose)
  | .fclose => some .publishLine
  | .publishLine => some .printLine
  | .printLine => some .test
  | .unlink => some .delay
  | .receive => some .publish
  | .publish => some .print
  | .print => some .delay
  | .delay => some .stat

structure State where
  event : Caller EventPc Lock
  stateWrite : Nat
  writer : Caller WriterPc Lock
  reader : Caller ReaderPc Lock
  /-- The consumer that the handler resumed last. -/
  resumed : Option Consumer
  deriving DecidableEq, Repr

def boot : State where
  event := ⟨.idle, none, false⟩
  stateWrite := 1
  writer := ⟨.suspendSelf, none, false⟩
  reader := ⟨.stat, none, false⟩
  resumed := none

def State.free (s : State) (l : Lock) : Bool :=
  s.event.held ≠ some l ∧ s.writer.held ≠ some l ∧ s.reader.held ≠ some l

/-- What a statement of the event handler does to the rest of the state. -/
def State.handle (s : State) : EventPc → State
  | .resumeWriter =>
    { s with writer := { s.writer with suspended := false }, resumed := some .writer }
  | .suspendReader => { s with reader := { s.reader with suspended := true } }
  | .countWrite => { s with stateWrite := (s.stateWrite + 1) % 2 ^ 8 }
  | .suspendWriter => { s with writer := { s.writer with suspended := true } }
  | .resumeReader =>
    { s with reader := { s.reader with suspended := false }, resumed := some .reader }
  | .setWrite => { s with stateWrite := 1 }
  | _ => s

inductive Act
  | deliver (e : Event)
  | event
  | writer (b : Bool)
  | reader (b : Bool)
  deriving DecidableEq, Repr

def step (s : State) : Act → Option State
  | .deliver e =>
    if s.event.pc = .idle then
      some { s with event := { s.event with pc := match e with
        | .staDisconnected => .testWrite
        | .staGotIp => .suspendWriter
        | .other => .logOther } }
    else none
  | .event =>
    (s.event.step EventPc.lock s.free (EventPc.next s.stateWrite)).map fun c =>
      { s.handle s.event.pc with event := c }
  | .writer b =>
    if s.writer.suspended then none
    else (s.writer.step WriterPc.lock s.free (WriterPc.next b)).map fun c =>
      { s with writer := { c with suspended := s.writer.pc = .suspendSelf } }
  | .reader b =>
    if s.reader.suspended then none
    else (s.reader.step ReaderPc.lock s.free (ReaderPc.next b)).map fun c =>
      { s with reader := c }

def system : Lib.System State Act where
  Init s := s = boot
  step := step

/-! ### Waiting for a suspended task -/

/-- The consumer holds the mutex and is suspended, and what is left of the event
under way does not resume it. -/
def State.Owns (s : State) (l : Lock) : Consumer → Prop
  | .writer =>
    s.writer.held = some l ∧ s.writer.suspended = true ∧ s.event.pc ≠ .resumeWriter ∧
      ¬ (s.event.pc = .testWrite ∧ s.stateWrite = 1)
  | .reader =>
    s.reader.held = some l ∧ s.reader.suspended = true ∧ s.event.pc ≠ .suspendWriter ∧
      s.event.pc ≠ .resumeReader

def State.WaitsFor (s : State) (l : Lock) : Consumer → Prop
  | .writer => s.writer.Waits WriterPc.lock l
  | .reader => s.reader.Waits ReaderPc.lock l

/-- **Nobody waits for a suspended task**: neither the event task nor the consumer
it resumed last. -/
def Live (s : State) : Prop :=
  ∀ l o, s.Owns l o →
    ¬ s.event.Waits EventPc.lock l ∧ ∀ c, s.resumed = some c → ¬ s.WaitsFor l c

/-- A consumer that can be suspended: the mutexes that the event task and the other
consumer need are free. -/
def Clear (held : Option Lock) : Prop := held ≠ some .stdout ∧ held ≠ some .fat

instance (held : Option Lock) : Decidable (Clear held) := inferInstanceAs (Decidable (_ ∧ _))

/-- `vTaskSuspend` comes while the consumer is inside no `printf` and no call of the
file system. -/
def Careful (s : State) : Act → Prop
  | .event =>
    (s.event.pc = .suspendWriter → Clear s.writer.held) ∧
      (s.event.pc = .suspendReader → Clear s.reader.held)
  | _ => True

instance (s : State) : ∀ a, Decidable (Careful s a)
  | .event => inferInstanceAs (Decidable (_ ∧ _))
  | .deliver _ | .writer _ | .reader _ => .isTrue trivial

/-- The handler of an address has resumed the reader and goes on to the log and to the MQTT
client. -/
def EventPc.afterResumeReader : EventPc → Bool
  | .setWrite | .logGotIp | .sendGotIp | .mqttAppStart | .mqttAppPublish => true
  | _ => false

structure Unlocked (s : State) : Prop where
  writer : s.writer.Holds WriterPc.lock
  reader : s.reader.Holds ReaderPc.lock
  writerClear : s.writer.suspended = true → Clear s.writer.held
  readerClear : s.reader.suspended = true → Clear s.reader.held
  resumed : s.event.pc.afterResumeReader = true → s.reader.suspended = false

theorem unlocked_boot : Unlocked boot where
  writer := nofun
  reader := nofun
  writerClear := nofun
  readerClear := nofun
  resumed := fun _ => rfl

variable {s s' : State}

/-- The writer calls no MQTT client. -/
theorem WriterPc.lock_ne_mqtt (p : WriterPc) : p.lock ≠ some .mqtt := by
  cases p <;> simp [lock]

theorem EventPc.afterResumeReader_of_mqtt {p : EventPc} (h : p.lock = some .mqtt) :
    p.afterResumeReader = true := by
  cases p <;> first | rfl | cases h

theorem Unlocked.live (h : Unlocked s) : Live s := by
  intro l o howns
  cases o with
  | writer =>
    obtain ⟨hheld, hsusp, -, -⟩ := howns
    have hlock := h.writer l hheld
    have hclear := h.writerClear hsusp
    rw [hheld] at hclear
    cases l with
    | stdout => exact absurd rfl hclear.1
    | fat => exact absurd rfl hclear.2
    | mqtt => exact absurd hlock (WriterPc.lock_ne_mqtt _)
  | reader =>
    obtain ⟨hheld, hsusp, -, -⟩ := howns
    have hclear := h.readerClear hsusp
    rw [hheld] at hclear
    cases l with
    | stdout => exact absurd rfl hclear.1
    | fat => exact absurd rfl hclear.2
    | mqtt =>
      refine ⟨fun hwait => ?_, fun c _ hwait => ?_⟩
      · -- at its calls of the MQTT client the event task has just resumed the reader
        have hrun : s.reader.suspended = false := by
          exact h.resumed (EventPc.afterResumeReader_of_mqtt hwait.1)
        rw [hrun] at hsusp
        cases hsusp
      · cases c with
        | writer => exact WriterPc.lock_ne_mqtt _ hwait.1
        | reader =>
          have hnone := hwait.2
          rw [hheld] at hnone
          cases hnone

namespace Unlocked

theorem deliver (h : Unlocked s) (e : Event) : Unlocked { s with event := { s.event with
    pc := match e with
      | .staDisconnected => .testWrite
      | .staGotIp => .suspendWriter
      | .other => .logOther } } :=
  { h with resumed := fun hr => by cases e <;> cases hr }

/-- The effects of a statement of the event handler on the consumers. -/
theorem handle (h : Unlocked s) (hok : Careful s .event) {c : Caller EventPc Lock}
    (hs : s.event.step EventPc.lock s.free (EventPc.next s.stateWrite) = some c) :
    Unlocked { s.handle s.event.pc with event := c } := by
  have hresumed := h.resumed
  rcases Caller.step_cases hs with ⟨p, hp, rfl⟩ | ⟨l, hl, -, rfl⟩
  · cases hpc : s.event.pc with
    | idle => simp [hpc, EventPc.next] at hp
    | resumeWriter =>
      simp only [hpc, EventPc.next, Option.some.injEq] at hp
      subst hp
      exact { h with writerClear := nofun, resumed := nofun }
    | suspendReader =>
      simp only [hpc, EventPc.next, Option.some.injEq] at hp
      subst hp
      exact { h with readerClear := fun _ => hok.2 hpc, resumed := nofun }
    | suspendWriter =>
      simp only [hpc, EventPc.next, Option.some.injEq] at hp
      subst hp
      exact { h with writerClear := fun _ => hok.1 hpc, resumed := nofun }
    | resumeReader => exact { h with readerClear := nofun, resumed := fun _ => rfl }
    | setWrite | logGotIp | sendGotIp | mqttAppStart =>
      have hrun : s.reader.suspended = false := hresumed (by rw [hpc]; rfl)
      exact { h with resumed := fun _ => hrun }
    | testWrite =>
      simp only [hpc, EventPc.next, Option.some.injEq] at hp
      subst hp
      have hnot : (if s.stateWrite = 1 then EventPc.resumeWriter
          else .logFail).afterResumeReader = false := by split <;> rfl
      exact { h with resumed := fun hr => absurd (hnot.symm.trans hr) (by decide) }
    | _ =>
      simp only [hpc, EventPc.next, Option.some.injEq] at hp
      subst hp
      exact { h with resumed := nofun }
  · cases hpc : s.event.pc <;> simp only [hpc, EventPc.lock, reduceCtorEq] at hl
    all_goals exact { h with resumed := fun hr => hresumed (by simpa [hpc] using hr) }

theorem step {a : Act} (h : Unlocked s) (hok : Careful s a) (hs : step s a = some s') :
    Unlocked s' := by
  cases a with
  | deliver e =>
    obtain ⟨-, hs⟩ := Option.ite_none_right_eq_some.mp hs
    cases hs
    exact h.deliver e
  | event =>
    obtain ⟨c, hc, rfl⟩ := Option.map_eq_some_iff.mp hs
    exact h.handle hok hc
  | writer b =>
    obtain ⟨-, hs⟩ := Option.ite_none_left_eq_some.mp hs
    obtain ⟨c, hc, rfl⟩ := Option.map_eq_some_iff.mp hs
    have hholds : c.Holds WriterPc.lock := Caller.Holds.step hc
    refine { h with writer := hholds, writerClear := fun hself => ?_ }
    -- the writer that suspends itself is inside no call
    rcases Caller.step_cases hc with ⟨p, -, rfl⟩ | ⟨l, hl, -, rfl⟩
    · exact ⟨nofun, nofun⟩
    · simp only [decide_eq_true_eq] at hself
      rw [hself] at hl
      cases hl
  | reader b =>
    obtain ⟨hrun, hs⟩ := Option.ite_none_left_eq_some.mp hs
    obtain ⟨c, hc, rfl⟩ := Option.map_eq_some_iff.mp hs
    have hsame : c.suspended = s.reader.suspended := Caller.suspended_step hc
    refine { h with
      reader := Caller.Holds.step hc
      readerClear := fun hsusp => absurd (hsame.symm.trans hsusp) hrun
      resumed := fun _ => by rw [hsame]; simpa using hrun }

end Unlocked

theorem unlocked_of_careful (h : system.Reaches Careful s) : Unlocked s := by
  refine h.invariant ?_ fun _ _ _ hu hok hs => hu.step hok hs
  rintro _ rfl
  exact unlocked_boot

/-- **Suspending a consumer blocks nobody**, in all runs where it happens outside of
`printf` and of the file system. -/
theorem live_of_careful {s : State} (h : system.Reaches Careful s) : Live s :=
  (unlocked_of_careful h).live

/-- The reader has published a record, and prints it or not: then the connection is
lost. -/
def lose (printing : Bool) : List Act :=
  [Act.reader false, .reader false, .reader false, .reader false, .reader false] ++
    (if printing then [Act.reader false] else []) ++
    [Act.writer false, .deliver .staDisconnected, .event, .event, .event, .event]

theorem live_after_lose :
    ∃ s, system.Reaches Careful s ∧ s.reader.suspended = true ∧ s.event.pc = .print ∧ Live s := by
  have hrun : ∃ s, system.Reaches Careful s ∧ s.reader.suspended = true ∧ s.event.pc = .print :=
    Lib.System.exists_of_execute (lose false) (s := boot) rfl (by decide +kernel)
  obtain ⟨s, hs, hsusp, hpc⟩ := hrun
  exact ⟨s, hs, hsusp, hpc, live_of_careful hs⟩

/-- The reader is suspended inside its `printf`, and the event handler prints. -/
theorem not_live : ¬ ∀ s, system.Reachable s → Live s := by
  intro h
  have hrun : ∃ s, system.Reachable s ∧ s.reader.held = some .stdout ∧
      s.reader.suspended = true ∧ s.event = ⟨.print, none, false⟩ :=
    Lib.System.exists_of_execute (lose true) (s := boot) rfl (by decide +kernel)
  obtain ⟨s, hs, hheld, hsusp, hevent⟩ := hrun
  refine (h s hs .stdout .reader ⟨hheld, hsusp, ?_, ?_⟩).1 ?_
  · rw [hevent]; simp
  · rw [hevent]; simp
  · rw [hevent]; exact ⟨rfl, rfl⟩

end Datk.Store.Locks
