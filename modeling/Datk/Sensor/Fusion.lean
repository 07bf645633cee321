import Datk.Lib.Fifo
import Datk.Rtc.Sync

/-!
# One record from three queues

`ml8511_read_task` and `bme680_test` each feed a queue of capacity five.
`DS1302_getClock` takes one value from either, in this order, and puts the pair
into `sensor_queue`, which two consumers empty.  The task that fuses the values is
the one of `Datk.Rtc.Sync`: its statement `sample` is spelled out here, and it may
be suspended for a clock synchronisation before any of its iterations.

* `xQueueSend` and `xQueueReceive` wait without a limit, so they never fail: they
  are steps that are not enabled while the queue is full or empty.  A task that is
  suspended while it waits tries again once it is resumed.
* The values are those of two streams over arbitrary types, and a program counter
  carries the values that its task holds.
* A consumer can be suspended and resumed at any point.  Whether the reader finds
  the file decides when it turns to the queue, and is left open.

`dequeued` is history: no statement reads it.
-/

namespace Datk.Sensor.Fusion

open Lib Rtc

variable {U B : Type}

/-- The next statement of a task that measures and sends: `ml8511_read_task`,
`bme680_test`. -/
inductive ProducerPc
  | measure
  | send
  | delay
  deriving DecidableEq, Repr

/-- The next statement of `DS1302_getClock` once its test of the date is done. -/
inductive SamplePc (U B : Type)
  | receiveUv
  | receiveBme680 (uv : U)
  | send (uv : U) (bme680 : B)
  | delay
  deriving DecidableEq, Repr

inductive WriterPc
  | suspendSelf
  | receive
  | sdCardWrite
  | delay
  deriving DecidableEq, Repr

inductive ReaderPc
  | stat
  /-- It publishes the lines of the file and unlinks it. -/
  | file
  | receive
  | publish
  | delay
  deriving DecidableEq, Repr

structure State (U B : Type) where
  ml8511 : ProducerPc
  /-- The number of values sent to `uv_queue`. -/
  uvSent : Nat
  uvQueue : List U
  bme680 : ProducerPc
  bme680Sent : Nat
  bme680Queue : List B
  clock : Sync.State
  sample : SamplePc U B
  sensorQueue : List (U × B)
  writer : WriterPc
  writerSuspended : Bool
  reader : ReaderPc
  readerSuspended : Bool
  /-- What the consumers received from `sensor_queue`, in this order. -/
  dequeued : List (U × B)

def boot (U B : Type) (r : Registers) : State U B where
  ml8511 := .measure
  uvSent := 0
  uvQueue := []
  bme680 := .measure
  bme680Sent := 0
  bme680Queue := []
  clock := Sync.boot r
  sample := .receiveUv
  sensorQueue := []
  writer := .suspendSelf
  writerSuspended := false
  reader := .stat
  readerSuspended := false
  dequeued := []

inductive Act
  | ml8511
  | bme680
  /-- Anything about the clock, up to the test of the date in `DS1302_getClock`. -/
  | clock (a : Sync.Act)
  /-- A statement of `DS1302_getClock` after that test. -/
  | sample
  | writer
  /-- A statement of the reader; `stat` finds the file if `found`. -/
  | reader (found : Bool)
  /-- `vTaskSuspend` and `vTaskResume` of `wifi_event_handler`. -/
  | suspendWriter
  | resumeWriter
  | suspendReader
  | resumeReader
  deriving DecidableEq, Repr

def ml8511ReadTask (u : Nat → U) (s : State U B) : Option (State U B) :=
  match s.ml8511 with
  | .measure => some { s with ml8511 := .send }
  | .send =>
    if s.uvQueue.length < 5 then
      some { s with
        ml8511 := .delay, uvQueue := s.uvQueue ++ [u s.uvSent], uvSent := s.uvSent + 1 }
    else none
  | .delay => some { s with ml8511 := .measure }

def bme680Test (b : Nat → B) (s : State U B) : Option (State U B) :=
  match s.bme680 with
  | .measure => some { s with bme680 := .send }
  | .send =>
    if s.bme680Queue.length < 5 then
      some { s with
        bme680 := .delay
        bme680Queue := s.bme680Queue ++ [b s.bme680Sent]
        bme680Sent := s.bme680Sent + 1 }
    else none
  | .delay => some { s with bme680 := .measure }

/-- A statement of `DS1302_getClock` between its test of the date and the end of
the iteration. -/
def sample (s : State U B) : Option (State U B) :=
  match s.sample with
  | .receiveUv =>
    match s.uvQueue with
    | [] => none
    | uv :: rest => some { s with sample := .receiveBme680 uv, uvQueue := rest }
  | .receiveBme680 uv =>
    match s.bme680Queue with
    | [] => none
    | bme680 :: rest => some { s with sample := .send uv bme680, bme680Queue := rest }
  | .send uv bme680 =>
    if s.sensorQueue.length < 5 then
      some { s with sample := .delay, sensorQueue := s.sensorQueue ++ [(uv, bme680)] }
    else none
  | .delay => (Sync.getClock s.clock true).map fun c => { s with sample := .receiveUv, clock := c }

/-- A consumer receives the oldest record and goes on with `next`. -/
def receive (s : State U B) (next : State U B → State U B) : Option (State U B) :=
  match s.sensorQueue with
  | [] => none
  | m :: rest => some (next { s with sensorQueue := rest, dequeued := s.dequeued ++ [m] })

def wifiDisconectWriteSdCardTask (s : State U B) : Option (State U B) :=
  match s.writer with
  | .suspendSelf => some { s with writer := .receive, writerSuspended := true }
  | .receive => receive s fun t => { t with writer := .sdCardWrite }
  | .sdCardWrite => some { s with writer := .delay }
  | .delay => some { s with writer := .receive }

def wifiConnectReadSdCardTask (s : State U B) (found : Bool) : Option (State U B) :=
  match s.reader with
  | .stat => some { s with reader := if found then .file else .receive }
  | .file => some { s with reader := .delay }
  | .receive => receive s fun t => { t with reader := .publish }
  | .publish => some { s with reader := .delay }
  | .delay => some { s with reader := .stat }

/-- A statement of `DS1302_getClock` that is spelled out as `sample`. -/
def AtSample (s : State U B) : Sync.Act → Prop
  | .getClock _ => s.clock.pc = .sample
  | _ => False

instance (s : State U B) : ∀ a, Decidable (AtSample s a)
  | .getClock _ => inferInstanceAs (Decidable (_ = _))
  | .wifi _ | .rtc _ | .setClock _ _ _ => .isFalse id

def step (u : Nat → U) (b : Nat → B) (s : State U B) : Act → Option (State U B)
  | .ml8511 => ml8511ReadTask u s
  | .bme680 => bme680Test b s
  | .clock a =>
    if AtSample s a then none else (Sync.step s.clock a).map fun c => { s with clock := c }
  | .sample => if s.clock.suspended ∨ s.clock.pc ≠ .sample then none else sample s
  | .writer => if s.writerSuspended then none else wifiDisconectWriteSdCardTask s
  | .reader found => if s.readerSuspended then none else wifiConnectReadSdCardTask s found
  | .suspendWriter => some { s with writerSuspended := true }
  | .resumeWriter => some { s with writerSuspended := false }
  | .suspendReader => some { s with readerSuspended := true }
  | .resumeReader => some { s with readerSuspended := false }

def system (u : Nat → U) (b : Nat → B) : Lib.System (State U B) Act where
  Init s := ∃ r, s = boot U B r
  step := step u b

/-! ### What the queues and the fusing task hold -/

def pair (u : Nat → U) (b : Nat → B) (k : Nat) : U × B := (u k, b k)

/-- The number of records sent to `sensor_queue`. -/
def State.fused (s : State U B) : Nat := s.dequeued.length + s.sensorQueue.length

/-- The number of values of each kind that the fusing task holds. -/
def SamplePc.uvs : SamplePc U B → Nat
  | .receiveUv | .delay => 0
  | .receiveBme680 _ | .send _ _ => 1

def SamplePc.bme680s : SamplePc U B → Nat
  | .receiveUv | .receiveBme680 _ | .delay => 0
  | .send _ _ => 1

/-- The values that the fusing task holds are those of index `n`. -/
def SamplePc.Holds (u : Nat → U) (b : Nat → B) (n : Nat) : SamplePc U B → Prop
  | .receiveUv | .delay => True
  | .receiveBme680 uv => uv = u n
  | .send uv bme680 => uv = u n ∧ bme680 = b n

/-- Every queue holds a stretch of its stream, and each begins where the next
place of the value ends. -/
structure Fused (u : Nat → U) (b : Nat → B) (s : State U B) : Prop where
  dequeued : Carries (pair u b) 0 s.dequeued
  sensor : Carries (pair u b) s.dequeued.length s.sensorQueue
  hand : s.sample.Holds u b s.fused
  uv : Carries u (s.fused + s.sample.uvs) s.uvQueue
  uvSent : s.uvSent = s.fused + s.sample.uvs + s.uvQueue.length
  bme680 : Carries b (s.fused + s.sample.bme680s) s.bme680Queue
  bme680Sent : s.bme680Sent = s.fused + s.sample.bme680s + s.bme680Queue.length

variable {u : Nat → U} {b : Nat → B} {s s' : State U B}

theorem fused_boot (u : Nat → U) (b : Nat → B) (r : Registers) : Fused u b (boot U B r) where
  dequeued := carries_nil _ _
  sensor := carries_nil _ _
  hand := trivial
  uv := carries_nil _ _
  uvSent := rfl
  bme680 := carries_nil _ _
  bme680Sent := rfl

namespace Fused

theorem ml8511ReadTask (h : Fused u b s) (hs : ml8511ReadTask u s = some s') : Fused u b s' := by
  unfold Fusion.ml8511ReadTask at hs
  split at hs
  · cases hs
    exact { h with }
  · split at hs
    · cases hs
      refine { h with uv := h.uv.send_at h.uvSent, uvSent := ?_ }
      rw [List.length_append, List.length_singleton, h.uvSent]
      rfl
    · exact absurd hs (by simp)
  · cases hs
    exact { h with }

theorem bme680Test (h : Fused u b s) (hs : bme680Test b s = some s') : Fused u b s' := by
  unfold Fusion.bme680Test at hs
  split at hs
  · cases hs
    exact { h with }
  · split at hs
    · cases hs
      refine { h with bme680 := h.bme680.send_at h.bme680Sent, bme680Sent := ?_ }
      rw [List.length_append, List.length_singleton, h.bme680Sent]
      rfl
    · exact absurd hs (by simp)
  · cases hs
    exact { h with }

theorem sample (h : Fused u b s) (hs : sample s = some s') : Fused u b s' := by
  have hhand := h.hand
  have huv := h.uv
  have huvSent := h.uvSent
  have hbme680 := h.bme680
  have hbme680Sent := h.bme680Sent
  unfold Fusion.sample at hs
  cases hpc : s.sample with
  | receiveUv =>
    cases hq : s.uvQueue with
    | nil => simp [hpc, hq] at hs
    | cons uv rest =>
      simp only [hpc, hq, Option.some.injEq] at hs
      subst hs
      rw [hpc] at huv huvSent hbme680 hbme680Sent
      rw [hq] at huv huvSent
      obtain ⟨rfl, hrest⟩ := huv.receive
      exact { h with
        hand := rfl
        uv := hrest
        uvSent := by
          rw [huvSent]
          simp only [SamplePc.uvs, State.fused, List.length_cons]
          omega
        bme680 := hbme680
        bme680Sent := hbme680Sent }
  | receiveBme680 uv =>
    cases hq : s.bme680Queue with
    | nil => simp [hpc, hq] at hs
    | cons bme680 rest =>
      simp only [hpc, hq, Option.some.injEq] at hs
      subst hs
      rw [hpc] at hhand huv huvSent hbme680 hbme680Sent
      rw [hq] at hbme680 hbme680Sent
      obtain ⟨rfl, hrest⟩ := hbme680.receive
      exact { h with
        hand := ⟨hhand, rfl⟩
        uv := huv
        uvSent := huvSent
        bme680 := hrest
        bme680Sent := by
          rw [hbme680Sent]
          simp only [SamplePc.bme680s, State.fused, List.length_cons]
          omega }
  | send uv bme680 =>
    simp only [hpc] at hs
    obtain ⟨-, hs⟩ := Option.ite_none_right_eq_some.mp hs
    cases hs
    rw [hpc] at hhand huv huvSent hbme680 hbme680Sent
    obtain ⟨rfl, rfl⟩ := hhand
    have hnext : State.fused { s with
        sample := .delay, sensorQueue := s.sensorQueue ++ [pair u b s.fused] } =
        s.fused + 1 := by
      simp only [State.fused, List.length_append, List.length_singleton]
      omega
    exact
      { dequeued := h.dequeued
        sensor := h.sensor.send
        hand := trivial
        uv := hnext ▸ huv
        uvSent := hnext ▸ huvSent
        bme680 := hnext ▸ hbme680
        bme680Sent := hnext ▸ hbme680Sent }
  | delay =>
    simp only [hpc] at hs
    obtain ⟨c, -, rfl⟩ := Option.map_eq_some_iff.mp hs
    rw [hpc] at huv huvSent hbme680 hbme680Sent
    exact { h with
      hand := trivial
      uv := huv
      uvSent := huvSent
      bme680 := hbme680
      bme680Sent := hbme680Sent }

/-- What a consumer receives is the pair that comes next. -/
theorem receive (h : Fused u b s) {m : U × B} {rest : List (U × B)}
    (hq : s.sensorQueue = m :: rest) :
    Fused u b { s with sensorQueue := rest, dequeued := s.dequeued ++ [m] } := by
  have hsensor := h.sensor
  rw [hq] at hsensor
  obtain ⟨rfl, hrest⟩ := hsensor.receive
  have hsame : State.fused { s with
      sensorQueue := rest, dequeued := s.dequeued ++ [pair u b s.dequeued.length] } = s.fused := by
    simp only [State.fused, hq, List.length_append, List.length_cons, List.length_nil]
    omega
  exact
    { dequeued := h.dequeued.send_at (Nat.zero_add _).symm
      sensor := by
        show Carries (pair u b) (s.dequeued ++ [pair u b s.dequeued.length]).length rest
        rw [List.length_append, List.length_singleton]
        exact hrest
      hand := hsame ▸ h.hand
      uv := hsame ▸ h.uv
      uvSent := hsame ▸ h.uvSent
      bme680 := hsame ▸ h.bme680
      bme680Sent := hsame ▸ h.bme680Sent }

theorem writer (h : Fused u b s) (hs : wifiDisconectWriteSdCardTask s = some s') :
    Fused u b s' := by
  unfold wifiDisconectWriteSdCardTask at hs
  cases hpc : s.writer with
  | receive =>
    simp only [hpc, Fusion.receive] at hs
    split at hs
    · exact absurd hs (by simp)
    · rename_i hq
      cases hs
      exact { h.receive hq with }
  | _ =>
    simp only [hpc, Option.some.injEq] at hs
    subst hs
    exact { h with }

theorem reader {found : Bool} (h : Fused u b s)
    (hs : wifiConnectReadSdCardTask s found = some s') : Fused u b s' := by
  unfold wifiConnectReadSdCardTask at hs
  cases hpc : s.reader with
  | receive =>
    simp only [hpc, Fusion.receive] at hs
    split at hs
    · exact absurd hs (by simp)
    · rename_i hq
      cases hs
      exact { h.receive hq with }
  | _ =>
    simp only [hpc, Option.some.injEq] at hs
    subst hs
    exact { h with }

theorem step {a : Act} (h : Fused u b s) (hs : step u b s a = some s') : Fused u b s' := by
  cases a with
  | ml8511 => exact h.ml8511ReadTask hs
  | bme680 => exact h.bme680Test hs
  | clock a =>
    obtain ⟨-, hs⟩ := Option.ite_none_left_eq_some.mp hs
    obtain ⟨c, -, rfl⟩ := Option.map_eq_some_iff.mp hs
    exact { h with }
  | sample =>
    obtain ⟨-, hs⟩ := Option.ite_none_left_eq_some.mp hs
    exact h.sample hs
  | writer =>
    obtain ⟨-, hs⟩ := Option.ite_none_left_eq_some.mp hs
    exact h.writer hs
  | reader found =>
    obtain ⟨-, hs⟩ := Option.ite_none_left_eq_some.mp hs
    exact h.reader hs
  | suspendWriter | resumeWriter | suspendReader | resumeReader =>
    cases hs
    exact { h with }

end Fused

theorem fused_of_reachable (h : (system u b).Reachable s) : Fused u b s := by
  refine h.invariant ?_ fun _ _ _ hf _ hs => hf.step hs
  rintro _ ⟨r, rfl⟩
  exact fused_boot u b r

/-- **The records are the pairs of the two streams, in their order**, in whatever
order the five tasks ran. -/
theorem dequeued_eq (u : Nat → U) (b : Nat → B) {s : State U B}
    (h : (system u b).Reachable s) :
    s.dequeued = (List.range s.dequeued.length).map fun k => (u k, b k) :=
  (fused_of_reachable h).dequeued.eq_map_range

/-- Two records, the first of them taken by the reader, the second by the writer. -/
def twoRecords : List Act :=
  ([.clock (.getClock true), .clock (.getClock true), .clock (.getClock true)] : List Act) ++
  ([.ml8511, .ml8511, .bme680, .bme680, .sample, .ml8511, .ml8511, .ml8511, .sample, .sample]
    : List Act) ++
  ([.writer, .reader false, .reader false, .suspendReader, .resumeWriter] : List Act) ++
  ([.sample, .clock (.getClock true), .clock (.getClock true), .sample] : List Act) ++
  ([.bme680, .bme680, .bme680, .sample, .sample, .writer] : List Act)

theorem dequeued_after_twoRecords :
    ∃ s : State Nat Nat, (system (· + 10) (· + 20)).Reachable s ∧ s.dequeued.length = 2 ∧
      s.dequeued = (List.range s.dequeued.length).map fun k => (k + 10, k + 20) := by
  have hrun : ∃ s, (system (· + 10) (· + 20)).Reachable s ∧ s.dequeued.length = 2 :=
    Lib.System.exists_of_execute twoRecords (s := boot Nat Nat halted) ⟨halted, rfl⟩
      (by decide +kernel)
  obtain ⟨s, hs, htwo⟩ := hrun
  exact ⟨s, hs, htwo, dequeued_eq (· + 10) (· + 20) hs⟩

end Datk.Sensor.Fusion
