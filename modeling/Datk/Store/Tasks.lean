import Datk.Basic
import Datk.Lib.System

/-!
# The two consumers of `sensor_queue` and the event handler between them

`main/app_main.c` hands the records of `DS1302_getClock` to one of two tasks.
`wifi_disconect_write_sd_card_task` appends them to a file on the SD card,
`wifi_connect_read_sd_card_task` publishes them, after it has published and
unlinked what the file holds.  `wifi_event_handler` suspends one of them and
resumes the other.  Nothing else keeps the two apart, so the model is a system
whose actions are single statements of these functions, in any interleaving.

* Each task is a program counter that carries its local variables.  A task that
  is suspended takes no step; `vTaskResume` and `vTaskSuspend` only set that
  flag, since FreeRTOS does not count them.
* A record is named by its number in the order of `xQueueSend`.  Its
  measurements play no part in which statement runs next and are left out; its
  `time_values` is a pointer, and the two cells it can point to are in the state.
* The file is its lines.  A line that `sd_card_write` prints is one line that
  `fgets` reads, since the longest such line is far below `sizeof(buffer)`, and
  calls of the file system succeed.
* What is printed stays in the writer's stream until `fclose`.  Only then does
  a stream that is opened later find it in the file.
* `restart` reinitialises everything in RAM and keeps the file.

The fields from `last` on are history: no statement reads them.
-/

namespace Datk.Store

/-- What a `time_values` pointer points to: `time_str` of `DS1302_getClock`, or
the `buffer` of a call of `sd_card_read` that has returned. -/
inductive TimeRef
  | timeStr
  | buffer
  deriving DecidableEq, Repr

/-- `module_data_t`: the number of the record and its `time_values`. -/
structure ModuleData where
  seq : Nat
  timeValues : TimeRef
  deriving DecidableEq, Repr

/-! ### The file -/

/-- A data line: the record it was printed from and its time text. -/
structure DataLine where
  seq : Nat
  time : Text
  deriving DecidableEq, Repr

/-- The time column as `strtok` cuts it out: the format of the line has a blank
after each comma. -/
def DataLine.column (d : DataLine) : Text := ' ' :: d.time

inductive Line
  | header
  | data (d : DataLine)
  deriving DecidableEq, Repr

/-- The fields of `messages_data` when `sd_card_read` returns: those of a data
line, those the header line parses to, or none assigned. -/
inductive Fetched
  | data (d : DataLine)
  | header
  | unassigned
  deriving DecidableEq, Repr

/-- `sd_card_read`: the line whose count `i` equals `line_number`, which starts
at one.  With fewer lines no field of `messages_data` is assigned. -/
def sdCardRead (file : Option (List Line)) : Nat → Fetched
  | 0 => .unassigned
  | i + 1 =>
    match (file.getD [])[i]? with
    | some (.data d) => .data d
    | some .header => .header
    | none => .unassigned

inductive Source
  | queue (seq : Nat)
  | file (f : Fetched)
  deriving DecidableEq, Repr

/-- A call of `mqtt_app_pub_json`, with the text its `time` argument read as. -/
structure Publication where
  source : Source
  time : Text
  deriving DecidableEq, Repr

/-! ### Program counters -/

inductive Event
  | staDisconnected
  | staGotIp
  deriving DecidableEq, Repr

inductive HandlerPc
  | idle
  | testWrite
  | resumeWriter
  | suspendReader
  | countWrite
  | clearWifi
  | suspendWriter
  | resumeReader
  | setWrite
  | setWifi
  deriving DecidableEq, Repr

inductive SdCardWritePc
  | fopen
  | header
  | count
  | append
  | fclose
  deriving DecidableEq, Repr

inductive WriterPc
  | suspendSelf
  | receive
  | sdCardWrite (m : ModuleData) (pc : SdCardWritePc)
  | delay
  deriving DecidableEq, Repr

def WriterPc.opened : WriterPc → Bool
  | .sdCardWrite _ .fopen => false
  | .sdCardWrite _ _ => true
  | _ => false

inductive ReaderPc
  | stat
  | test (j : Nat)
  | read (j : Nat)
  | publish (j : Nat) (f : Fetched)
  | next (j : Nat)
  | resetLine
  | resetId
  | unlink
  | receive
  | publishDirect (m : ModuleData)
  | delay
  deriving DecidableEq, Repr

/-- The next statement of `DS1302_getClock` that concerns the queue. -/
inductive ProducerPc
  | format
  | send
  deriving DecidableEq, Repr

/-! ### The state -/

/-- Tasks, globals, file and queue, and the history of the run. -/
structure State where
  handler : HandlerPc
  stateWrite : Nat
  stateWifi : Nat
  writer : WriterPc
  writerSuspended : Bool
  reader : ReaderPc
  readerSuspended : Bool
  id : Nat
  line : Nat
  file : Option (List Line)
  /-- What has been printed on the writer's stream. -/
  stream : List Line
  /-- The file that the writer's stream was opened on has been unlinked. -/
  unlinked : Bool
  producer : ProducerPc
  timeStr : Text
  buffer : Text
  sensorQueue : List ModuleData
  /-- The last event whose handling is complete. -/
  last : Option Event
  taken : List Nat
  /-- The time text of each record when it was enqueued, by its number. -/
  formatted : List Text
  written : List DataLine
  published : List Publication
  /-- The records whose data line was unpublished when the device restarted. -/
  kept : List Nat
  deriving DecidableEq, Repr

/-- The state `app_main` leaves once both tasks are created, with no file. -/
def boot : State where
  handler := .idle
  stateWrite := 1
  stateWifi := 0
  writer := .suspendSelf
  writerSuspended := false
  reader := .stat
  readerSuspended := false
  id := 0
  line := 2
  file := none
  stream := []
  unlinked := false
  producer := .format
  timeStr := []
  buffer := []
  sensorQueue := []
  last := none
  taken := []
  formatted := []
  written := []
  published := []
  kept := []

def State.deref (s : State) : TimeRef → Text
  | .timeStr => s.timeStr
  | .buffer => s.buffer

/-- The file after `fclose` of the writer's stream: once it is unlinked the bytes
reach no file. -/
def State.flushed (s : State) : Option (List Line) :=
  if s.unlinked then s.file else s.file.map (· ++ s.stream)

/-! ### Statements -/

/-- A statement of `wifi_event_handler`, `main/app_main.c`. -/
def wifiEventHandler (s : State) : Option State :=
  match s.handler with
  | .idle => none
  | .testWrite =>
    some { s with handler := if s.stateWrite = 1 then .resumeWriter else .clearWifi }
  | .resumeWriter => some { s with handler := .suspendReader, writerSuspended := false }
  | .suspendReader => some { s with handler := .countWrite, readerSuspended := true }
  | .countWrite => some { s with handler := .clearWifi, stateWrite := (s.stateWrite + 1) % 2 ^ 8 }
  | .clearWifi =>
    some { s with handler := .idle, stateWifi := 0, last := some .staDisconnected }
  | .suspendWriter => some { s with handler := .resumeReader, writerSuspended := true }
  | .resumeReader => some { s with handler := .setWrite, readerSuspended := false }
  | .setWrite => some { s with handler := .setWifi, stateWrite := 1 }
  | .setWifi => some { s with handler := .idle, stateWifi := 1, last := some .staGotIp }

/-- A statement of `sd_card_write(m)`, `common/sd_card_lib/sd_card_lib.c`. -/
def sdCardWrite (s : State) (m : ModuleData) : SdCardWritePc → State
  | .fopen =>
    { s with
      writer := .sdCardWrite m .header
      file := some (s.file.getD [])
      stream := []
      unlinked := false }
  | .header =>
    { s with
      writer := .sdCardWrite m .count
      stream := if s.id = 0 then s.stream ++ [.header] else s.stream }
  | .count => { s with writer := .sdCardWrite m .append, id := (s.id + 1) % 2 ^ 32 }
  | .append =>
    { s with
      writer := .sdCardWrite m .fclose
      stream := s.stream ++ [.data ⟨m.seq, s.deref m.timeValues⟩]
      written := s.written ++ [⟨m.seq, s.deref m.timeValues⟩] }
  | .fclose => { s with writer := .delay, file := s.flushed, stream := [] }

/-- A statement of `wifi_disconect_write_sd_card_task`. -/
def wifiDisconectWriteSdCardTask (s : State) : Option State :=
  match s.writer with
  | .suspendSelf => some { s with writer := .receive, writerSuspended := true }
  | .receive =>
    match s.sensorQueue with
    | [] => none
    | m :: rest =>
      some { s with
        writer := .sdCardWrite m .fopen
        sensorQueue := rest
        taken := s.taken ++ [m.seq] }
  | .sdCardWrite m pc => some (sdCardWrite s m pc)
  | .delay => some { s with writer := .receive }

/-- A statement of `wifi_connect_read_sd_card_task`.  `sd_card_read` returns a
pointer to the time column in its `buffer`; where it found no line the pointer
is wild, and `buffer` stands for whatever it reads as. -/
def wifiConnectReadSdCardTask (s : State) : Option State :=
  match s.reader with
  | .stat => some { s with reader := if s.file.isSome then .test 0 else .receive }
  | .test j => some { s with reader := if j < s.id then .read j else .resetLine }
  | .read j =>
    let f := sdCardRead s.file s.line
    some { s with
      reader := .publish j f
      buffer := match f with
        | .data d => d.column
        | .header => [' ', 'T', 'i', 'm', 'e']
        | .unassigned => s.buffer }
  | .publish j f =>
    some { s with
      reader := .next j
      published := s.published ++ [⟨.file f, s.deref .buffer⟩] }
  | .next j => some { s with reader := .test (j + 1), line := (s.line + 1) % 2 ^ 32 }
  | .resetLine => some { s with reader := .resetId, line := 2 }
  | .resetId => some { s with reader := .unlink, id := 0 }
  | .unlink => some { s with reader := .delay, file := none, unlinked := true }
  | .receive =>
    match s.sensorQueue with
    | [] => none
    | m :: rest =>
      some { s with
        reader := .publishDirect m
        sensorQueue := rest
        taken := s.taken ++ [m.seq] }
  | .publishDirect m =>
    some { s with
      reader := .delay
      published := s.published ++ [⟨.queue m.seq, s.deref m.timeValues⟩] }
  | .delay => some { s with reader := .stat }

/-! ### The system -/

def records (file : Option (List Line)) : List DataLine :=
  (file.getD []).filterMap fun
    | .header => none
    | .data d => some d

/-- The record a publication carries, when it carries one. -/
def Source.seq? : Source → Option Nat
  | .queue k => some k
  | .file (.data d) => some d.seq
  | .file _ => none

/-- The numbers of the records handed to `mqtt_app_pub_json`, in order. -/
def publishedSeqs (ps : List Publication) : List Nat :=
  ps.filterMap fun p => p.source.seq?

/-- The records whose data line is in the file and was not published. -/
def State.waiting (s : State) : List Nat :=
  ((records s.file).map DataLine.seq).filter fun k => k ∉ publishedSeqs s.published

/-- `esp_restart` or a power cut. -/
def restart (s : State) : State :=
  { boot with
    file := s.file
    last := none
    taken := s.taken
    formatted := s.formatted
    written := s.written
    published := s.published
    kept := s.kept ++ s.waiting }

inductive Act
  | event (e : Event)
  | handler
  | writer
  | reader
  /-- `DS1302_getClock` prints `t` into `time_str`. -/
  | format (t : Text)
  | send
  /-- Other calls overwrite the stack where `buffer` of `sd_card_read` was. -/
  | stack (t : Text)
  | restart
  deriving DecidableEq, Repr

def step (s : State) : Act → Option State
  | .event e =>
    if s.handler = .idle then
      some { s with handler := match e with
        | .staDisconnected => .testWrite
        | .staGotIp => .suspendWriter }
    else none
  | .handler => wifiEventHandler s
  | .writer => if s.writerSuspended then none else wifiDisconectWriteSdCardTask s
  | .reader => if s.readerSuspended then none else wifiConnectReadSdCardTask s
  | .format t =>
    match s.producer with
    | .format => some { s with producer := .send, timeStr := t }
    | .send => none
  | .send =>
    match s.producer with
    | .format => none
    | .send =>
      if s.sensorQueue.length < 5 then
        some { s with
          producer := .format
          sensorQueue := s.sensorQueue ++ [⟨s.formatted.length, .timeStr⟩]
          formatted := s.formatted ++ [s.timeStr] }
      else none
  | .stack t => some { s with buffer := t }
  | .restart => some (restart s)

/-- **What a step can do.** -/
theorem step_cases {s s' : State} {a : Act} (hs : step s a = some s') :
    (∃ e pc, a = .event e ∧ s.handler = .idle ∧
      pc = (match e with | .staDisconnected => .testWrite | .staGotIp => .suspendWriter) ∧
      s' = { s with handler := pc }) ∨
    (a = .handler ∧ wifiEventHandler s = some s') ∨
    (a = .writer ∧ s.writerSuspended = false ∧ wifiDisconectWriteSdCardTask s = some s') ∨
    (a = .reader ∧ s.readerSuspended = false ∧ wifiConnectReadSdCardTask s = some s') ∨
    (∃ t, a = .format t ∧ s.producer = .format ∧
      s' = { s with producer := .send, timeStr := t }) ∨
    (a = .send ∧ s.producer = .send ∧ s.sensorQueue.length < 5 ∧
      s' = { s with
        producer := .format
        sensorQueue := s.sensorQueue ++ [⟨s.formatted.length, .timeStr⟩]
        formatted := s.formatted ++ [s.timeStr] }) ∨
    (∃ t, a = .stack t ∧ s' = { s with buffer := t }) ∨
    (a = .restart ∧ s' = restart s) := by
  cases a with
  | event e =>
    obtain ⟨hidle, hs⟩ := Option.ite_none_right_eq_some.mp hs
    exact Or.inl ⟨e, _, rfl, hidle, rfl, (Option.some.inj hs).symm⟩
  | handler => exact Or.inr (Or.inl ⟨rfl, hs⟩)
  | writer =>
    obtain ⟨hrun, hs⟩ := Option.ite_none_left_eq_some.mp hs
    exact Or.inr (Or.inr (Or.inl ⟨rfl, by simpa using hrun, hs⟩))
  | reader =>
    obtain ⟨hrun, hs⟩ := Option.ite_none_left_eq_some.mp hs
    exact Or.inr (Or.inr (Or.inr (Or.inl ⟨rfl, by simpa using hrun, hs⟩)))
  | format t =>
    simp only [step] at hs
    cases hp : s.producer with
    | format =>
      rw [hp] at hs
      exact Or.inr (Or.inr (Or.inr (Or.inr (Or.inl ⟨t, rfl, rfl, (Option.some.inj hs).symm⟩))))
    | send =>
      rw [hp] at hs
      cases hs
  | send =>
    simp only [step] at hs
    cases hp : s.producer with
    | format =>
      rw [hp] at hs
      cases hs
    | send =>
      rw [hp] at hs
      obtain ⟨hroom, hs⟩ := Option.ite_none_right_eq_some.mp hs
      exact Or.inr (Or.inr (Or.inr (Or.inr (Or.inr (Or.inl
        ⟨rfl, rfl, hroom, (Option.some.inj hs).symm⟩)))))
  | stack t =>
    exact Or.inr (Or.inr (Or.inr (Or.inr (Or.inr (Or.inr (Or.inl
      ⟨t, rfl, (Option.some.inj hs).symm⟩))))))
  | restart =>
    exact Or.inr (Or.inr (Or.inr (Or.inr (Or.inr (Or.inr (Or.inr
      ⟨rfl, (Option.some.inj hs).symm⟩))))))

/-- The event handler writes its own variables and the suspended flags only. -/
theorem wifiEventHandler_frame {s s' : State} (hs : wifiEventHandler s = some s') :
    ∃ pc sw wf ws rs e, s' = { s with
      handler := pc, stateWrite := sw, stateWifi := wf,
      writerSuspended := ws, readerSuspended := rs, last := e } := by
  unfold wifiEventHandler at hs
  split at hs
  · exact absurd hs (by simp)
  all_goals exact ⟨_, _, _, _, _, _, (Option.some.inj hs).symm⟩

inductive WriterStep (s : State) : State → Prop
  | suspendSelf (hw : s.writer = .suspendSelf) :
    WriterStep s { s with writer := .receive, writerSuspended := true }
  | receive (m : ModuleData) (rest : List ModuleData) (hw : s.writer = .receive)
    (hq : s.sensorQueue = m :: rest) :
    WriterStep s { s with
      writer := .sdCardWrite m .fopen
      sensorQueue := rest
      taken := s.taken ++ [m.seq] }
  | sdCardWrite (m : ModuleData) (pc : SdCardWritePc) (hw : s.writer = .sdCardWrite m pc) :
    WriterStep s (sdCardWrite s m pc)
  | delay (hw : s.writer = .delay) : WriterStep s { s with writer := .receive }

theorem writer_cases {s s' : State} (hs : wifiDisconectWriteSdCardTask s = some s') :
    WriterStep s s' := by
  unfold wifiDisconectWriteSdCardTask at hs
  cases hw : s.writer with
  | receive =>
    cases hq : s.sensorQueue with
    | nil => simp [hw, hq] at hs
    | cons m rest =>
      simp only [hw, hq, Option.some.injEq] at hs
      exact hs ▸ .receive m rest hw hq
  | suspendSelf =>
    simp only [hw, Option.some.injEq] at hs
    exact hs ▸ .suspendSelf hw
  | sdCardWrite m pc =>
    simp only [hw, Option.some.injEq] at hs
    exact hs ▸ .sdCardWrite m pc hw
  | delay =>
    simp only [hw, Option.some.injEq] at hs
    exact hs ▸ .delay hw

inductive ReaderStep (s : State) : State → Prop
  | found (hr : s.reader = .stat) (hf : s.file.isSome = true) :
    ReaderStep s { s with reader := .test 0 }
  | missing (hr : s.reader = .stat) (hf : s.file.isSome = false) :
    ReaderStep s { s with reader := .receive }
  | enter (j : Nat) (hr : s.reader = .test j) (hj : j < s.id) :
    ReaderStep s { s with reader := .read j }
  | leave (j : Nat) (hr : s.reader = .test j) (hj : ¬ j < s.id) :
    ReaderStep s { s with reader := .resetLine }
  | read (j : Nat) (t : Text) (hr : s.reader = .read j)
    (ht : t = match sdCardRead s.file s.line with
      | .data d => d.column
      | .header => [' ', 'T', 'i', 'm', 'e']
      | .unassigned => s.buffer) :
    ReaderStep s { s with reader := .publish j (sdCardRead s.file s.line), buffer := t }
  | publish (j : Nat) (f : Fetched) (hr : s.reader = .publish j f) :
    ReaderStep s { s with
      reader := .next j
      published := s.published ++ [⟨.file f, s.deref .buffer⟩] }
  | next (j : Nat) (hr : s.reader = .next j) :
    ReaderStep s { s with reader := .test (j + 1), line := (s.line + 1) % 2 ^ 32 }
  | resetLine (hr : s.reader = .resetLine) :
    ReaderStep s { s with reader := .resetId, line := 2 }
  | resetId (hr : s.reader = .resetId) : ReaderStep s { s with reader := .unlink, id := 0 }
  | unlink (hr : s.reader = .unlink) :
    ReaderStep s { s with reader := .delay, file := none, unlinked := true }
  | receive (m : ModuleData) (rest : List ModuleData) (hr : s.reader = .receive)
    (hq : s.sensorQueue = m :: rest) :
    ReaderStep s { s with
      reader := .publishDirect m
      sensorQueue := rest
      taken := s.taken ++ [m.seq] }
  | publishDirect (m : ModuleData) (hr : s.reader = .publishDirect m) :
    ReaderStep s { s with
      reader := .delay
      published := s.published ++ [⟨.queue m.seq, s.deref m.timeValues⟩] }
  | delay (hr : s.reader = .delay) : ReaderStep s { s with reader := .stat }

theorem reader_cases {s s' : State} (hs : wifiConnectReadSdCardTask s = some s') :
    ReaderStep s s' := by
  unfold wifiConnectReadSdCardTask at hs
  cases hr : s.reader <;> simp only [hr, Option.some.injEq] at hs
  case stat =>
    subst hs
    split
    · exact .found hr ‹_›
    · exact .missing hr (Bool.eq_false_iff.mpr ‹_›)
  case test j =>
    subst hs
    split
    · exact .enter j hr ‹_›
    · exact .leave j hr ‹_›
  case receive =>
    cases hq : s.sensorQueue with
    | nil => simp [hq] at hs
    | cons m rest =>
      simp only [hq, Option.some.injEq] at hs
      exact hs ▸ .receive m rest hr hq
  case read j => exact hs ▸ .read j _ hr rfl
  case publish j f => exact hs ▸ .publish j f hr
  case next j => exact hs ▸ .next j hr
  case resetLine => exact hs ▸ .resetLine hr
  case resetId => exact hs ▸ .resetId hr
  case unlink => exact hs ▸ .unlink hr
  case publishDirect m => exact hs ▸ .publishDirect m hr
  case delay => exact hs ▸ .delay hr

/-- The writer leaves the handler's variables, the reader and what is published alone. -/
theorem wifiDisconectWriteSdCardTask_frame {s s' : State}
    (hs : wifiDisconectWriteSdCardTask s = some s') :
    ∃ w ws i f st u q tk wr, s' = { s with
      writer := w, writerSuspended := ws, id := i, file := f, stream := st, unlinked := u
      sensorQueue := q, taken := tk, written := wr } := by
  cases writer_cases hs with
  | sdCardWrite m pc => cases pc <;> exact ⟨_, _, _, _, _, _, _, _, _, rfl⟩
  | _ => exact ⟨_, _, _, _, _, _, _, _, _, rfl⟩

/-- The reader leaves the handler's variables, the writer and what is written alone. -/
theorem wifiConnectReadSdCardTask_frame {s s' : State}
    (hs : wifiConnectReadSdCardTask s = some s') :
    ∃ r i l f u b q tk p, s' = { s with
      reader := r, id := i, line := l, file := f, unlinked := u, buffer := b
      sensorQueue := q, taken := tk, published := p } := by
  cases reader_cases hs <;> exact ⟨_, _, _, _, _, _, _, _, _, rfl⟩

def system : Lib.System State Act where
  Init s := s = boot
  step := step

end Datk.Store
