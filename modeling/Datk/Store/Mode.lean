import Datk.Store.Tasks

/-!
# Which of the two tasks consumes

Connectivity is spread over `state_write`, the two suspended flags and the place
of each task.  `Mode` says how they fit together at each statement of
`wifi_event_handler`: outside of it either the reader consumes and `state_write`
is one, or the writer does and it is two.

`Exclusive` is what the names of the tasks promise: one of them runs, the reader
while the station has an address and the writer otherwise, and the reader keeps
off the file the writer has open.  It fails in three ways.  After start-up the
reader runs until the first event, although there is no connection yet.  An
event that resumes the writer before its own first `vTaskSuspend(NULL)` is lost
to it and leaves both tasks suspended.  And `STA_GOT_IP` may suspend the writer
inside `sd_card_write`.  `exclusive_iff` proves that nothing else goes wrong.
-/

namespace Datk.Store

def WriterPc.opening : WriterPc → Bool
  | .sdCardWrite _ .fopen => true
  | _ => false

/-- What decides which task consumes. -/
structure Switch where
  stateWrite : Nat
  writerSuspended : Bool
  readerSuspended : Bool
  /-- The writer has executed its first statement, `vTaskSuspend(NULL)`. -/
  started : Bool
  opened : Bool
  last : Option Event

def State.switch (s : State) : Switch :=
  ⟨s.stateWrite, s.writerSuspended, s.readerSuspended, s.writer ≠ .suspendSelf,
    s.writer.opened, s.last⟩

/-- The reader consumes: the writer is suspended, or has yet to suspend itself. -/
structure Switch.ReaderMode (v : Switch) : Prop where
  stateWrite : v.stateWrite = 1
  reader : v.readerSuspended = false
  writer : v.writerSuspended = true ∨ v.started = false
  closed : v.opened = false

structure Switch.WriterMode (v : Switch) : Prop where
  stateWrite : v.stateWrite = 2
  reader : v.readerSuspended = true
  writer : v.writerSuspended = false
  started : v.started = true

/-- One of the two, as the last event handled says. -/
def Switch.Settled (v : Switch) : Prop :=
  (v.ReaderMode ∧ v.last = none) ∨
    (v.ReaderMode ∧ v.writerSuspended = true ∧ v.last = some .staGotIp) ∨
    (v.WriterMode ∧ v.last = some .staDisconnected)

/-- What holds before each statement of `wifi_event_handler`. -/
def HandlerPc.Mode (v : Switch) : HandlerPc → Prop
  | .idle | .testWrite | .suspendWriter => v.Settled
  | .resumeWriter => v.ReaderMode
  | .suspendReader => v.stateWrite = 1 ∧ v.writerSuspended = false ∧ v.started = true
  | .countWrite =>
    v.stateWrite = 1 ∧ v.readerSuspended = true ∧ v.writerSuspended = false ∧ v.started = true
  | .clearWifi => v.WriterMode
  | .resumeReader => v.writerSuspended = true ∧ v.opened = false
  | .setWrite => v.writerSuspended = true ∧ v.readerSuspended = false ∧ v.opened = false
  | .setWifi =>
    v.stateWrite = 1 ∧ v.writerSuspended = true ∧ v.readerSuspended = false ∧ v.opened = false

/-- The flags are as the place of the handler says, and the reader is suspended
while the writer has the file open. -/
structure Mode (s : State) : Prop where
  handler : s.handler.Mode s.switch
  apart : s.writer.opened = true → s.readerSuspended = true

/-- The handler resumes the writer only once the writer has suspended itself,
suspends it only outside `sd_card_write`, and the writer does not open the file
between the handler's `vTaskResume` and `vTaskSuspend`. -/
def Orderly (s : State) (a : Act) : Prop :=
  (a = .handler → s.handler = .resumeWriter → s.writer ≠ .suspendSelf) ∧
  (a = .handler → s.handler = .suspendWriter → s.writer.opened = false) ∧
  (a = .writer → s.writer.opening = true → s.readerSuspended = true)

instance (s : State) (a : Act) : Decidable (Orderly s a) :=
  inferInstanceAs (Decidable (_ ∧ _ ∧ _))

theorem Switch.Settled.cases {v : Switch} (h : v.Settled) :
    v.ReaderMode ∨ (v.WriterMode ∧ v.last = some .staDisconnected) := by
  rcases h with ⟨hm, -⟩ | ⟨hm, -⟩ | hm
  · exact Or.inl hm
  · exact Or.inl hm
  · exact Or.inr hm

theorem mode_boot : Mode boot where
  handler := Or.inl ⟨⟨rfl, rfl, Or.inr rfl, rfl⟩, rfl⟩
  apart := nofun

/-- `Mode` looks at the handler and the switch only. -/
theorem mode_frame {s s' : State} (h : Mode s) (hh : s'.handler = s.handler)
    (hv : s'.switch = s.switch) : Mode s' where
  handler := by rw [hh, hv]; exact h.handler
  apart := by
    have ho : s'.writer.opened = s.writer.opened := congrArg Switch.opened hv
    have hr : s'.readerSuspended = s.readerSuspended := congrArg Switch.readerSuspended hv
    rw [ho, hr]
    exact h.apart

/-! ### The handler's statements -/

theorem mode_handler {s s' : State} (h : Mode s) (hok : Orderly s .handler)
    (hs : wifiEventHandler s = some s') : Mode s' := by
  obtain ⟨hstart, hclosed, -⟩ := hok
  have hm := h.handler
  unfold wifiEventHandler at hs
  cases hpc : s.handler with
  | idle => simp [hpc] at hs
  | testWrite =>
    simp only [hpc, Option.some.injEq] at hs hm
    subst hs
    refine ⟨?_, h.apart⟩
    rcases hm.cases with hr | ⟨hw, -⟩
    · rw [if_pos (show s.stateWrite = 1 from hr.stateWrite)]
      exact ⟨hr.stateWrite, hr.reader, hr.writer, hr.closed⟩
    · have hsw : s.stateWrite = 2 := hw.stateWrite
      rw [if_neg (by omega)]
      exact ⟨hw.stateWrite, hw.reader, hw.writer, hw.started⟩
  | resumeWriter =>
    simp only [hpc, Option.some.injEq] at hs hm
    subst hs
    exact ⟨⟨hm.stateWrite, rfl, by simpa [State.switch] using hstart rfl hpc⟩, h.apart⟩
  | suspendReader =>
    simp only [hpc, Option.some.injEq] at hs hm
    subst hs
    exact ⟨⟨hm.1, rfl, hm.2⟩, fun _ => rfl⟩
  | countWrite =>
    simp only [hpc, Option.some.injEq] at hs hm
    subst hs
    obtain ⟨hsw, hrs, hws, hst⟩ := hm
    have hsw : s.stateWrite = 1 := hsw
    exact ⟨⟨by simp [State.switch, hsw], hrs, hws, hst⟩, h.apart⟩
  | clearWifi =>
    simp only [hpc, Option.some.injEq] at hs hm
    subst hs
    exact ⟨Or.inr (Or.inr ⟨⟨hm.stateWrite, hm.reader, hm.writer, hm.started⟩, rfl⟩), h.apart⟩
  | suspendWriter =>
    simp only [hpc, Option.some.injEq] at hs
    subst hs
    exact ⟨⟨rfl, hclosed rfl hpc⟩, h.apart⟩
  | resumeReader =>
    simp only [hpc, Option.some.injEq] at hs hm
    subst hs
    have ho : s.writer.opened = false := hm.2
    exact ⟨⟨hm.1, rfl, hm.2⟩, fun hx => absurd (ho.symm.trans hx) (by decide)⟩
  | setWrite =>
    simp only [hpc, Option.some.injEq] at hs hm
    subst hs
    exact ⟨⟨rfl, hm⟩, h.apart⟩
  | setWifi =>
    simp only [hpc, Option.some.injEq] at hs hm
    subst hs
    exact ⟨Or.inr (Or.inl ⟨⟨hm.1, hm.2.2.1, Or.inl hm.2.1, hm.2.2.2⟩, hm.2.1, rfl⟩), h.apart⟩

/-! ### The writer's statements -/

/-- The writer's first statement suspends it: the handler has not resumed it, so
the reader is the consumer. -/
theorem mode_suspendSelf {s : State} (h : Mode s) (hw : s.writer = .suspendSelf)
    (hws : s.writerSuspended = false) :
    Mode { s with writer := .receive, writerSuspended := true } := by
  have hnot : ¬ s.switch.started = true := by simp [State.switch, hw]
  have hrun : ¬ s.switch.writerSuspended = true := by simp [State.switch, hws]
  have hmode : s.switch.ReaderMode → (State.switch
      { s with writer := .receive, writerSuspended := true }).ReaderMode :=
    fun hm => ⟨hm.stateWrite, hm.reader, Or.inl rfl, rfl⟩
  have hset : s.switch.Settled → (State.switch
      { s with writer := .receive, writerSuspended := true }).Settled := by
    rintro (⟨hm, hl⟩ | ⟨-, hx, -⟩ | ⟨hm, -⟩)
    · exact Or.inl ⟨hmode hm, hl⟩
    · exact absurd hx hrun
    · exact absurd hm.started hnot
  have hm := h.handler
  refine ⟨?_, nofun⟩
  show s.handler.Mode _
  cases hpc : s.handler <;> rw [hpc] at hm
  case idle | testWrite | suspendWriter => exact hset hm
  case resumeWriter => exact hmode hm
  case suspendReader => exact absurd hm.2.2 hnot
  case countWrite => exact absurd hm.2.2.2 hnot
  case clearWifi => exact absurd hm.started hnot
  case resumeReader => exact absurd hm.1 hrun
  case setWrite => exact absurd hm.1 hrun
  case setWifi => exact absurd hm.2.1 hrun

theorem mode_running {s : State} (h : Mode s) (hws : s.writerSuspended = false)
    (hst : s.writer ≠ .suspendSelf) {w : WriterPc} (hw : w ≠ .suspendSelf)
    (hopen : w.opened = true → s.readerSuspended = true) : Mode { s with writer := w } := by
  have hrun : ¬ s.switch.writerSuspended = true := by simp [State.switch, hws]
  have hnot : ¬ s.switch.ReaderMode := by
    intro hm
    rcases hm.writer with hx | hx
    · exact hrun hx
    · simp [State.switch, hst] at hx
  have hstart : (State.switch { s with writer := w }).started = true := by simp [State.switch, hw]
  have hmode : s.switch.WriterMode → (State.switch { s with writer := w }).WriterMode :=
    fun hm => ⟨hm.stateWrite, hm.reader, hm.writer, hstart⟩
  have hset : s.switch.Settled → (State.switch { s with writer := w }).Settled := by
    intro hm
    rcases hm.cases with hm | ⟨hm, hl⟩
    · exact absurd hm hnot
    · exact Or.inr (Or.inr ⟨hmode hm, hl⟩)
  have hm := h.handler
  refine ⟨?_, hopen⟩
  show s.handler.Mode _
  cases hpc : s.handler <;> rw [hpc] at hm
  case idle | testWrite | suspendWriter => exact hset hm
  case resumeWriter => exact absurd hm hnot
  case suspendReader => exact ⟨hm.1, hm.2.1, hstart⟩
  case countWrite => exact ⟨hm.1, hm.2.1, hm.2.2.1, hstart⟩
  case clearWifi => exact hmode hm
  case resumeReader => exact absurd hm.1 hrun
  case setWrite => exact absurd hm.1 hrun
  case setWifi => exact absurd hm.2.1 hrun

theorem mode_writer {s s' : State} (h : Mode s) (hok : Orderly s .writer)
    (hws : s.writerSuspended = false) (hs : wifiDisconectWriteSdCardTask s = some s') :
    Mode s' := by
  cases writer_cases hs with
  | suspendSelf hw =>
    exact mode_suspendSelf h hw hws
  | receive m rest hw hq =>
    have h' := mode_running h hws (by simp [hw]) (w := .sdCardWrite m .fopen) (by simp) nofun
    exact mode_frame h' rfl rfl
  | sdCardWrite m pc hw =>
    have hrun : ∀ w : WriterPc, w ≠ .suspendSelf →
        (w.opened = true → s.readerSuspended = true) → Mode { s with writer := w } :=
      fun w => mode_running h hws (by simp [hw])
    have hap := h.apart
    rw [hw] at hap
    cases pc with
    | fopen => exact mode_frame (hrun (.sdCardWrite m .header) (by simp)
        (fun _ => hok.2.2 rfl (by rw [hw]; rfl))) rfl rfl
    | header => exact mode_frame (hrun (.sdCardWrite m .count) (by simp) hap) rfl rfl
    | count => exact mode_frame (hrun (.sdCardWrite m .append) (by simp) hap) rfl rfl
    | append => exact mode_frame (hrun (.sdCardWrite m .fclose) (by simp) hap) rfl rfl
    | fclose => exact mode_frame (hrun .delay (by simp) nofun) rfl rfl
  | delay hw =>
    exact mode_running h hws (by simp [hw]) (by simp) nofun

/-! ### Every step -/

theorem mode_step {s s' : State} {a : Act} (h : Mode s) (hok : Orderly s a)
    (hs : step s a = some s') : Mode s' := by
  obtain ⟨e, pc, rfl, hidle, rfl, rfl⟩ | ⟨rfl, hs⟩ | ⟨rfl, hws, hs⟩ | ⟨rfl, -, hs⟩ |
    ⟨t, rfl, -, rfl⟩ | ⟨rfl, -, -, rfl⟩ | ⟨t, rfl, rfl⟩ | ⟨rfl, rfl⟩ := step_cases hs
  · have hm := h.handler
    rw [hidle] at hm
    cases e <;> exact ⟨hm, h.apart⟩
  · exact mode_handler h hok hs
  · exact mode_writer h hok hws hs
  · obtain ⟨r, i, l, f, u, b, q, tk, p, rfl⟩ := wifiConnectReadSdCardTask_frame hs
    exact mode_frame h rfl rfl
  · exact mode_frame h rfl rfl
  · exact mode_frame h rfl rfl
  · exact mode_frame h rfl rfl
  · exact mode_frame mode_boot rfl rfl

theorem mode_of_orderly {s : State} (h : system.Reaches Orderly s) : Mode s :=
  h.invariant (fun _ h0 => h0 ▸ mode_boot) fun _ _ _ hm hok hs => mode_step hm hok hs

/-! ### The consumer -/

theorem reader_of_published {s s' : State} {a : Act} (hs : step s a = some s')
    (hp : s'.published ≠ s.published) : s.readerSuspended = false := by
  obtain ⟨e, pc, rfl, -, -, rfl⟩ | ⟨rfl, hs⟩ | ⟨rfl, -, hs⟩ | ⟨rfl, hrs, -⟩ | ⟨t, rfl, -, rfl⟩ |
    ⟨rfl, -, -, rfl⟩ | ⟨t, rfl, rfl⟩ | ⟨rfl, rfl⟩ := step_cases hs
  · exact absurd rfl hp
  · obtain ⟨pc, sw, wf, ws, rs, e, rfl⟩ := wifiEventHandler_frame hs
    exact absurd rfl hp
  · obtain ⟨w, ws, i, f, st, u, q, tk, wr, rfl⟩ := wifiDisconectWriteSdCardTask_frame hs
    exact absurd rfl hp
  · exact hrs
  all_goals exact absurd rfl hp

theorem writer_of_written {s s' : State} {a : Act} (hs : step s a = some s')
    (hp : s'.written ≠ s.written) : s.writerSuspended = false ∧ s.writer.opened = true := by
  obtain ⟨e, pc, rfl, -, -, rfl⟩ | ⟨rfl, hs⟩ | ⟨rfl, hws, hs⟩ | ⟨rfl, -, hs⟩ | ⟨t, rfl, -, rfl⟩ |
    ⟨rfl, -, -, rfl⟩ | ⟨t, rfl, rfl⟩ | ⟨rfl, rfl⟩ := step_cases hs
  · exact absurd rfl hp
  · obtain ⟨pc, sw, wf, ws, rs, e, rfl⟩ := wifiEventHandler_frame hs
    exact absurd rfl hp
  · refine ⟨hws, ?_⟩
    cases writer_cases hs with
    | sdCardWrite m pc hw =>
      cases pc with
      | append => exact congrArg WriterPc.opened hw
      | _ => exact absurd rfl hp
    | _ => exact absurd rfl hp
  · obtain ⟨r, i, l, f, u, b, q, tk, p, rfl⟩ := wifiConnectReadSdCardTask_frame hs
    exact absurd rfl hp
  all_goals exact absurd rfl hp

/-- **Connectivity decides the consumer, exclusively.** -/
structure Exclusive (s : State) : Prop where
  one : s.writerSuspended = !s.readerSuspended
  /-- It is the reader if the last event handled was `STA_GOT_IP`, else the writer. -/
  consumer : s.readerSuspended = false ↔ s.last = some .staGotIp
  /-- A record is published only while the station has an address, -/
  published : ∀ a s', step s a = some s' → s'.published ≠ s.published → s.last = some .staGotIp
  /-- and goes to the SD card otherwise. -/
  stored : ∀ a s', step s a = some s' → s'.written ≠ s.written → s.last ≠ some .staGotIp
  apart : s.writer.opened = true → s.readerSuspended = true

/-- **Exclusive from the first event on**: in orderly runs, between two events,
one task consumes and it is the right one exactly if an event was handled. -/
theorem exclusive_iff {s : State} (h : system.Reaches Orderly s) (hidle : s.handler = .idle) :
    Exclusive s ↔ s.last ≠ none := by
  have hm := mode_of_orderly h
  have hset : s.switch.Settled := by
    have := hm.handler
    rwa [hidle] at this
  constructor
  · rintro he hl
    rcases hset with ⟨hr, -⟩ | ⟨-, -, hl'⟩ | ⟨-, hl'⟩
    · have := he.consumer.mp hr.reader
      simp [hl] at this
    · exact absurd (hl.symm.trans hl') (by simp)
    · exact absurd (hl.symm.trans hl') (by simp)
  · intro hl
    rcases hset with ⟨-, hl'⟩ | ⟨hr, hws, hl'⟩ | ⟨hw, hl'⟩
    · exact absurd hl' hl
    · have hrs : s.readerSuspended = false := hr.reader
      have hws : s.writerSuspended = true := hws
      have hl' : s.last = some .staGotIp := hl'
      refine ⟨by rw [hrs, hws]; rfl, by simp [hrs, hl'], fun _ _ _ _ => hl',
        fun a s' hs hp => ?_, hm.apart⟩
      exact absurd ((writer_of_written hs hp).1.symm.trans hws) (by decide)
    · have hrs : s.readerSuspended = true := hw.reader
      have hws : s.writerSuspended = false := hw.writer
      have hl' : s.last = some .staDisconnected := hl'
      refine ⟨by rw [hrs, hws]; rfl, by simp [hrs, hl'], fun a s' hs hp => ?_,
        fun _ _ _ _ => by simp [hl'], hm.apart⟩
      exact absurd ((reader_of_published hs hp).symm.trans hrs) (by decide)

/-- Start-up, a disconnection, a record half stored and its line printed. -/
def storing : List Act :=
  .writer :: .event .staDisconnected :: List.replicate 5 Act.handler ++
    [Act.format ['a'], .send] ++ List.replicate 5 Act.writer

theorem exclusive_after_storing :
    ∃ s, system.execute Orderly boot storing = some s ∧ s.written ≠ [] ∧
      (Exclusive s ↔ s.last ≠ none) :=
  ⟨_, rfl, by decide,
    exclusive_iff (Lib.System.reaches_of_execute storing (.init rfl) rfl) rfl⟩

/-- After start-up the reader runs with no connection made, an early event
suspends both tasks, and `STA_GOT_IP` in the middle of `sd_card_write` lets the
reader come to its `unlink` with the file open. -/
theorem not_exclusive :
    (¬ ∀ s, system.Reachable s → s.handler = .idle → s.last = none → Exclusive s) ∧
    (¬ ∀ s, system.Reachable s → s.handler = .idle → s.last = some .staDisconnected →
      Exclusive s) ∧
    (¬ ∀ s, system.Reachable s → s.handler = .idle → s.last = some .staGotIp →
      Exclusive s) := by
  refine ⟨fun h => ?_, fun h => ?_, fun h => ?_⟩
  · have hrun : ∃ s, system.Reachable s ∧ s.handler = .idle ∧ s.last = none ∧
        s.readerSuspended = false ∧ s.writerSuspended = true :=
      Lib.System.exists_of_execute [.writer] rfl (by decide)
    obtain ⟨s, hs, hidle, hl, hrs, -⟩ := hrun
    have := (h s hs hidle hl).consumer.mp hrs
    simp [hl] at this
  · have hrun : ∃ s, system.Reachable s ∧ s.handler = .idle ∧ s.last = some .staDisconnected ∧
        s.readerSuspended = true ∧ s.writerSuspended = true :=
      Lib.System.exists_of_execute
        (.event .staDisconnected :: List.replicate 5 .handler ++ [.writer]) rfl (by decide)
    obtain ⟨s, hs, hidle, hl, hrs, hws⟩ := hrun
    have := (h s hs hidle hl).one
    simp [hrs, hws] at this
  · have hrun : ∃ s, system.Reachable s ∧ s.handler = .idle ∧ s.last = some .staGotIp ∧
        s.writer.opened = true ∧ s.reader = .unlink ∧ s.readerSuspended = false :=
      Lib.System.exists_of_execute
        (storing ++ .event .staGotIp :: List.replicate 4 .handler ++ List.replicate 8 .reader)
        rfl (by decide)
    obtain ⟨s, hs, hidle, hl, ho, -, hrs⟩ := hrun
    exact absurd (hrs.symm.trans ((h s hs hidle hl).apart ho)) (by decide)

end Datk.Store
