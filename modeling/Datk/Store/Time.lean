import Datk.Store.Conserved

/-!
# The time text of a record

A record is passed by value, but its `time_values` is a pointer: to `time_str`,
which `DS1302_getClock` prints over for the next record, or into the `buffer` of
a call of `sd_card_read` that has returned.  What such a pointer reads as is
what was last put there.

`faithful_of_fresh` proves that the text printed or published for a record is
its own, in all runs where `time_str` is printed over only when no record is on
its way (or with the same text), and the dead `buffer` is left alone until
`mqtt_app_pub_json` has read it.  With more than one record on its way they all
show the time of the last.
-/

namespace Datk.Store

def ReaderPc.publishing : ReaderPc → Bool
  | .publish _ _ => true
  | _ => false

/-- The record that the writer has received and not yet printed. -/
def WriterPc.unprinted : WriterPc → List Nat
  | .sdCardWrite _ .fclose => []
  | .sdCardWrite m _ => [m.seq]
  | _ => []

/-- Storage that a record still points to is not overwritten with another text. -/
def Fresh (s : State) : Act → Prop
  | .format t =>
    t = s.timeStr ∨ s.sensorQueue = [] ∧ s.writer.unprinted = [] ∧ s.reader.held = []
  | .stack t => t = s.buffer ∨ s.reader.publishing = false
  | _ => True

instance (s : State) : ∀ a, Decidable (Fresh s a)
  | .format _ => inferInstanceAs (Decidable (_ ∨ _ ∧ _ ∧ _))
  | .stack _ => inferInstanceAs (Decidable (_ ∨ _))
  | .event _ | .handler | .writer | .reader | .send | .restart => .isTrue trivial

/-- **Each record shows its own time.** -/
structure Faithful (s : State) : Prop where
  /-- `sd_card_write` prints the text formatted when the record was enqueued, -/
  written : ∀ d ∈ s.written, s.formatted[d.seq]? = some d.time
  /-- which is published for a record that comes straight from the queue. -/
  queue : ∀ p ∈ s.published, ∀ k, p.source = .queue k → s.formatted[k]? = some p.time
  /-- For a record drained from the SD card it is the text in its line. -/
  file : ∀ p ∈ s.published, ∀ d, p.source = .file (.data d) → p.time = d.column ∧ d ∈ s.written

/-- What a record on its way points to is its own time. -/
def State.Shows (s : State) (m : ModuleData) : Prop :=
  m.timeValues = .timeStr ∧ s.formatted[m.seq]? = some s.timeStr

/-- `Faithful`, with what is on its way to be printed or published. -/
structure Current (s : State) : Prop extends Faithful s where
  pending : ∀ m ∈ s.sensorQueue, s.Shows m
  writer : ∀ m pc, s.writer = .sdCardWrite m pc → m.seq ∈ s.writer.unprinted → s.Shows m
  reader : ∀ m, s.reader = .publishDirect m → s.Shows m
  fetched : ∀ j d, s.reader = .publish j (.data d) → s.buffer = d.column ∧ d ∈ s.written
  stream : ∀ d, .data d ∈ s.stream → d ∈ s.written
  lines : ∀ d ∈ records s.file, d ∈ s.written

theorem current_boot : Current boot where
  written := nofun
  queue := nofun
  file := nofun
  pending := nofun
  writer := nofun
  reader := nofun
  fetched := nofun
  stream := nofun
  lines := nofun

theorem State.Shows.text {s : State} {m : ModuleData} (h : s.Shows m) :
    s.formatted[m.seq]? = some (s.deref m.timeValues) := by
  rw [h.1]
  exact h.2

/-! ### The statements of the tasks -/

theorem Current.writer_step {s s' : State} (h : Current s)
    (hs : wifiDisconectWriteSdCardTask s = some s') : Current s' := by
  cases writer_cases hs with
  | receive m rest hw hq =>
    have hpend := h.pending
    rw [hq] at hpend
    refine { h with
      pending := fun x hx => hpend x (List.mem_cons_of_mem _ hx)
      writer := ?_ }
    rintro x pc ⟨⟩ -
    exact hpend m List.mem_cons_self
  | sdCardWrite m pc hw =>
    have hm := h.writer m pc hw
    rw [hw] at hm
    cases pc with
    | fopen =>
      refine { h with
        writer := ?_
        stream := fun d hd => (by cases hd)
        lines := fun d hd => h.lines d (by simpa [sdCardWrite, records] using hd) }
      rintro x pc ⟨⟩ -
      exact hm List.mem_cons_self
    | header =>
      refine { h with writer := ?_, stream := fun d hd => h.stream d ?_ }
      · rintro x pc ⟨⟩ -
        exact hm List.mem_cons_self
      · simp only [sdCardWrite] at hd
        split at hd
        · exact (List.mem_append.mp hd).resolve_right (by simp)
        · exact hd
    | count =>
      refine { h with writer := ?_ }
      rintro x pc ⟨⟩ -
      exact hm List.mem_cons_self
    | append =>
      have htext := (hm List.mem_cons_self).text
      refine { h with
        written := Lib.forall_mem_concat h.written htext
        file := fun p hp d hd => ?_
        writer := ?_
        fetched := fun j d hd => ?_
        stream := fun d hd => ?_
        lines := fun d hd => List.mem_append_left _ (h.lines d hd) }
      · obtain ⟨ht, hwr⟩ := h.file p hp d hd
        exact ⟨ht, List.mem_append_left _ hwr⟩
      · rintro x pc ⟨⟩ hx
        cases hx
      · obtain ⟨ht, hwr⟩ := h.fetched j d hd
        exact ⟨ht, List.mem_append_left _ hwr⟩
      · rcases List.mem_append.mp hd with hd | hd
        · exact List.mem_append_left _ (h.stream d hd)
        · cases List.mem_singleton.mp hd
          exact List.mem_append_right _ List.mem_cons_self
    | fclose =>
      exact { h with
        writer := by simp [sdCardWrite]
        stream := fun d hd => (by cases hd)
        lines := fun d hd => (mem_records_flushed hd).elim (h.lines d) (h.stream d) }
  | _ =>
    exact { h with writer := by simp }

theorem Current.reader_step {s s' : State} (h : Current s)
    (hs : wifiConnectReadSdCardTask s = some s') : Current s' := by
  cases reader_cases hs with
  | read j t hr ht =>
    refine { h with reader := by simp, fetched := fun i d hi => ?_ }
    have hd : sdCardRead s.file s.line = .data d := (ReaderPc.publish.inj hi).2
    refine ⟨?_, h.lines d (mem_records_of_sdCardRead hd)⟩
    rw [hd] at ht
    exact ht
  | publish j f hr =>
    refine { h with
      queue := Lib.forall_mem_concat h.queue (by simp)
      file := Lib.forall_mem_concat h.file fun d hd => ?_
      reader := by simp
      fetched := by simp }
    cases hd
    exact h.fetched j d hr
  | unlink hr =>
    exact { h with reader := by simp, fetched := by simp, lines := by simp }
  | receive m rest hr hq =>
    have hpend := h.pending
    rw [hq] at hpend
    refine { h with
      pending := fun x hx => hpend x (List.mem_cons_of_mem _ hx)
      reader := ?_
      fetched := by simp }
    rintro x ⟨⟩
    exact hpend m List.mem_cons_self
  | publishDirect m hr =>
    refine { h with
      queue := Lib.forall_mem_concat h.queue fun k hk => ?_
      file := Lib.forall_mem_concat h.file (by simp)
      reader := by simp
      fetched := by simp }
    cases hk
    exact (h.reader m hr).text
  | _ =>
    exact { h with reader := by simp, fetched := by simp }

/-! ### The statements of the producer -/

theorem Current.format {s : State} (h : Current s) {t : Text} {p : ProducerPc}
    (hok : Fresh s (.format t)) : Current { s with producer := p, timeStr := t } := by
  rcases hok with rfl | ⟨hq, hheld⟩
  · exact { h with }
  · obtain ⟨hw, hr⟩ := hheld
    refine { h with
      pending := fun m hm => ?_
      writer := fun m pc _ hm => ?_
      reader := fun m hm => ?_ }
    · rw [hq] at hm
      cases hm
    · rw [hw] at hm
      cases hm
    · rw [hm] at hr
      cases hr

theorem getElem?_append_of_some {ts : List Text} {t u : Text} {k : Nat} (h : ts[k]? = some u) :
    (ts ++ [t])[k]? = some u := by
  rw [List.getElem?_append_left (List.getElem?_eq_some_iff.mp h).1, h]

theorem Current.send {s : State} (h : Current s) {p : ProducerPc} :
    Current
      { s with
        producer := p
        sensorQueue := s.sensorQueue ++ [⟨s.formatted.length, .timeStr⟩]
        formatted := s.formatted ++ [s.timeStr] } := by
  refine { h with
    written := fun d hd => getElem?_append_of_some (h.written d hd)
    queue := fun p hp k hk => getElem?_append_of_some (h.queue p hp k hk)
    pending := Lib.forall_mem_concat (fun m hm => ?_) ⟨rfl, List.getElem?_concat_length⟩
    writer := fun m pc hw hm => ?_
    reader := fun m hm => ?_ }
  · obtain ⟨href, htext⟩ := h.pending m hm
    exact ⟨href, getElem?_append_of_some htext⟩
  · obtain ⟨href, htext⟩ := h.writer m pc hw hm
    exact ⟨href, getElem?_append_of_some htext⟩
  · obtain ⟨href, htext⟩ := h.reader m hm
    exact ⟨href, getElem?_append_of_some htext⟩

theorem Current.step {s s' : State} {a : Act} (h : Current s) (hok : Fresh s a)
    (hs : step s a = some s') : Current s' := by
  obtain ⟨e, pc, rfl, -, -, rfl⟩ | ⟨rfl, hs⟩ | ⟨rfl, -, hs⟩ | ⟨rfl, -, hs⟩ | ⟨t, rfl, -, rfl⟩ |
    ⟨rfl, -, -, rfl⟩ | ⟨t, rfl, rfl⟩ | ⟨rfl, rfl⟩ := step_cases hs
  · exact { h with }
  · obtain ⟨pc, sw, wf, ws, rs, e, rfl⟩ := wifiEventHandler_frame hs
    exact { h with }
  · exact h.writer_step hs
  · exact h.reader_step hs
  · exact h.format hok
  · exact h.send
  · rcases hok with rfl | hr
    · exact h
    · refine { h with fetched := fun j d hd => ?_ }
      rw [show s.reader = .publish j (.data d) from hd] at hr
      cases hr
  · exact { h with
      pending := nofun
      writer := nofun
      reader := nofun
      fetched := nofun
      stream := nofun }

/-- **Each record shows its own time**, in all runs that overwrite no storage a
record still points to; restarts and any interleaving of the tasks included. -/
theorem faithful_of_fresh {s : State} (h : system.Reaches Fresh s) : Faithful s :=
  (h.invariant (fun _ h0 => h0 ▸ current_boot)
    fun _ _ _ hc hok hs => hc.step hok hs : Current s).toFaithful

/-- A record stored and drained; the dead `buffer` is overwritten after the
publication. -/
theorem faithful_after_drainOne :
    ∃ s, system.execute Fresh boot (drainOne ++ [.stack ['x']]) = some s ∧
      s.published = [⟨.file (.data ⟨0, ['a']⟩), [' ', 'a']⟩] ∧ Faithful s :=
  ⟨_, rfl, rfl, faithful_of_fresh
    (Lib.System.reaches_of_execute (drainOne ++ [.stack ['x']]) (.init rfl) rfl)⟩

/-- With two records in the queue the first is stored with the time of the
second, and the dead `buffer` may be overwritten before it is published. -/
theorem not_faithful :
    (¬ ∀ s, system.Reachable s → ∀ d ∈ s.written, s.formatted[d.seq]? = some d.time) ∧
    (¬ ∀ s, system.Reachable s → ∀ p ∈ s.published, ∀ d, p.source = .file (.data d) →
      p.time = d.column) := by
  refine ⟨fun h => ?_, fun h => ?_⟩
  · have hrun : ∃ s, system.Reachable s ∧ ⟨0, ['b']⟩ ∈ s.written ∧
        s.formatted[0]? = some ['a'] :=
      Lib.System.exists_of_execute
        (.writer :: disconnect ++ enqueue ['a'] ++ enqueue ['b'] ++ store) rfl (by decide)
    obtain ⟨s, hs, hd, ha⟩ := hrun
    have := h s hs _ hd
    simp [ha] at this
  · have hrun : ∃ s, system.Reachable s ∧
        ⟨.file (.data ⟨0, ['a']⟩), ['x']⟩ ∈ s.published :=
      Lib.System.exists_of_execute
        (.writer :: disconnect ++ enqueue ['a'] ++ store ++ gotIp ++
          List.replicate 3 .reader ++ [.stack ['x'], .reader]) rfl (by decide)
    obtain ⟨s, hs, hp⟩ := hrun
    exact absurd (h s hs _ hp _ rfl) (by decide)

end Datk.Store
